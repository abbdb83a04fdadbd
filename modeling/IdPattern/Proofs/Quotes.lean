import IdPattern.Pattern.Grammar

/-!
# What can stand between two quotes

`splitQuoted` looks for the closing quote from left to right, one character ahead. Its result can be
told without a scan: the content has a backslash right before each of its quotes and does not end in
a backslash (`IsContent`), and these two facts and the text fix where the content ends
(`splitQuoted_eq_some_iff`).

On such contents `escape` undoes `unescape`, so that a content and the text it stands for determine
each other. Everything here is proved along the pairs `\"`: a content is empty, begins with a pair,
or begins with a character that is neither a quote nor the backslash of a pair.
-/

namespace IdPattern

/-! ## Escaped quotes -/

@[simp] theorem quotesEscaped_nil : QuotesEscaped [] := by
  intro before after h
  simp at h

/-- A pair `\"` in front can be left out. Its own quote is escaped, and it escapes no other. -/
@[simp] theorem quotesEscaped_pair_iff {cs : List Char} :
    QuotesEscaped ('\\' :: '"' :: cs) ↔ QuotesEscaped cs := by
  constructor
  · rintro h before after rfl
    have hlast := h ('\\' :: '"' :: before) after rfl
    cases before with
    | nil =>
      -- right before a first quote of `cs` stands the quote of the pair, which escapes nothing
      simp at hlast
    | cons d before => simpa using hlast
  · intro h before after heq
    match before, heq with
    | [], heq => simp at heq
    | ['\\'], _ => rfl
    | _ :: _ :: before, heq =>
      simp only [List.cons_append, List.cons.injEq] at heq
      obtain ⟨-, -, rfl⟩ := heq
      simp [List.getLast?_cons, h before after rfl]

/-- A character in front that begins no pair can be left out, unless it is a quote. -/
theorem quotesEscaped_cons_iff {c : Char} {cs : List Char}
    (hpair : ∀ ds, c = '\\' → cs = '"' :: ds → False) :
    QuotesEscaped (c :: cs) ↔ c ≠ '"' ∧ QuotesEscaped cs := by
  constructor
  · intro h
    refine ⟨?_, ?_⟩
    · rintro rfl
      simpa using h [] cs rfl
    · rintro before after rfl
      have hlast := h (c :: before) after rfl
      cases before with
      | nil => exact (hpair after (by simpa using hlast) rfl).elim
      | cons d before => simpa using hlast
  · rintro ⟨hc, h⟩ before after heq
    cases before with
    | nil => exact absurd (List.cons.inj heq).1 hc
    | cons d before =>
      simp only [List.cons_append, List.cons.injEq] at heq
      obtain ⟨-, rfl⟩ := heq
      simp [List.getLast?_cons, h before after rfl]

@[simp] theorem quotesEscaped_escape (v : List Char) : QuotesEscaped (escape v) := by
  induction v with
  | nil => exact quotesEscaped_nil
  | cons c v ih =>
    by_cases hc : c = '"'
    · simpa [escape, hc] using quotesEscaped_pair_iff.2 ih
    · rw [escape, if_neg hc]
      exact (quotesEscaped_cons_iff fun rest _ h => escape_ne_quote_cons v rest h).2 ⟨hc, ih⟩

/-- Where every quote is escaped, writing the escapes again gives the text back. -/
theorem escape_unescape {cs : List Char} (h : QuotesEscaped cs) : escape (unescape cs) = cs := by
  fun_induction unescape cs with
  | case1 => rfl
  | case2 cs ih => simp [escape, ih (quotesEscaped_pair_iff.1 h)]
  | case3 c cs hpair ih =>
    obtain ⟨hc, hcs⟩ := (quotesEscaped_cons_iff hpair).1 h
    simp [escape, hc, ih hcs]

/-- A backslash is only ever put before a quote, so the last character stays. -/
@[simp] theorem getLast?_escape (v : List Char) : (escape v).getLast? = v.getLast? := by
  induction v with
  | nil => rfl
  | cons c v ih => by_cases hc : c = '"' <;> simp [escape, hc, List.getLast?_cons, ih]

/-- Resolving pairs keeps the last character, too: of a pair the quote stays. -/
theorem getLast?_unescape {cs : List Char} (h : QuotesEscaped cs) :
    (unescape cs).getLast? = cs.getLast? := by
  rw [← getLast?_escape, escape_unescape h]

/-! ## Contents -/

/-- What can stand between two quotes. A backslash at the end would take the closing quote along. -/
structure IsContent (cs : List Char) : Prop where
  quotesEscaped : QuotesEscaped cs
  getLast?_ne : cs.getLast? ≠ some '\\'

@[simp] theorem isContent_nil : IsContent [] := ⟨quotesEscaped_nil, by simp⟩

/-- A pair in front can be left out of a content. -/
@[simp] theorem isContent_pair_iff {cs : List Char} :
    IsContent ('\\' :: '"' :: cs) ↔ IsContent cs := by
  have hlast : ('\\' :: '"' :: cs).getLast? ≠ some '\\' ↔ cs.getLast? ≠ some '\\' := by
    cases cs <;> simp
  constructor
  · rintro ⟨h, h'⟩
    exact ⟨quotesEscaped_pair_iff.1 h, hlast.1 h'⟩
  · rintro ⟨h, h'⟩
    exact ⟨quotesEscaped_pair_iff.2 h, hlast.2 h'⟩

/-- The side condition is that of the scan, which sees the closing quote: a backslash alone before
it begins a pair too. -/
theorem isContent_cons_iff {c : Char} {cs rest : List Char}
    (hpair : ∀ ds, c = '\\' → cs ++ '"' :: rest = '"' :: ds → False) :
    IsContent (c :: cs) ↔ c ≠ '"' ∧ IsContent cs := by
  have hpair' : ∀ ds, c = '\\' → cs = '"' :: ds → False := by
    rintro ds hc rfl
    exact hpair _ hc rfl
  have hlast : (c :: cs).getLast? ≠ some '\\' ↔ cs.getLast? ≠ some '\\' := by
    cases cs with
    | nil => simpa using fun hc => hpair rest hc rfl
    | cons d cs => simp
  constructor
  · rintro ⟨h, h'⟩
    obtain ⟨hc, hcs⟩ := (quotesEscaped_cons_iff hpair').1 h
    exact ⟨hc, hcs, hlast.1 h'⟩
  · rintro ⟨hc, hcs, h'⟩
    exact ⟨(quotesEscaped_cons_iff hpair').2 ⟨hc, hcs⟩, hlast.2 h'⟩

/-- An escaped text is a content unless it ends in a backslash of its own. -/
theorem isContent_escape {v : List Char} (h : v.getLast? ≠ some '\\') : IsContent (escape v) :=
  ⟨quotesEscaped_escape v, by rwa [getLast?_escape]⟩

/-! ## The closing quote -/

/-- What is split off at the closing quote is a content. -/
theorem isContent_of_splitQuoted {cs content rest : List Char}
    (h : splitQuoted cs = some (content, rest)) : IsContent content := by
  fun_induction splitQuoted cs generalizing content with
  | case1 => simp at h
  | case2 cs =>
    simp only [Option.some.injEq, Prod.mk.injEq] at h
    obtain ⟨rfl, -⟩ := h
    exact isContent_nil
  | case3 cs ih =>
    simp only [Option.map_eq_some_iff, Prod.exists, Prod.mk.injEq] at h
    obtain ⟨content', rest', h', rfl, rfl⟩ := h
    exact isContent_pair_iff.2 (ih h')
  | case4 c cs hq hpair ih =>
    simp only [Option.map_eq_some_iff, Prod.exists, Prod.mk.injEq] at h
    obtain ⟨content', rest', h', rfl, rfl⟩ := h
    rw [append_of_splitQuoted h'] at hpair
    exact (isContent_cons_iff hpair).2 ⟨hq, ih h'⟩

/-- The scan stops at the right quote: nothing in a content closes it before its end. -/
theorem splitQuoted_of_append {cs content rest : List Char} (h : IsContent content)
    (heq : cs = content ++ '"' :: rest) : splitQuoted cs = some (content, rest) := by
  fun_induction splitQuoted cs generalizing content with
  | case1 => simp at heq
  | case2 cs =>
    cases content with
    | nil => simpa using heq
    | cons d content =>
      simp only [List.cons_append, List.cons.injEq] at heq
      obtain ⟨rfl, -⟩ := heq
      -- a content cannot begin with the quote that closes it
      simpa using h.quotesEscaped [] content rfl
  | case3 cs ih =>
    cases content with
    | nil => simp at heq
    | cons c content =>
      cases content with
      | nil =>
        -- the closing quote would be taken along by the backslash at the end
        obtain ⟨rfl, -⟩ := List.cons.inj heq
        exact absurd rfl h.getLast?_ne
      | cons d content =>
        simp only [List.cons_append, List.cons.injEq] at heq
        obtain ⟨rfl, rfl, hcs⟩ := heq
        simp [ih (isContent_pair_iff.1 h) hcs]
  | case4 c cs hq hpair ih =>
    cases content with
    | nil => exact absurd (List.cons.inj heq).1 hq
    | cons d content =>
      simp only [List.cons_append, List.cons.injEq] at heq
      obtain ⟨rfl, rfl⟩ := heq
      simp [ih ((isContent_cons_iff hpair).1 h).2 rfl]

/-- Splitting at the closing quote, told without the scan. -/
theorem splitQuoted_eq_some_iff {cs content rest : List Char} :
    splitQuoted cs = some (content, rest) ↔ cs = content ++ '"' :: rest ∧ IsContent content := by
  constructor
  · intro h
    exact ⟨append_of_splitQuoted h, isContent_of_splitQuoted h⟩
  · rintro ⟨rfl, h⟩
    exact splitQuoted_of_append h rfl

/-- A quote that is never closed is followed by escaped quotes only. -/
theorem splitQuoted_eq_none_iff {cs : List Char} : splitQuoted cs = none ↔ QuotesEscaped cs := by
  fun_induction splitQuoted cs with
  | case1 => simp
  | case2 cs =>
    refine iff_of_false (by simp) fun h => ?_
    simpa using h [] cs rfl
  | case3 cs ih => rw [Option.map_eq_none_iff, ih, quotesEscaped_pair_iff]
  | case4 c cs hq hpair ih =>
    rw [Option.map_eq_none_iff, ih, quotesEscaped_cons_iff hpair, and_iff_right hq]

end IdPattern
