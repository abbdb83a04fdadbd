import IdPattern.Pattern.Faults
import IdPattern.Proofs.Steps

/-!
# The grammar of tokens

Which token stands before which text, told without reading: `Token.StandsBefore`. Only a name has to
look at what follows it, because it goes on as long as it can; every other token ends by itself.

Reading a token finds it exactly where it stands (`Token.read?_eq_some_iff`), so the next token of
a place is known from the text after the blanks (`Cursor.next_eq_some_iff`), and the one fault
there is comes from a quote that is never closed (`Cursor.next_eq_error_iff`).
-/

namespace IdPattern

namespace Token

/-- The text `rest` can follow the token, and the token can be read. -/
def StandsBefore (rest : List Char) : Token → Prop
  | join | groupOpen | groupClose => True
  | text content => IsContent content
  | name first others => isNameChar first ∧ (∀ d ∈ others, isNameChar d) ∧ EndsName rest
  | unknown c => isBlank c = false ∧ isNameChar c = false ∧ !(['"', '+', '(', ')'].contains c)

/-- A lexeme begins with the head of its token. -/
theorem exists_lexeme_eq (t : Token) : ∃ cs, t.lexeme = t.head :: cs := by
  cases t <;> exact ⟨_, rfl⟩

/-- No token begins with a blank. -/
theorem StandsBefore.isBlank_head {t : Token} {rest : List Char} (h : t.StandsBefore rest) :
    isBlank t.head = false := by
  cases t with
  | join | groupOpen | groupClose | text => rfl
  | name => exact isBlank_of_isNameChar h.1
  | unknown => exact h.1

/-- A token that was read can stand where it was read. -/
theorem standsBefore_of_read? {c : Char} {cs rest : List Char} {t : Token}
    (hc : isBlank c = false) (h : read? c cs = some (t, rest)) : t.StandsBefore rest := by
  unfold read? at h
  split at h
  · simp only [Option.map_eq_some_iff, Prod.exists, Prod.mk.injEq] at h
    obtain ⟨content, rest', hs, rfl, rfl⟩ := h
    exact isContent_of_splitQuoted hs
  · repeat' split at h
    all_goals
      simp only [Option.some.injEq, Prod.mk.injEq] at h
      obtain ⟨rfl, rfl⟩ := h
    · trivial
    · trivial
    · trivial
    · next hn =>
      exact ⟨hn, fun _ => List.mem_takeWhile_imp, head?_dropWhile isNameChar cs⟩
    · next hq hj ho hg hn =>
      exact ⟨hc, by simpa using hn, by simp [hq, hj, ho, hg]⟩

/-- A token is read wherever it can stand. -/
theorem read?_of_standsBefore {t : Token} {cs rest : List Char} (h : t.StandsBefore rest)
    (hcs : t.lexeme ++ rest = t.head :: cs) : read? t.head cs = some (t, rest) := by
  cases t with
  | join | groupOpen | groupClose =>
    cases hcs
    rfl
  | text content =>
    obtain rfl : content ++ '"' :: rest = cs := by simpa using hcs
    simp [read?, splitQuoted_of_append h rfl]
  | name first others =>
    obtain ⟨hfirst, hothers, hrest⟩ := h
    obtain rfl : others ++ rest = cs := by simpa using hcs
    rw [head, read?_name hfirst, takeWhile_name_append hothers hrest,
      dropWhile_name_append hothers hrest]
  | unknown c =>
    obtain ⟨hb, hn, hc⟩ := h
    obtain rfl : rest = cs := by simpa using hcs
    simp at hc
    simp [read?, hn, hc]

/-- A token is found exactly where it stands. -/
theorem read?_eq_some_iff {c : Char} {cs rest : List Char} {t : Token} (hc : isBlank c = false) :
    read? c cs = some (t, rest) ↔ t.lexeme ++ rest = c :: cs ∧ t.StandsBefore rest := by
  constructor
  · intro h
    exact ⟨lexeme_append_of_read? h, standsBefore_of_read? hc h⟩
  · rintro ⟨heq, h⟩
    obtain ⟨ds, hds⟩ := t.exists_lexeme_eq
    obtain rfl : t.head = c := by
      rw [hds, List.cons_append] at heq
      exact (List.cons.inj heq).1
    exact read?_of_standsBefore h heq

/-- No token can be read exactly at a quote that is never closed. -/
theorem read?_eq_none_iff {c : Char} {cs : List Char} :
    read? c cs = none ↔ c = '"' ∧ QuotesEscaped cs := by
  rw [← splitQuoted_eq_none_iff]
  unfold read?
  by_cases hq : c = '"'
  · rw [if_pos hq, Option.map_eq_none_iff, and_iff_right hq]
  · rw [if_neg hq]
    refine iff_of_false ?_ fun h => hq h.1
    split_ifs <;> simp

end Token

namespace Cursor

/-- The next token stands after blanks. -/
theorem next_eq_some_iff {p : Cursor} {f : Found} :
    p.next = .ok (some f) ↔
      ∃ w, IsBlankText w ∧ p.rest = w ++ f.token.lexeme ++ f.after.rest ∧
        f.token.StandsBefore f.after.rest ∧ f.span = .over (p.offset + size w) f.token.lexeme ∧
        f.after.offset = f.span.stop := by
  obtain ⟨o, cs⟩ := p
  obtain ⟨t, span, q, rest⟩ := f
  constructor
  · intro h
    rcases isBlankText_or_split cs with hcs | ⟨w, c, ds, hw, hc, rfl⟩
    · simp [next_eq_none_iff (p := ⟨o, cs⟩).2 hcs] at h
    · rw [next_append hw, next_cons hc] at h
      split at h
      · cases h
      · next hread =>
        cases h
        obtain ⟨hlexeme, hstands⟩ := (Token.read?_eq_some_iff hc).1 hread
        exact ⟨w, hw, by rw [← hlexeme, List.append_assoc], hstands, rfl, rfl⟩
  · rintro ⟨w, hw, hcs, hstands, hspan, hq⟩
    obtain ⟨ds, hds⟩ := t.exists_lexeme_eq
    have hread : Token.read? t.head (ds ++ rest) = some (t, rest) :=
      Token.read?_of_standsBefore hstands (by rw [hds, List.cons_append])
    simp only at hcs hspan hq
    subst hcs hspan hq
    rw [List.append_assoc, next_append hw, hds, List.cons_append, next_cons hstands.isBlank_head,
      hread, ← hds]
    rfl

/-- The only fault is a quote after blanks that is never closed. -/
theorem next_eq_error_iff {p : Cursor} {e : ParseError} :
    p.next = .error e ↔
      ∃ w content, IsBlankText w ∧ p.rest = w ++ '"' :: content ∧ QuotesEscaped content ∧
        e = ⟨⟨p.offset + size w, p.stop⟩, .unterminatedText⟩ := by
  obtain ⟨o, cs⟩ := p
  constructor
  · intro h
    rcases isBlankText_or_split cs with hcs | ⟨w, c, ds, hw, hc, rfl⟩
    · simp [next_eq_none_iff (p := ⟨o, cs⟩).2 hcs] at h
    · rw [next_append hw, next_cons hc] at h
      split at h
      · next hread =>
        cases h
        obtain ⟨rfl, hquotes⟩ := Token.read?_eq_none_iff.1 hread
        exact ⟨w, ds, hw, rfl, hquotes, by simp [Nat.add_assoc]⟩
      · cases h
  · rintro ⟨w, content, hw, rfl, hquotes, rfl⟩
    rw [next_append hw, next_cons (by decide), Token.read?_eq_none_iff.2 ⟨rfl, hquotes⟩]
    simp [Nat.add_assoc]

end Cursor

end IdPattern
