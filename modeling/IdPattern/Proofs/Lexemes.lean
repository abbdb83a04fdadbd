import IdPattern.Embed.Lexeme
import IdPattern.Proofs.Literals
import IdPattern.Proofs.Runs

/-!
# What a program text is cut into

For each sort of symbol it is said in front of which texts it is read as a lexeme of its own: a
delimiter or a mark of punctuation before almost anything (`lexeme?_delimiter`, `lexeme?_mark`), a
word where no identifier could go on and no literal begins (`lexeme?_word`), a string literal
wherever it ends (`lexeme?_of_string?`). A text that is put together of such symbols and of spaces
is cut into these symbols, wherever it begins (`CutInto.symbols?_append`).
-/

namespace IdPattern.Embed

/-! ## Readers that a first character rules out -/

theorem documentation?_eq_none {c : Char} (hc : c ≠ '/') (cs : List Char) :
    documentation? (c :: cs) = none := by
  simp [documentation?, hc]

/-- A text that begins with neither a blank nor a slash has nothing to pass over. -/
theorem afterGap_cons {c : Char} (hc : c ≠ '/') (hgap : isGap c = false) (cs : List Char) :
    afterGap (c :: cs) = c :: cs := by
  unfold afterGap
  split
  · next heq => exact absurd (List.cons.inj heq).1 hc
  · next heq => exact absurd (List.cons.inj heq).1 hc
  · next heq =>
    cases heq
    rw [hgap]
    rfl
  · next heq => cases heq

@[simp] theorem afterGap_space (cs : List Char) : afterGap (' ' :: cs) = afterGap cs := by
  rw [afterGap.eq_def]
  rfl

/-- The placeholder begins with a parenthesis and a slash. -/
theorem placeholder_isPrefixOf_eq_false {c : Char} {cs : List Char}
    (h : c ≠ '(' ∨ cs.head? ≠ some '/') : placeholder.isPrefixOf (c :: cs) = false := by
  have hplaceholder : placeholder = '(' :: '/' :: "*ERROR*/)".toList := by decide
  rw [hplaceholder, List.isPrefixOf_cons_cons]
  rcases h with hc | hcs
  · simp [Ne.symm hc]
  · cases cs with
    | nil => simp [List.isPrefixOf]
    | cons d ds =>
      have hd : d ≠ '/' := by simpa using hcs
      simp [List.isPrefixOf_cons_cons, Ne.symm hd]

theorem ten_le_of_hexValue? {c : Char} {d : Nat} (hc : c.isDigit = false)
    (h : hexValue? c = some d) : 10 ≤ d := by
  unfold hexValue? at h
  simp only [hc, Bool.false_eq_true, if_false] at h
  split at h
  · cases h
    omega
  · split at h
    · cases h
      omega
    · cases h

/-- A number begins with a digit. -/
theorem number?_eq_none {c : Char} (hc : c.isDigit = false) (cs : List Char) :
    number? (c :: cs) = none := by
  have hreal : afterReal? (c :: cs) = none := by simp [afterReal?, hc]
  have hzero : c ≠ '0' := by
    rintro rfl
    exact absurd hc (by decide)
  have hdigits : afterDigits? 10 false (c :: cs) = none := by
    rw [afterDigits?]
    split
    · rfl
    · split
      · next d hd =>
        have hle := ten_le_of_hexValue? hc hd
        rw [if_neg (by omega)]
        simp
      · rfl
  have hwhole : afterWhole? (c :: cs) = none := by
    unfold afterWhole?
    split
    · next heq => exact absurd (List.cons.inj heq).1 hzero
    · next heq => exact absurd (List.cons.inj heq).1 hzero
    · next heq => exact absurd (List.cons.inj heq).1 hzero
    · exact hdigits
  simp [number?, hreal, hwhole]

/-- Where neither a comment nor the placeholder begins, a lexeme is looked for in the order of the
reader: delimiters and strings, then characters, numbers, marks and names. -/
theorem lexeme?_cons {c : Char} {cs : List Char} (hc : c ≠ '/')
    (hplaceholder : c ≠ '(' ∨ cs.head? ≠ some '/') :
    lexeme? (c :: cs) =
      match delimiter? c with
      | some d => some (d, cs)
      | none =>
        match string? (c :: cs) with
        | some (.text, value, rest) => some (.text value, afterSuffix rest)
        | some (_, _, rest) => some (.other, afterSuffix rest)
        | none =>
          ((((character? (c :: cs)).or (number? (c :: cs))).or (punctuation? (c :: cs))).or
            (name? (c :: cs))).map (.other, ·) := by
  rw [lexeme?, documentation?_eq_none hc, placeholder_isPrefixOf_eq_false hplaceholder]
  rfl

/-- A delimiter is a lexeme by itself. A parenthesis with a slash after it could begin the
placeholder. -/
theorem lexeme?_delimiter {c : Char} {d : Lexeme} {rest : List Char} (hc : delimiter? c = some d)
    (hrest : rest.head? ≠ some '/') : lexeme? (c :: rest) = some (d, rest) := by
  have hslash : c ≠ '/' := by
    rintro rfl
    cases hc
  rw [lexeme?_cons hslash (.inr hrest), hc]

/-! ## Words

Below 128 the characters of identifiers are those of four ranges, so that nobody has to search the
tables for them.
-/

def wordStarts : Ranges := [(0x41, 0x5A), (0x5F, 0x5F), (0x61, 0x7A)]

def wordRests : Ranges := [(0x30, 0x39), (0x41, 0x5A), (0x5F, 0x5F), (0x61, 0x7A)]

theorem wordStarts_iff {c : Char} : wordStarts.has c ↔
    (0x41 ≤ c.toNat ∧ c.toNat ≤ 0x5A) ∨ c.toNat = 0x5F ∨ (0x61 ≤ c.toNat ∧ c.toNat ≤ 0x7A) := by
  simp only [wordStarts, Ranges.has, List.any_cons, List.any_nil, Bool.or_eq_true,
    Bool.and_eq_true, decide_eq_true_eq, Bool.false_eq_true, or_false]
  omega

theorem wordRests_iff {c : Char} : wordRests.has c ↔
    (0x30 ≤ c.toNat ∧ c.toNat ≤ 0x39) ∨ (0x41 ≤ c.toNat ∧ c.toNat ≤ 0x5A) ∨ c.toNat = 0x5F ∨
      (0x61 ≤ c.toNat ∧ c.toNat ≤ 0x7A) := by
  simp only [wordRests, Ranges.has, List.any_cons, List.any_nil, Bool.or_eq_true,
    Bool.and_eq_true, decide_eq_true_eq, Bool.false_eq_true, or_false]
  omega

/-- Below `n`, ranges from `n` on can be left out. -/
theorem has_append_of_lt (low high : Ranges) {n : Nat} {c : Char}
    (hhigh : high.all fun r => n ≤ r.1) (hc : c.toNat < n) :
    (low ++ high : Ranges).has c = low.has c := by
  have hnot : high.has c = false := by
    rw [Ranges.has, List.any_eq_false]
    intro r hr
    have hr : n ≤ r.1 := of_decide_eq_true (List.all_eq_true.1 hhigh r hr)
    simp only [Bool.and_eq_true, decide_eq_true_eq, not_and]
    omega
  rw [Ranges.has, List.any_append]
  exact (congrArg (_ || ·) hnot).trans (Bool.or_false _)

theorem isIdentifierLetter_eq_of_lt {c : Char} (hc : c.toNat < 128) :
    isIdentifierLetter c = Ranges.has [(0x41, 0x5A), (0x61, 0x7A)] c := by
  have hstart : identifierStartRanges.has c = Ranges.has [(0x41, 0x5A), (0x61, 0x7A)] c :=
    has_append_of_lt [(0x41, 0x5A), (0x61, 0x7A)] (identifierStartRanges.drop 2)
      (by decide +kernel) hc
  have hadded : addedLetterRanges.has c = Ranges.has [] c :=
    has_append_of_lt [] addedLetterRanges (by decide) hc
  rw [isIdentifierLetter, hstart, hadded]
  exact Bool.or_false _

/-- Of the characters below 128, identifiers begin with letters and the underscore. -/
theorem isIdentifierStart_eq_of_lt {c : Char} (hc : c.toNat < 128) :
    isIdentifierStart c = wordStarts.has c := by
  have hunderscore : c = '_' ↔ c.toNat = 0x5F := Char.toNat_inj.symm
  rw [isIdentifierStart, isIdentifierLetter_eq_of_lt hc, Bool.eq_iff_iff, wordStarts_iff]
  simp only [Ranges.has, List.any_cons, List.any_nil, Bool.or_eq_true, beq_iff_eq,
    Bool.and_eq_true, decide_eq_true_eq, hunderscore, Bool.false_eq_true, or_false]
  omega

theorem isIdentifierRest_eq_of_lt {c : Char} (hc : c.toNat < 128) :
    isIdentifierRest c = wordRests.has c := by
  have hrest : identifierRestRanges.has c = Ranges.has [(0x30, 0x39), (0x5F, 0x5F)] c :=
    has_append_of_lt [(0x30, 0x39), (0x5F, 0x5F)] (identifierRestRanges.drop 2)
      (by decide +kernel) hc
  rw [isIdentifierRest, isIdentifierLetter_eq_of_lt hc, hrest, Bool.eq_iff_iff, wordRests_iff]
  simp only [Ranges.has, List.any_cons, List.any_nil, Bool.or_eq_true, Bool.and_eq_true,
    decide_eq_true_eq, Bool.false_eq_true, or_false]
  omega

theorem lt_of_wordStarts {c : Char} (hc : wordStarts.has c) : c.toNat < 128 := by
  rw [wordStarts_iff] at hc
  omega

theorem lt_of_wordRests {c : Char} (hc : wordRests.has c) : c.toNat < 128 := by
  rw [wordRests_iff] at hc
  omega

/-- A text that begins with none of the marks by which strings and characters are told. -/
def NoMark (cs : List Char) : Prop := ∀ c ∈ cs.head?, c ≠ '"' ∧ c ≠ '#' ∧ c ≠ '\''

/-- A text that makes no string of a letter before it. One more letter may come before the mark. -/
def NoString (cs : List Char) : Prop := NoMark cs ∧ ∀ ds, cs = 'r' :: ds → NoMark ds

/-- A text that a word can end before. -/
def EndsWord (cs : List Char) : Prop := NoMark cs ∧ ∀ c ∈ cs.head?, isIdentifierRest c = false

theorem raw?_eq_none {cs : List Char} (h : NoMark cs) (f : Flavour) : raw? f cs = none := by
  cases cs with
  | nil => rfl
  | cons c cs =>
    obtain ⟨hquote, hsign, -⟩ := h c rfl
    simp [raw?, hquote, hsign]

/-- No string begins where its marks are missing. -/
theorem string?_eq_none {c : Char} {cs : List Char} (hc : c ≠ '"') (hcs : NoString cs) :
    string? (c :: cs) = none := by
  have hmark : ∀ ds, cs ≠ '"' :: ds := by
    rintro ds rfl
    exact (hcs.1 '"' rfl).1 rfl
  unfold string?
  split
  · next heq => exact absurd (List.cons.inj heq).1 hc
  · next heq =>
    obtain ⟨-, rfl⟩ := List.cons.inj heq
    rw [raw?_eq_none hcs.1]
    rfl
  · next heq => exact absurd (List.cons.inj heq).2 (hmark _)
  · next heq =>
    rw [raw?_eq_none (hcs.2 _ (List.cons.inj heq).2)]
    rfl
  · next heq => exact absurd (List.cons.inj heq).2 (hmark _)
  · next heq =>
    rw [raw?_eq_none (hcs.2 _ (List.cons.inj heq).2)]
    rfl
  · rfl

theorem stringStarts_eq_false (c : Char) {cs : List Char} (hcs : NoString cs) :
    stringStarts.any (·.isPrefixOf (c :: cs)) = false := by
  have hstarts : stringStarts = [['r', '"'], ['r', '#', '"'], ['r', '#', '#'], ['b', '"'],
      ['b', '\''], ['b', 'r', '"'], ['b', 'r', '#'], ['c', '"'], ['c', 'r', '"'],
      ['c', 'r', '#']] := by decide
  have hmark : ∀ m ∈ ['"', '#', '\''], ∀ ds, NoMark ds → [m].isPrefixOf ds = false := by
    intro m hm ds hds
    cases ds with
    | nil => rfl
    | cons d ds =>
      obtain ⟨h₁, h₂, h₃⟩ := hds d rfl
      have hne : m ≠ d := by
        rintro rfl
        simp [h₁, h₂, h₃] at hm
      simp [List.isPrefixOf_cons_cons, hne]
  cases cs with
  | nil => simp [hstarts, List.isPrefixOf]
  | cons d ds =>
    obtain ⟨h₁, h₂, h₃⟩ := hcs.1 d rfl
    have hds : d = 'r' → NoMark ds := fun hd => hcs.2 ds (by rw [hd])
    simp only [hstarts, List.any_cons, List.any_nil, List.isPrefixOf_cons_cons]
    by_cases hr : d = 'r'
    · simp [hr, hmark _ _ ds (hds hr)]
    · simp [Ne.symm h₁, Ne.symm h₂, Ne.symm h₃, Ne.symm hr]

section

variable {c : Char} {cs rest : List Char}

theorem noMark_append (hcs : ∀ d ∈ cs, isIdentifierRest d) (hrest : NoMark rest) :
    NoMark (cs ++ rest) := by
  cases cs with
  | nil => exact hrest
  | cons c cs =>
    rintro d hd
    obtain rfl : c = d := by simpa using hd
    have hc : isIdentifierRest c = true := hcs c (by simp)
    have hne : ∀ m : Char, m.toNat < 128 → wordRests.has m = false → c ≠ m := by
      rintro m hlt hm rfl
      rw [isIdentifierRest_eq_of_lt hlt, hm] at hc
      cases hc
    exact ⟨hne '"' (by decide) (by decide), hne '#' (by decide) (by decide),
      hne '\'' (by decide) (by decide)⟩

/-- A word that goes on makes no string. -/
theorem noString_append (hcs : ∀ d ∈ cs, isIdentifierRest d) (hrest : EndsWord rest) :
    NoString (cs ++ rest) := by
  refine ⟨noMark_append hcs hrest.1, fun ds heq => ?_⟩
  cases cs with
  | nil =>
    have hr : isIdentifierRest 'r' = false := hrest.2 'r' (by simp [show rest = 'r' :: ds from heq])
    rw [isIdentifierRest_eq_of_lt (by decide)] at hr
    cases hr
  | cons d cs =>
    obtain ⟨-, rfl⟩ := List.cons.inj heq
    exact noMark_append (fun e he => hcs e (List.mem_cons_of_mem d he)) hrest.1

theorem isIdentifierStart_of_isDigit {c : Char} (hc : c.isDigit) : isIdentifierStart c = false := by
  have hrange : 48 ≤ c.toNat ∧ c.toNat ≤ 57 := by
    simpa [Char.isDigit, UInt32.le_iff_toNat_le] using hc
  rw [isIdentifierStart_eq_of_lt (by omega), Bool.eq_false_iff]
  intro hstart
  rw [wordStarts_iff] at hstart
  omega

/-- An identifier is read to its end. -/
theorem identifier?_append (hc : isIdentifierStart c) (hcs : ∀ d ∈ cs, isIdentifierRest d)
    (hrest : ∀ d ∈ rest.head?, isIdentifierRest d = false) :
    identifier? (c :: (cs ++ rest)) = some (c :: cs, rest) := by
  rw [identifier?, if_pos hc, takeWhile_run hcs hrest, dropWhile_run hcs hrest]

theorem afterName?_append (hc : isIdentifierStart c) (hcs : ∀ d ∈ cs, isIdentifierRest d)
    (hrest : EndsWord rest) : afterName? (c :: (cs ++ rest)) = some rest := by
  unfold afterName?
  split
  · next ds heq =>
    have hsign := noMark_append hcs hrest.1 '#' (by simp [(List.cons.inj heq).2])
    exact absurd rfl hsign.2.1
  · rw [identifier?_append hc hcs hrest.2]
    rfl

/-- A word is read up to where no identifier could go on. -/
theorem lexeme?_word (hc : isIdentifierStart c) (hcs : ∀ d ∈ cs, isIdentifierRest d)
    (hrest : EndsWord rest) : lexeme? (c :: (cs ++ rest)) = some (.other, rest) := by
  have hne : ∀ d : Char, d.toNat < 128 → wordStarts.has d = false → c ≠ d := by
    rintro d hlt hd rfl
    rw [isIdentifierStart_eq_of_lt hlt, hd] at hc
    cases hc
  have hstring := noString_append hcs hrest
  have hdelimiter : delimiter? c = none := by
    unfold delimiter?
    split
    case h_7 => rfl
    all_goals exact absurd rfl (hne _ (by decide) (by decide))
  have hcharacter : character? (c :: (cs ++ rest)) = none := by
    have hmark : ∀ ds, cs ++ rest ≠ '\'' :: ds := by
      intro ds heq
      exact (hstring.1 '\'' (by simp [heq])).2.2 rfl
    simp [character?, hne '\'' (by decide) (by decide), hmark]
  have hnumber : number? (c :: (cs ++ rest)) = none := by
    refine number?_eq_none (Bool.eq_false_iff.2 fun hdigit => ?_) _
    exact absurd hc (by simp [isIdentifierStart_of_isDigit hdigit])
  have hpunctuation : punctuation? (c :: (cs ++ rest)) = none := by
    have hmem : c ∉ punctuation := by
      intro hmem
      have hall : punctuation.all (fun d => d.toNat < 128 && !wordStarts.has d) = true := by decide
      have hmark := List.all_eq_true.1 hall c hmem
      simp only [Bool.and_eq_true, decide_eq_true_eq, Bool.not_eq_true'] at hmark
      exact hne c hmark.1 hmark.2 rfl
    unfold punctuation?
    split
    · next heq => exact absurd (List.cons.inj heq).1 (hne '\'' (by decide) (by decide))
    · next heq =>
      obtain ⟨rfl, -⟩ := List.cons.inj heq
      exact if_neg fun h => hmem h.1
    · rfl
  have hname : name? (c :: (cs ++ rest)) = some rest := by
    rw [name?, stringStarts_eq_false c hstring, afterName?_append hc hcs hrest]
    rfl
  rw [lexeme?_cons (hne '/' (by decide) (by decide)) (.inl (hne '(' (by decide) (by decide))),
    hdelimiter, string?_eq_none (hne '"' (by decide) (by decide)) hstring]
  simp [hcharacter, hnumber, hpunctuation, hname]

/-- The apostrophe before the name of a lifetime is a lexeme of its own. -/
theorem lexeme?_apostrophe (hc : isIdentifierStart c) (hcs : ∀ d ∈ cs, isIdentifierRest d)
    (hrest : EndsWord rest) :
    lexeme? ('\'' :: c :: (cs ++ rest)) = some (.other, c :: (cs ++ rest)) := by
  have hstart : c ≠ '\\' := by
    rintro rfl
    rw [isIdentifierStart_eq_of_lt (by decide)] at hc
    cases hc
  have hmark : ∀ ds, cs ++ rest ≠ '\'' :: ds := by
    intro ds heq
    exact (noMark_append hcs hrest.1 '\'' (by simp [heq])).2.2 rfl
  have hcharacter : character? ('\'' :: c :: (cs ++ rest)) = none := by
    simp [character?, hstart, hmark]
  have hpunctuation : punctuation? ('\'' :: c :: (cs ++ rest)) = some (c :: (cs ++ rest)) := by
    rw [punctuation?, afterName?_append hc hcs hrest, Option.bind_some]
    cases rest with
    | nil => rfl
    | cons d ds =>
      obtain ⟨-, hsign, hquote⟩ := hrest.1 d rfl
      simp [hsign, hquote]
  rw [lexeme?_cons (by decide) (.inl (by decide))]
  simp [delimiter?, string?, hcharacter, number?_eq_none, hpunctuation]

end

/-! ## Punctuation -/

/-- A mark of punctuation is a lexeme whatever follows it, unless it could begin a comment. -/
theorem lexeme?_mark {c : Char} (hc : c ∈ punctuation) (hslash : c ≠ '/') (rest : List Char) :
    lexeme? (c :: rest) = some (.other, rest) := by
  have hall : punctuation.all (fun d => delimiter? d = none && !d.isDigit &&
      !(['"', '\'', 'r', 'b', 'c', '('].contains d)) = true := by decide
  have hother := List.all_eq_true.1 hall c hc
  simp only [Bool.and_eq_true, decide_eq_true_eq, Bool.not_eq_true', List.contains_cons,
    List.contains_nil, Bool.or_false, Bool.or_eq_false_iff, beq_eq_false_iff_ne] at hother
  obtain ⟨⟨hdelimiter, hdigit⟩, hquote, happ, hr, hb, hletter, hopen⟩ := hother
  have hcomment : beginsComment (c :: rest) = false := by simp [beginsComment, hslash]
  have hpunctuation : punctuation? (c :: rest) = some rest := by
    simp [punctuation?, hc, hcomment]
  have hstring : string? (c :: rest) = none := by simp [string?, hquote, hr, hb, hletter]
  have hcharacter : character? (c :: rest) = none := by simp [character?, happ, hb]
  rw [lexeme?_cons hslash (.inl hopen), hdelimiter, hstring]
  simp [hcharacter, number?_eq_none hdigit, hpunctuation]

/-! ## String literals -/

/-- A string begins with a quote or with the letter of raw strings. -/
theorem exists_cons_of_string? {cs value rest : List Char}
    (h : string? cs = some (.text, value, rest)) : ∃ ds, cs = '"' :: ds ∨ cs = 'r' :: ds := by
  unfold string? at h
  split at h
  · exact ⟨_, .inl rfl⟩
  · exact ⟨_, .inr rfl⟩
  all_goals simp at h

/-- A string literal is one lexeme, with its suffix. -/
theorem lexeme?_of_string? {cs value rest : List Char}
    (h : string? cs = some (.text, value, rest)) :
    lexeme? cs = some (.text value, afterSuffix rest) := by
  obtain ⟨ds, rfl | rfl⟩ := exists_cons_of_string? h
  · rw [lexeme?_cons (by decide) (.inl (by decide)), h]
    rfl
  · rw [lexeme?_cons (by decide) (.inl (by decide)), h]
    rfl

/-! ## Symbols

`CutInto ss cs` says that the text `cs` consists of the symbols `ss` with spaces between them, each
one a lexeme in front of what follows it. No symbol begins with a slash, so there are no comments.
-/

inductive CutInto : List Symbol → List Char → Prop
  | nil : CutInto [] []
  | space {ss : List Symbol} {cs : List Char} : CutInto ss cs → CutInto ss (' ' :: cs)
  | cons {ss : List Symbol} {l : Lexeme} {c : Char} {cs rest : List Char} : c ≠ '/' →
      isGap c = false → lexeme? (c :: (cs ++ rest)) = some (l, rest) → CutInto ss rest →
      CutInto (⟨l, c :: cs⟩ :: ss) (c :: (cs ++ rest))

theorem CutInto.single {ss : List Symbol} {l : Lexeme} {c : Char} {rest : List Char}
    (hc : c ≠ '/') (hgap : isGap c = false) (hl : lexeme? (c :: rest) = some (l, rest))
    (h : CutInto ss rest) : CutInto (⟨l, [c]⟩ :: ss) (c :: rest) :=
  @CutInto.cons ss l c [] rest hc hgap hl h

theorem CutInto.head?_ne_slash {ss : List Symbol} {cs : List Char} (h : CutInto ss cs) :
    cs.head? ≠ some '/' := by
  cases h with
  | nil => simp
  | space => simp
  | cons hc => simpa using hc

/-- Spaces hold no lexemes. -/
@[simp] theorem lexemes?_spaces (start n : Nat) :
    lexemes? start (List.replicate n ' ') = some [] := by
  have hgap : afterGap (List.replicate n ' ') = [] := by
    induction n with
    | zero => rw [List.replicate_zero, afterGap.eq_def]
    | succ n ih => rw [List.replicate_succ, afterGap_space, ih]
  rw [lexemes?]
  simp [hgap]

/-- A lexeme is read after any number of spaces. -/
theorem lexemes?_cons {source rest : List Char} {l : Lexeme} (hne : source ≠ [])
    (hgap : afterGap (source ++ rest) = source ++ rest)
    (hl : lexeme? (source ++ rest) = some (l, rest)) (start n : Nat) :
    lexemes? start (List.replicate n ' ' ++ (source ++ rest)) =
      (lexemes? (start + n + size source) rest).map
        (⟨l, .over (start + n) source, source⟩ :: ·) := by
  have hspaces : ∀ n, afterGap (List.replicate n ' ' ++ (source ++ rest)) = source ++ rest := by
    intro n
    induction n with
    | zero => simpa using hgap
    | succ n ih => rw [List.replicate_succ, List.cons_append, afterGap_space, ih]
  have hsize : size (List.replicate n ' ') = n := by
    induction n with
    | zero => rfl
    | succ n ih =>
      rw [List.replicate_succ, size_cons, ih, Nat.add_comm]
      rfl
  have hlt : rest.length < (List.replicate n ' ' ++ (source ++ rest)).length := by
    have := List.length_pos_iff.2 hne
    simp only [List.length_append]
    omega
  have hstart : start + (size (List.replicate n ' ' ++ (source ++ rest)) - size (source ++ rest)) =
      start + n := by
    rw [size_append, hsize, Nat.add_sub_cancel]
  have htake : (source ++ rest).take ((source ++ rest).length - rest.length) = source := by
    simp
  rw [lexemes?]
  simp only [hspaces, hl, hlt, htake, hstart]
  rw [if_neg (by simp [hne])]
  rfl

/-- The symbols of a text do not depend on the spaces before it, nor on where it begins. -/
theorem CutInto.symbols?_append {ss : List Symbol} {cs : List Char} (h : CutInto ss cs)
    (start n : Nat) : symbols? start (List.replicate n ' ' ++ cs) = some ss := by
  induction h generalizing start n with
  | nil =>
    rw [List.append_nil, symbols?, lexemes?_spaces]
    rfl
  | @space ss cs _ ih =>
    have hspaces : List.replicate n ' ' ++ ' ' :: cs = List.replicate (n + 1) ' ' ++ cs := by
      simp [List.replicate_succ']
    rw [hspaces]
    exact ih start (n + 1)
  | @cons ss l c cs rest hc hgap hl hrest ih =>
    have hsymbols := ih (start + n + size (c :: cs)) 0
    obtain ⟨ps, hps, rfl⟩ := Option.map_eq_some_iff.1 hsymbols
    rw [List.replicate_zero, List.nil_append] at hps
    have hlexemes := lexemes?_cons (List.cons_ne_nil c cs) (afterGap_cons hc hgap (cs ++ rest)) hl
      start n
    rw [List.cons_append] at hlexemes
    rw [symbols?, hlexemes, hps]
    rfl

end IdPattern.Embed
