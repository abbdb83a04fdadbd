import IdPattern.Embed.Reading
import IdPattern.Proofs.Lexemes
import IdPattern.Proofs.Spellings

/-!
# Constants say what they were made from

The reader of constants finds the pattern that a constant was written for, whatever characters its
texts consist of, and whichever of the two spellings is used. The text of the constant is cut into
symbols first (`cutInto_pattern`). The words and marks around the texts are code without literals,
which is computed, and a quoted text is a single symbol, whatever it says. What is left is to read
the symbols part by part, in the order of the recursion of the reader.
-/

namespace IdPattern.Embed

/-! ## Code without literals -/

/-- Whether the word that a text goes on with ends before a character of the text, and one that
makes no string or character of the word. -/
def endsWord (cs : List Char) : Bool :=
  match cs.dropWhile wordRests.has with
  | c :: _ => c.toNat < 128 && c ≠ '"' && c ≠ '#' && c ≠ '\''
  | [] => false

/-- The symbols of code that consists of words, names of lifetimes, marks and delimiters. -/
def codeSymbols? (cs : List Char) : Option (List Symbol) :=
  match cs with
  | [] => some []
  | c :: cs =>
    if c = ' ' then codeSymbols? cs
    else if wordStarts.has c then
      if endsWord cs then
        (codeSymbols? (cs.dropWhile wordRests.has)).map
          (⟨.other, c :: cs.takeWhile wordRests.has⟩ :: ·)
      else none
    else if c = '\'' then
      match cs with
      | d :: ds =>
        if wordStarts.has d && endsWord ds then
          (codeSymbols? (d :: ds)).map (⟨.other, [c]⟩ :: ·)
        else none
      | [] => none
    else if c ∈ punctuation then
      if c ≠ '/' then (codeSymbols? cs).map (⟨.other, [c]⟩ :: ·) else none
    else
      match delimiter? c with
      | some d => (codeSymbols? cs).map (⟨d, [c]⟩ :: ·)
      | none => none
termination_by cs.length
decreasing_by
  all_goals simp only [List.length_cons]
  · omega
  · have := (List.dropWhile_suffix (p := wordRests.has) (l := cs)).length_le
    omega
  · omega
  · omega
  · omega

/-- What was checked on the text alone holds before any other text. -/
theorem endsWord_append {cs : List Char} (h : endsWord cs) (rest : List Char) :
    EndsWord (cs.dropWhile wordRests.has ++ rest) := by
  have hhead := head?_dropWhile wordRests.has cs
  unfold endsWord at h
  cases hcs : cs.dropWhile wordRests.has with
  | nil => simp [hcs] at h
  | cons c ds =>
    rw [hcs] at h hhead
    obtain ⟨⟨⟨hlt, hquote⟩, hsign⟩, happ⟩ :
        ((c.toNat < 128 ∧ c ≠ '"') ∧ c ≠ '#') ∧ c ≠ '\'' := by
      simpa using h
    refine ⟨fun d hd => ?_, fun d hd => ?_⟩
    · obtain rfl : c = d := by simpa using hd
      exact ⟨hquote, hsign, happ⟩
    · obtain rfl : c = d := by simpa using hd
      rw [isIdentifierRest_eq_of_lt hlt, hhead c rfl]

theorem isGap_of_wordStarts {c : Char} (hc : wordStarts.has c) : isGap c = false := by
  rw [Bool.eq_false_iff]
  intro hgap
  rw [wordStarts_iff] at hc
  simp only [isGap, isBlank, Bool.or_eq_true, Bool.and_eq_true, decide_eq_true_eq,
    beq_iff_eq] at hgap
  omega

theorem isIdentifierStart_of_wordStarts {c : Char} (hc : wordStarts.has c) : isIdentifierStart c :=
  (isIdentifierStart_eq_of_lt (lt_of_wordStarts hc)).trans hc

/-- The rest of a word goes on with the identifier it is. -/
theorem isIdentifierRest_of_mem_takeWhile (cs : List Char) :
    ∀ c ∈ cs.takeWhile wordRests.has, isIdentifierRest c := by
  intro c hc
  have hc : wordRests.has c := List.mem_takeWhile_imp hc
  exact (isIdentifierRest_eq_of_lt (lt_of_wordRests hc)).trans hc

/-- No mark of punctuation is passed over. -/
theorem isGap_of_mem_punctuation {c : Char} (hc : c ∈ punctuation) : isGap c = false := by
  have hall : punctuation.all (fun d => !isGap d) = true := by decide
  simpa using List.all_eq_true.1 hall c hc

theorem isGap_of_delimiter? {c : Char} {d : Lexeme} (hc : delimiter? c = some d) :
    isGap c = false := by
  unfold delimiter? at hc
  split at hc
  case h_7 => cases hc
  all_goals rfl

/-- Code is cut into its symbols in front of any text that is cut into symbols. -/
theorem CutInto.code {cs rest : List Char} {ss ts : List Symbol} (h : codeSymbols? cs = some ss)
    (hrest : CutInto ts rest) : CutInto (ss ++ ts) (cs ++ rest) := by
  fun_induction codeSymbols? cs generalizing ss with
  | case1 =>
    cases h
    exact hrest
  | case2 cs ih => exact .space (ih h)
  | case3 c cs hspace hc hends ih =>
    -- a word
    obtain ⟨us, hus, rfl⟩ := Option.map_eq_some_iff.1 h
    have hl := lexeme?_word (isIdentifierStart_of_wordStarts hc)
      (isIdentifierRest_of_mem_takeWhile cs) (endsWord_append hends rest)
    have hslash : c ≠ '/' := by
      rintro rfl
      exact absurd hc (by decide)
    have hcut := CutInto.cons hslash (isGap_of_wordStarts hc) hl (ih hus)
    rwa [← List.append_assoc, List.takeWhile_append_dropWhile] at hcut
  | case5 d ds hlifetime _ _ ih =>
    -- the mark of a lifetime
    obtain ⟨us, hus, rfl⟩ := Option.map_eq_some_iff.1 h
    obtain ⟨hd, hends⟩ := Bool.and_eq_true_iff.1 hlifetime
    have hl := lexeme?_apostrophe (isIdentifierStart_of_wordStarts hd)
      (isIdentifierRest_of_mem_takeWhile ds) (endsWord_append hends rest)
    rw [← List.append_assoc, List.takeWhile_append_dropWhile] at hl
    exact .single (by decide) (by decide) hl (ih hus)
  | case8 c cs _ _ _ hmark hslash ih =>
    obtain ⟨us, hus, rfl⟩ := Option.map_eq_some_iff.1 h
    have hl := lexeme?_mark hmark hslash (cs ++ rest)
    exact .single hslash (isGap_of_mem_punctuation hmark) hl (ih hus)
  | case10 c cs _ _ _ _ d hd ih =>
    obtain ⟨us, hus, rfl⟩ := Option.map_eq_some_iff.1 h
    have hslash : c ≠ '/' := by
      rintro rfl
      cases hd
    have hcut := ih hus
    have hl := lexeme?_delimiter hd hcut.head?_ne_slash
    exact .single hslash (isGap_of_delimiter? hd) hl hcut
  | case4 | case6 | case7 | case9 | case11 => cases h

def quotedSymbol (s : String) : Symbol := ⟨.text s.toList, (quoted s).toList⟩

/-- Quoted text is one symbol in front of any text that makes no suffix. -/
theorem CutInto.quoted {c : Char} {cs : List Char} {ss : List Symbol} (s : String)
    (hlt : c.toNat < 128) (hc : wordStarts.has c = false) (hcut : CutInto ss (c :: cs)) :
    CutInto (quotedSymbol s :: ss) ((quoted s).toList ++ c :: cs) := by
  have hsuffix : afterSuffix (c :: cs) = c :: cs := by
    simp [afterSuffix, identifier?, isIdentifierStart_eq_of_lt hlt, hc]
  have hquoted : (IdPattern.quoted s).toList = '"' :: (s.toList.flatMap quotedChar ++ ['"']) := by
    simp [IdPattern.quoted]
  have hl := lexeme?_of_string? (string?_quoted s (c :: cs))
  rw [hsuffix, hquoted] at hl
  rw [quotedSymbol, hquoted]
  exact .cons (by decide) (by decide) hl hcut

/-! ## The symbols of a constant -/

def wordSymbols (words : List String) : List Symbol := words.map .ofString

def parameterSymbols : Option String → List Symbol
  | none => wordSymbols ["None"]
  | some s => wordSymbols ["Some", "("] ++ quotedSymbol s :: wordSymbols [")"]

def segmentSymbols (g : Segment) : List Symbol :=
  wordSymbols callWords ++ (wordSymbols [variant g.kind, ","] ++
    quotedSymbol g.rawText :: (wordSymbols [","] ++
      (parameterSymbols g.parameter? ++ wordSymbols [")"])))

def furtherSymbols (gs : List Segment) : List Symbol :=
  gs.flatMap fun g => wordSymbols [","] ++ segmentSymbols g

def segmentListSymbols : List Segment → List Symbol
  | [] => []
  | g :: gs => segmentSymbols g ++ furtherSymbols gs

def patternSymbols (p : Pattern) : List Symbol :=
  wordSymbols openingWords ++ (segmentListSymbols p.segments ++ wordSymbols closingWords)

/-- A spelling in which the words and marks of a constant can be told. -/
structure Spelling.IsPlain (w : Spelling) : Prop where
  opening : codeSymbols? w.opening.toList = some (wordSymbols openingWords)
  closing : codeSymbols? w.closing.toList = some (wordSymbols closingWords)
  call : codeSymbols? w.call.toList = some (wordSymbols callWords)
  kind : ∀ k, codeSymbols? (variant k ++ w.separator).toList = some (wordSymbols [variant k, ","])
  separator : codeSymbols? w.separator.toList = some (wordSymbols [","])
  present : codeSymbols? w.present.toList = some (wordSymbols ["Some", "("])
  headed : ∃ c cs, w.separator.toList = c :: cs ∧ c.toNat < 128 ∧ wordStarts.has c = false

/-- Written code can be told into its words and marks. -/
theorem Spelling.isPlain_written : written.IsPlain where
  opening := by decide +kernel
  closing := by decide +kernel
  call := by decide +kernel
  kind := by
    rintro (_ | _ | _ | _ | _) <;> decide +kernel
  separator := by decide +kernel
  present := by decide +kernel
  headed := ⟨',', [' '], by decide, by decide, by decide⟩

theorem Spelling.isPlain_spaced : spaced.IsPlain where
  opening := by decide +kernel
  closing := by decide +kernel
  call := by decide +kernel
  kind := by
    rintro (_ | _ | _ | _ | _) <;> decide +kernel
  separator := by decide +kernel
  present := by decide +kernel
  headed := ⟨' ', [',', ' '], by decide, by decide, by decide⟩

section Spelling

variable {w : Spelling} {ss : List Symbol} {rest : List Char}

/-- A parameter is cut into its symbols. -/
theorem CutInto.parameter (hw : w.IsPlain) (p? : Option String) (h : CutInto ss rest) :
    CutInto (parameterSymbols p? ++ (wordSymbols [")"] ++ ss))
      ((w.parameter p?).toList ++ ')' :: rest) := by
  cases p? with
  | none =>
    have hcode : codeSymbols? "None)".toList = some (wordSymbols ["None", ")"]) := by decide +kernel
    simpa [parameterSymbols, Spelling.parameter, wordSymbols] using h.code hcode
  | some s =>
    have hcode : codeSymbols? [')', ')'] = some (wordSymbols [")", ")"]) := by decide +kernel
    have hquoted := (h.code hcode).quoted s (by decide) (by decide)
    simpa [parameterSymbols, Spelling.parameter, wordSymbols] using hquoted.code hw.present

/-- The call that makes a segment is cut into its symbols. -/
theorem CutInto.segment (hw : w.IsPlain) (g : Segment) (h : CutInto ss rest) :
    CutInto (segmentSymbols g ++ ss) ((w.segment g).toList ++ rest) := by
  obtain ⟨c, cs, hseparator, hlt, hc⟩ := hw.headed
  have hparameter := (h.parameter hw g.parameter?).code hw.separator
  rw [hseparator] at hparameter
  have hrawText := hparameter.quoted g.rawText hlt hc
  have hcall := (hrawText.code (hw.kind g.kind)).code hw.call
  simpa [segmentSymbols, Spelling.segment, hseparator] using hcall

/-- The calls after the first one are cut into their symbols, each with the comma before it. -/
theorem CutInto.further (hw : w.IsPlain) (gs : List Segment) (h : CutInto ss rest) :
    CutInto (furtherSymbols gs ++ ss)
      (gs.flatMap (fun g => w.separator.toList ++ (w.segment g).toList) ++ rest) := by
  induction gs with
  | nil => exact h
  | cons g gs ih =>
    have hsegment := (ih.segment hw g).code hw.separator
    simpa [furtherSymbols] using hsegment

theorem toList_intercalate (separator s : String) (ss : List String) :
    (separator.intercalate (s :: ss)).toList =
      s.toList ++ ss.flatMap fun t => separator.toList ++ t.toList := by
  induction ss generalizing s with
  | nil => simp
  | cons t ss ih =>
    rw [String.intercalate_cons_of_ne_nil (List.cons_ne_nil t ss), String.toList_append,
      String.toList_append, ih, List.flatMap_cons]
    simp

/-- The constant of a pattern is cut into its symbols. -/
theorem cutInto_pattern (hw : w.IsPlain) (p : Pattern) :
    CutInto (patternSymbols p) (w.pattern p).toList := by
  obtain ⟨gs⟩ := p
  have hclosing := CutInto.nil.code hw.closing
  rw [List.append_nil, List.append_nil] at hclosing
  cases gs with
  | nil =>
    have hopening := hclosing.code hw.opening
    simpa [patternSymbols, segmentListSymbols, Spelling.pattern] using hopening
  | cons g gs =>
    have hopening := ((hclosing.further hw gs).segment hw g).code hw.opening
    rw [Spelling.pattern, List.map_cons, String.toList_append, String.toList_append,
      toList_intercalate, List.flatMap_map]
    simpa [patternSymbols, segmentListSymbols] using hopening

end Spelling

/-! ## Reading the symbols -/

theorem wordSymbols_cons (word : String) (words : List String) :
    wordSymbols (word :: words) = wordSymbols [word] ++ wordSymbols words := rfl

@[simp] theorem expect?_append (words : List String) (ss : List Symbol) :
    expect? words (wordSymbols words ++ ss) = some ss :=
  expect?_eq_some_iff.2 rfl

/-- A word is not found where another symbol stands. -/
theorem expect?_eq_none {word : String} {s : Symbol} {ss : List Symbol}
    (h : Symbol.ofString word ≠ s) : expect? [word] (s :: ss) = none := by
  rw [Option.eq_none_iff_forall_ne_some]
  intro rest hrest
  exact h (List.cons.inj (expect?_eq_some_iff.1 hrest)).1.symm

/-- No two kinds have the same name in a program. -/
@[simp] theorem kindOf?_append (k : Kind) (ss : List Symbol) :
    kindOf? (wordSymbols [variant k] ++ ss) = some (k, ss) := by
  have hfind : (Kind.all.find? fun j => Symbol.ofString (variant j) = .ofString (variant k)) =
      some k := by
    rcases k with _ | (_ | _ | _ | _) <;> decide
  simp [kindOf?, wordSymbols, hfind]

/-- A quoted text is read as the text. -/
@[simp] theorem textOf?_quotedSymbol (s : String) (ss : List Symbol) :
    textOf? (quotedSymbol s :: ss) = some (s, ss) := by
  simp [textOf?, quotedSymbol]

/-- A parameter is found again, a missing one as missing. -/
@[simp] theorem parameterOf?_append (p? : Option String) (ss : List Symbol) :
    parameterOf? (parameterSymbols p? ++ ss) = some (p?, ss) := by
  cases p? with
  | none => simp [parameterOf?, parameterSymbols, expect?_append]
  | some s =>
    have hnone : expect? ["None"] (parameterSymbols (some s) ++ ss) = none :=
      expect?_eq_none (by decide)
    rw [parameterOf?, hnone]
    simp [parameterSymbols, expect?_append, textOf?_quotedSymbol]

/-- The call that makes a segment is read as this segment. -/
@[simp] theorem segmentOf?_append (g : Segment) (ss : List Symbol) :
    segmentOf? (segmentSymbols g ++ ss) = some (g, ss) := by
  simp [segmentOf?, segmentSymbols, wordSymbols_cons (variant g.kind) [","], expect?_append,
    kindOf?_append, textOf?_quotedSymbol, parameterOf?_append]

/-- The segments after the first one are read up to where no comma stands. -/
theorem furtherOf?_append (gs : List Segment) {ss : List Symbol} (h : expect? [","] ss = none) :
    furtherOf? (furtherSymbols gs ++ ss) = some (gs, ss) := by
  induction gs with
  | nil =>
    rw [furtherOf?]
    split
    · rfl
    · next hsome => simp [furtherSymbols, h] at hsome
  | cons g gs ih =>
    have hcomma : expect? [","] (furtherSymbols (g :: gs) ++ ss) =
        some (segmentSymbols g ++ (furtherSymbols gs ++ ss)) := by
      rw [furtherSymbols, List.flatMap_cons]
      simp only [List.append_assoc]
      exact expect?_append ..
    rw [furtherOf?]
    split
    · next hnone => simp [hcomma] at hnone
    · next ss' hsome =>
      obtain rfl : segmentSymbols g ++ (furtherSymbols gs ++ ss) = ss' := by
        simpa [hcomma] using hsome
      split
      · next hnone => simp [segmentOf?_append] at hnone
      · next hsegment =>
        rw [segmentOf?_append] at hsegment
        cases hsegment
        rw [ih]
        rfl

/-- All segments of a list are found again, up to the closing words. -/
theorem segmentsOf?_append (gs : List Segment) :
    segmentsOf? (segmentListSymbols gs ++ wordSymbols closingWords) =
      some (gs, wordSymbols closingWords) := by
  cases gs with
  | nil =>
    have hbracket :
        expect? ["]"] (wordSymbols closingWords) = some (wordSymbols closingWords.tail) :=
      expect?_append ["]"] (wordSymbols closingWords.tail)
    simp [segmentsOf?, segmentListSymbols, hbracket]
  | cons g gs =>
    have hbracket :
        expect? ["]"] (segmentListSymbols (g :: gs) ++ wordSymbols closingWords) = none :=
      expect?_eq_none (by decide)
    have hcomma : expect? [","] (wordSymbols closingWords) = none := expect?_eq_none (by decide)
    rw [segmentsOf?, hbracket]
    simp [segmentListSymbols, segmentOf?_append, furtherOf?_append gs hcomma]

/-- The symbols of a constant are read as its pattern. -/
theorem patternOf?_patternSymbols (p : Pattern) : patternOf? (patternSymbols p) = some p := by
  have hclosing : expect? closingWords (wordSymbols closingWords) = some [] := by
    simpa using expect?_append closingWords []
  simp [patternOf?, patternSymbols, expect?_append, segmentsOf?_append, hclosing]

/-- In whatever plain spelling, a constant consists of the same symbols. -/
theorem symbols?_pattern {w : Spelling} (hw : w.IsPlain) (p : Pattern) :
    symbols? 0 (w.pattern p).toList = some (patternSymbols p) :=
  (cutInto_pattern hw p).symbols?_append 0 0

/-- **A constant is read as the pattern it was written for**, in every plain spelling. -/
theorem readConstant?_pattern {w : Spelling} (hw : w.IsPlain) (p : Pattern) :
    readConstant? (w.pattern p) = some p := by
  rw [readConstant?, symbols?_pattern hw, Option.bind_some, patternOf?_patternSymbols]

/-- The constant of a pattern is read as that pattern. So different patterns have different
constants, and an empty parameter is not taken for a missing one. -/
theorem readConstant?_constant :
    (∀ p, readConstant? (constant p) = some p) ∧
      (∀ p q, constant p = constant q ↔ p = q) ∧
      ∀ (front back : List Segment) (kind : Kind) (rawText : String),
        constant ⟨front ++ ⟨kind, rawText, some ""⟩ :: back⟩ ≠
          constant ⟨front ++ ⟨kind, rawText, none⟩ :: back⟩ := by
  have hread : ∀ p, readConstant? (constant p) = some p :=
    readConstant?_pattern Spelling.isPlain_written
  have hinjective : ∀ p q, constant p = constant q → p = q := by
    intro p q h
    have hp := hread p
    rw [h, hread q] at hp
    exact (Option.some.inj hp).symm
  refine ⟨hread, fun p q => ⟨hinjective p q, fun h => h ▸ rfl⟩, fun front back kind rawText h => ?_⟩
  have heq := hinjective _ _ h
  simp at heq

end IdPattern.Embed
