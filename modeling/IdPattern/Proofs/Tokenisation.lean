import IdPattern.Proofs.Walks

/-!
# The tokens of a text

A scanner that is asked for tokens until it has none left divides the text: each token has its span,
in ascending order, and nothing but blanks lies between them (`Tokenised`). A name reaches as far in
both directions as there are name characters, because every other token ends in a character that
belongs to no name. Only a quote that is never closed keeps a text from being divided to its end, and
then every quote after it has a backslash before it (`Scanner.EndsAt`).

The blanks matter no further than that they separate: whatever blanks stand between the tokens, at
least one at each place, the tokens are the same (`Scanner.drain_of_spaced`).

Everything about a text goes by `Scanner.drain_induction`, along the tokens from the first on.
-/

namespace IdPattern

/-! ## Texts divided into tokens -/

def IsGap (cs : List Char) (span : Span) : Prop := ∃ w, span.slice? cs = some w ∧ IsBlankText w

/-- The spans lie in this order between `start` and `stop`, and before, between and after them there
are only blanks. -/
def BlankBetween (cs : List Char) (stop : Nat) : Nat → List Span → Prop
  | start, [] => IsGap cs ⟨start, stop⟩
  | start, span :: spans => IsGap cs ⟨start, span.start⟩ ∧ BlankBetween cs stop span.stop spans

/-- No span begins before the place where all of them begin. -/
theorem BlankBetween.start_le {cs : List Char} {start stop : Nat} {spans : List Span}
    (h : BlankBetween cs stop start spans) (hspans : ∀ span ∈ spans, (span.slice? cs).isSome) :
    ∀ span ∈ spans, start ≤ span.start := by
  induction spans generalizing start with
  | nil => simp
  | cons span spans ih =>
    obtain ⟨⟨w, hw, -⟩, hrest⟩ := h
    obtain ⟨hspan, hspans⟩ := List.forall_mem_cons.1 hspans
    obtain ⟨inside, hinside⟩ := Option.isSome_iff_exists.1 hspan
    have hfirst : start ≤ span.start := Span.start_le_stop_of_slice? hw
    have hlength : span.start ≤ span.stop := Span.start_le_stop_of_slice? hinside
    refine List.forall_mem_cons.2 ⟨hfirst, fun span' hmem => ?_⟩
    exact Nat.le_trans (Nat.le_trans hfirst hlength) (ih hrest hspans span' hmem)

/-- The spans are ascending, and no two have a byte in common. -/
theorem BlankBetween.pairwise {cs : List Char} {start stop : Nat} {spans : List Span}
    (h : BlankBetween cs stop start spans) (hspans : ∀ span ∈ spans, (span.slice? cs).isSome) :
    spans.Pairwise fun a b => a.stop ≤ b.start := by
  induction spans generalizing start with
  | nil => exact .nil
  | cons span spans ih =>
    obtain ⟨-, hspans⟩ := List.forall_mem_cons.1 hspans
    exact .cons (h.2.start_le hspans) (ih h.2 hspans)

/-- The span of a run of name characters that can be lengthened on neither side. -/
def IsMaximalName (cs : List Char) (span : Span) : Prop :=
  ∃ cut : Cut, cut.text = cs ∧ cut.span 0 = span ∧ (∀ c ∈ cut.inside, isNameChar c) ∧
    BeginsName cut.before ∧ EndsName cut.after

/-- The text `cs` from `start` to `stop` is divided into these tokens, each with its span. -/
structure Tokenised (cs : List Char) (start stop : Nat) (found : List (Token × Span)) : Prop where
  /-- A token is what its span says. -/
  slice : ∀ f ∈ found, f.2.slice? cs = some f.1.lexeme
  blank : BlankBetween cs stop start (found.map Prod.snd)
  maximal : ∀ f ∈ found, ∀ c others, f.1 = .name c others → IsMaximalName cs f.2
  /-- Every token can be read. -/
  stands : ∀ f ∈ found, ∃ rest, f.1.StandsBefore rest

theorem Tokenised.nil {cs : List Char} {start stop : Nat} (h : IsGap cs ⟨start, stop⟩) :
    Tokenised cs start stop [] :=
  ⟨by simp, h, by simp, by simp⟩

/-- One more token in front, with blanks before it. -/
theorem Tokenised.cons {cs : List Char} {start stop : Nat} {t : Token} {span : Span}
    {found : List (Token × Span)} (h : Tokenised cs span.stop stop found)
    (hgap : IsGap cs ⟨start, span.start⟩) (hslice : span.slice? cs = some t.lexeme)
    (hmaximal : ∀ c others, t = .name c others → IsMaximalName cs span)
    (hstands : ∃ rest, t.StandsBefore rest) : Tokenised cs start stop ((t, span) :: found) :=
  ⟨List.forall_mem_cons.2 ⟨hslice, h.slice⟩, ⟨hgap, h.blank⟩,
    List.forall_mem_cons.2 ⟨hmaximal, h.maximal⟩, List.forall_mem_cons.2 ⟨hstands, h.stands⟩⟩

/-- The texts `xs` one after the other, with one or more blanks between each two. -/
inductive Spaced : List (List Char) → List Char → Prop
  | nil : Spaced [] []
  | single (x : List Char) : Spaced [x] x
  | cons {x y w cs : List Char} {xs : List (List Char)} : IsBlankText w → w ≠ [] →
      Spaced (y :: xs) cs → Spaced (x :: y :: xs) (x ++ w ++ cs)

/-! ## Where names end -/

/-- No name goes on into blanks. -/
theorem endsName_blank_append {w cs : List Char} (hne : w ≠ []) (hw : IsBlankText w) :
    EndsName (w ++ cs) := by
  cases w with
  | nil => exact absurd rfl hne
  | cons d w =>
    intro c hc
    obtain rfl : d = c := by simpa using hc
    have hd : isBlank d := hw d List.mem_cons_self
    by_contra hname
    simp [isBlank_of_isNameChar (by simpa using hname)] at hd

/-- What follows a token matters only where it would go on as a name. -/
theorem Token.StandsBefore.of_endsName {t : Token} {rest rest' : List Char}
    (h : t.StandsBefore rest) (hrest' : EndsName rest') : t.StandsBefore rest' := by
  cases t with
  | name => exact ⟨h.1, h.2.1, hrest'⟩
  | join | groupOpen | groupClose | text | unknown => exact h

/-- After blanks a name can begin. -/
theorem beginsName_append_blank {u w : List Char} (hne : w ≠ []) (hw : IsBlankText w) :
    BeginsName (u ++ w) := by
  obtain ⟨v, d, rfl⟩ := List.eq_nil_or_concat w |>.resolve_left hne
  have hd : isBlank d := hw d (by simp)
  have hname : isNameChar d = false := by
    by_contra hd'
    simp [isBlank_of_isNameChar (by simpa using hd')] at hd
  rw [List.concat_eq_append, ← List.append_assoc]
  exact beginsName_concat hname

/-- Behind a token no name goes on. -/
theorem Token.StandsBefore.severs {t : Token} {rest : List Char} (h : t.StandsBefore rest)
    (u : List Char) : BeginsName (u ++ t.lexeme) ∨ EndsName rest := by
  cases t with
  | join | groupOpen | groupClose => exact .inl (beginsName_concat (by decide))
  | text content =>
    have hquote := beginsName_concat (u := u ++ '"' :: content) (c := '"') (by decide)
    exact .inl (by simpa using hquote)
  | name => exact .inr h.2.2
  | unknown => exact .inl (beginsName_concat h.2.1)

namespace Scanner

variable {w : Scanner} {s : String}

/-! ## Asking for all tokens -/

/-- The walk goes on after a token, and ends with any other answer. -/
theorem drain_eq (w : Scanner) :
    w.drain = w.next ::
      match w.next.1 with
      | .ok (some _) => w.next.2.drain
      | _ => [] := by
  rw [drain]
  split
  · next f hf =>
    have hnext : w.next.1 = .ok (some f.token) := by rw [next, hf]
    rw [hnext]
  · next hf =>
    have hnext : ∀ t, w.next.1 ≠ .ok (some t) := by
      intro t ht
      unfold next at ht
      split at ht
      · cases ht
      · next f hfound => exact hf f hfound
      · cases ht
    split
    · next t ht => exact absurd ht (hnext t)
    · rfl

theorem drain_of_blank (h : IsBlankText w.cursor.rest) :
    w.drain = [(.ok none, w.advance w.cursor.rest [] [])] := by
  rw [drain_eq, next_of_blank h]

theorem drain_of_token {blanks rest : List Char} {t : Token} (hblanks : IsBlankText blanks)
    (hrest : w.cursor.rest = blanks ++ t.lexeme ++ rest) (ht : t.StandsBefore rest) :
    w.drain =
      (.ok (some t), w.advance blanks t.lexeme rest) ::
        (w.advance blanks t.lexeme rest).drain := by
  rw [drain_eq, next_of_token hblanks hrest ht]

theorem drain_of_unclosed {blanks content : List Char} (hblanks : IsBlankText blanks)
    (hrest : w.cursor.rest = blanks ++ '"' :: content) (hcontent : QuotesEscaped content) :
    w.drain =
      [(.error ⟨⟨w.cursor.offset + size blanks, w.cursor.stop⟩, .unterminatedText⟩,
        w.advance blanks ('"' :: content) [])] := by
  rw [drain_eq, next_of_unclosed hblanks hrest hcontent]

/-- To prove something of a walk it may be assumed of the walk after the next token. -/
theorem drain_induction {motive : Scanner → Prop}
    (blank : ∀ w, IsBlankText w.cursor.rest → motive w)
    (token : ∀ w blanks (t : Token) rest, IsBlankText blanks →
      w.cursor.rest = blanks ++ t.lexeme ++ rest → t.StandsBefore rest →
      motive (w.advance blanks t.lexeme rest) → motive w)
    (unclosed : ∀ w blanks content, IsBlankText blanks → w.cursor.rest = blanks ++ '"' :: content →
      QuotesEscaped content → motive w) (w : Scanner) : motive w := by
  induction hn : w.cursor.rest.length using Nat.strongRecOn generalizing w with
  | _ n ih =>
    rcases w.next_cases with hblank | ⟨blanks, t, rest, hblanks, hrest, ht⟩ |
      ⟨blanks, content, hblanks, hrest, hcontent⟩
    · exact blank w hblank
    · refine token w blanks t rest hblanks hrest ht (ih rest.length ?_ _ rfl)
      have hpos := List.length_pos_iff.2 t.lexeme_ne_nil
      rw [← hn, hrest]
      simp only [List.length_append]
      omega
    · exact unclosed w blanks content hblanks hrest hcontent

/-! ## The tokens lose nothing -/

/-- The place is not within a name. -/
def IsSevered (w : Scanner) (s : String) : Prop :=
  ∃ seen, s.toList = seen ++ w.cursor.rest ∧ w.cursor.offset = size seen ∧
    (BeginsName seen ∨ EndsName w.cursor.rest)

/-- A name that is found cannot be lengthened: to the right because it was read to its end, and to
the left because the place was not within a name. -/
theorem isMaximalName_of_token (h : w.IsSevered s) {blanks rest others : List Char} {c : Char}
    (hblanks : IsBlankText blanks)
    (hrest : w.cursor.rest = blanks ++ (Token.name c others).lexeme ++ rest)
    (ht : (Token.name c others).StandsBefore rest) :
    IsMaximalName s.toList (w.advance blanks (Token.name c others).lexeme rest).range := by
  obtain ⟨seen, htext, hoffset, hsevered⟩ := h
  obtain ⟨hc, hothers, hends⟩ := ht
  refine ⟨⟨seen ++ blanks, c :: others, rest⟩, ?_, ?_, ?_, ?_, hends⟩
  · rw [htext, hrest]
    simp
  · simp [hoffset]
  · exact List.forall_mem_cons.2 ⟨hc, hothers⟩
  · rcases hsevered with hbegins | hnone
    · exact hbegins.append_blank hblanks
    · -- the name would go on from before the place if there were no blanks in between
      refine beginsName_append_blank (fun hnil => ?_) hblanks
      have hfirst : isNameChar c = false := hnone c (by simp [hrest, hnil])
      simp [hc] at hfirst

/-- The place after a token is not within a name, if the token can stand there. -/
theorem IsSevered.advance (h : w.IsSevered s) {blanks rest : List Char} {t : Token}
    (hrest : w.cursor.rest = blanks ++ t.lexeme ++ rest) (ht : t.StandsBefore rest) :
    (w.advance blanks t.lexeme rest).IsSevered s := by
  obtain ⟨seen, htext, hoffset, -⟩ := h
  refine ⟨seen ++ blanks ++ t.lexeme, ?_, ?_, ht.severs _⟩
  · rw [htext, hrest]
    simp
  · simp [hoffset, Nat.add_assoc]

/-- How the tokens of a text come to an end: with the text, or before a quote that is never closed,
because every quote after it has a backslash before it. The fault is then all the rest of the text,
and no more tokens are found. -/
def EndsAt (s : String) (stop : Nat) (last : Except ParseError (Option Token) × Scanner) : Prop :=
  (last.1 = .ok none ∧ stop = s.utf8ByteSize) ∨
    ∃ content, last.1 = .error ⟨⟨stop, s.utf8ByteSize⟩, .unterminatedText⟩ ∧
      (⟨stop, s.utf8ByteSize⟩ : Span).slice? s.toList = some ('"' :: content) ∧
      QuotesEscaped content ∧ last.2.next.1 = .ok none

/-- From a place that is not within a name, the tokens divide the rest of the text. -/
theorem tokenised_drain (hw : w.Walks s) (hsevered : w.IsSevered s) :
    ∃ (found : List (Token × Scanner)) (last : Except ParseError (Option Token) × Scanner)
      (stop : Nat), w.drain = found.map (fun f => (.ok (some f.1), f.2)) ++ [last] ∧
        Tokenised s.toList w.cursor.offset stop (found.map fun f => (f.1, f.2.range)) ∧
        EndsAt s stop last := by
  induction w using drain_induction with
  | blank w hblank =>
    have hgap : IsGap s.toList ⟨w.cursor.offset, s.utf8ByteSize⟩ := ⟨_, hw.slice?_rest, hblank⟩
    exact ⟨[], _, _, drain_of_blank hblank, .nil hgap, .inl ⟨rfl, rfl⟩⟩
  | token w blanks t rest hblanks hrest ht ih =>
    obtain ⟨found, last, stop, hdrain, hfound, hlast⟩ := ih (hw.advance hrest)
      (hsevered.advance hrest ht)
    refine ⟨(t, w.advance blanks t.lexeme rest) :: found, last, stop, ?_, ?_, hlast⟩
    · rw [drain_of_token hblanks hrest ht, hdrain]
      rfl
    · refine hfound.cons ⟨_, hw.slice?_passed hrest, hblanks⟩ (hw.slice?_taken hrest) ?_ ⟨rest, ht⟩
      rintro c others rfl
      exact isMaximalName_of_token hsevered hblanks hrest ht
  | unclosed w blanks content hblanks hrest hcontent =>
    have hall : w.cursor.rest = blanks ++ '"' :: content ++ [] := by simpa using hrest
    have hgap : IsGap s.toList ⟨w.cursor.offset, w.cursor.offset + size blanks⟩ :=
      ⟨_, hw.slice?_passed hall, hblanks⟩
    have hend : (w.advance blanks ('"' :: content) []).cursor.offset = s.utf8ByteSize :=
      (hw.advance hall).stop_eq
    have hslice := hw.slice?_taken hall
    rw [range, hend] at hslice
    refine ⟨[], _, _, drain_of_unclosed hblanks hrest hcontent, .nil hgap,
      .inr ⟨content, ?_, hslice, hcontent, ?_⟩⟩
    · rw [hw.stop_eq]
    · rw [next_of_blank isBlankText_nil]

/-! ## The blanks between tokens do not matter -/

/-- Tokens that stand apart are found one by one, whatever blanks there are between them. -/
theorem drain_of_spaced {ts : List Token} (hts : ∀ t ∈ ts, ∃ rest, t.StandsBefore rest)
    {blanks cs : List Char} (hblanks : IsBlankText blanks)
    (hspaced : Spaced (ts.map Token.lexeme) cs) (hrest : w.cursor.rest = blanks ++ cs) :
    w.drain.map Prod.fst = ts.map (fun t => .ok (some t)) ++ [.ok none] := by
  induction ts generalizing w blanks cs with
  | nil =>
    cases hspaced
    have hblank : IsBlankText w.cursor.rest := by simpa [hrest] using hblanks
    rw [drain_of_blank hblank]
    rfl
  | cons t ts ih =>
    obtain ⟨⟨rest, ht⟩, hts⟩ := List.forall_mem_cons.1 hts
    cases ts with
    | nil =>
      cases hspaced
      have hend : EndsName [] := by
        intro c hc
        cases hc
      have hlast : w.cursor.rest = blanks ++ t.lexeme ++ [] := by simpa using hrest
      rw [drain_of_token hblanks hlast (ht.of_endsName hend), drain_of_blank isBlankText_nil]
      rfl
    | cons t' ts =>
      cases hspaced with
      | @cons _ _ gap cs _ hgap hne hspaced =>
        have hnext : w.cursor.rest = blanks ++ t.lexeme ++ (gap ++ cs) := by simpa using hrest
        have hstands : t.StandsBefore (gap ++ cs) :=
          ht.of_endsName (endsName_blank_append hne hgap)
        rw [drain_of_token hblanks hnext hstands, List.map_cons, ih hts hgap hspaced rfl]
        rfl

/-- **The tokens of a text lose nothing, names are as long as they can be, and blanks only
separate.** The tokens lie in ascending order with nothing but blanks around them, up to the end of
the text or to a quote that is never closed. In a text of the same tokens with other blanks between
them the same tokens are found. -/
theorem drain_ofString (s : String) :
    ∃ (found : List (Token × Scanner)) (last : Except ParseError (Option Token) × Scanner)
      (stop : Nat), (ofString s).drain = found.map (fun f => (.ok (some f.1), f.2)) ++ [last] ∧
        Tokenised s.toList 0 stop (found.map fun f => (f.1, f.2.range)) ∧
        (found.map fun f => f.2.range).Pairwise (fun a b => a.stop ≤ b.start) ∧
        EndsAt s stop last ∧
        (last.1 = .ok none → ∀ cs, Spaced (found.map fun f => f.1.lexeme) cs →
          (ofString (String.ofList cs)).drain.map Prod.fst = (ofString s).drain.map Prod.fst) := by
  have hsevered : (ofString s).IsSevered s := ⟨[], rfl, rfl, .inl (by intro c hc; cases hc)⟩
  obtain ⟨found, last, stop, hdrain, hfound, hlast⟩ :=
    tokenised_drain (walks_ofString s) hsevered
  refine ⟨found, last, stop, hdrain, hfound, ?_, hlast, fun hnone cs hcs => ?_⟩
  · have hpairwise := hfound.blank.pairwise ?_
    · simpa [Function.comp_def] using hpairwise
    · intro span hspan
      obtain ⟨f, hf, rfl⟩ := List.mem_map.1 hspan
      rw [hfound.slice f hf]
      rfl
  · have hts : ∀ t ∈ found.map Prod.fst, ∃ rest, t.StandsBefore rest := by
      intro t ht
      obtain ⟨f, hf, rfl⟩ := List.mem_map.1 ht
      exact hfound.stands (f.1, f.2.range) (List.mem_map.2 ⟨f, hf, rfl⟩)
    have hspaced : Spaced ((found.map Prod.fst).map Token.lexeme) cs := by
      simpa [Function.comp_def] using hcs
    have hagain := drain_of_spaced hts isBlankText_nil hspaced
      (w := ofString (String.ofList cs)) (by simp [ofString, Cursor.ofString])
    rw [hagain, hdrain]
    simp [hnone]

/-- The tokens of `RANDOM(X)+"a b"` are the same when they stand apart. The blank between the quotes
is part of a token and stays as it is. -/
theorem drain_ofString_apart :
    Spaced ["RANDOM".toList, ['('], ['X'], [')'], ['+'], "\"a b\"".toList]
        "RANDOM\t( X )\n\n+ \"a b\"".toList ∧
      (ofString "RANDOM\t( X )\n\n+ \"a b\"").drain.map Prod.fst =
        (ofString "RANDOM(X)+\"a b\"").drain.map Prod.fst := by
  have htext : "RANDOM\t( X )\n\n+ \"a b\"".toList =
      "RANDOM".toList ++ ['\t'] ++ (['('] ++ [' '] ++ (['X'] ++ [' '] ++
        ([')'] ++ ['\n', '\n'] ++ (['+'] ++ [' '] ++ "\"a b\"".toList)))) := by decide
  have hspaced : Spaced ["RANDOM".toList, ['('], ['X'], [')'], ['+'], "\"a b\"".toList]
      "RANDOM\t( X )\n\n+ \"a b\"".toList := by
    rw [htext]
    exact .cons (by decide) (by decide) (.cons (by decide) (by decide) (.cons (by decide)
      (by decide) (.cons (by decide) (by decide) (.cons (by decide) (by decide) (.single _)))))
  have hanswers : (ofString "RANDOM(X)+\"a b\"").drain.map Prod.fst =
      [Token.name 'R' "ANDOM".toList, .groupOpen, .name 'X' [], .groupClose, .join,
        .text "a b".toList].map (fun t => .ok (some t)) ++ [.ok none] := by decide +kernel
  obtain ⟨found, last, stop, hdrain, -, -, -, hagain⟩ := drain_ofString "RANDOM(X)+\"a b\""
  refine ⟨hspaced, ?_⟩
  rw [hdrain, List.map_append, List.map_map] at hanswers
  obtain ⟨hfound, hlast⟩ := List.append_inj' hanswers rfl
  -- the answers are tokens, so they tell which tokens were found
  have htokens : found.map Prod.fst =
      [Token.name 'R' "ANDOM".toList, .groupOpen, .name 'X' [], .groupClose, .join,
        .text "a b".toList] := by
    refine (List.map_inj_right (f := fun t => (.ok (some t) : Except ParseError _)) ?_).1 ?_
    · simp
    · simpa [Function.comp_def] using hfound
  have hlexemes := congrArg (List.map Token.lexeme) htokens
  rw [List.map_map] at hlexemes
  have happart : Spaced (found.map fun f => f.1.lexeme) "RANDOM\t( X )\n\n+ \"a b\"".toList := by
    rw [show found.map (fun f => f.1.lexeme) = _ from hlexemes]
    exact hspaced
  have hagain' := hagain (by simpa using hlast) _ happart
  rwa [String.ofList_toList] at hagain'

end Scanner

end IdPattern
