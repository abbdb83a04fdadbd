import IdPattern.Proofs.FaultSpans
import IdPattern.Proofs.Tokens
import IdPattern.Scanner
import IdPattern.Text.Slice

/-!
# Walks of a scanner

A scanner can be asked for anything in any order, and goes on after an error. At all times its range
is that of a part of the text, and it has still to see what stands after this part
(`Scanner.Walks`). Every request passes over some characters and takes the next ones, which is
`Scanner.advance`, or it changes nothing, or it gives up at the end of the text.

So there is one lemma for each request that says which of these it does, and the invariant needs to
be shown of `advance` alone. The run of many requests is an induction over their list
(`Walks.afterAll`).
-/

namespace IdPattern

/-! ## Slices between characters -/

/-- The span of a cut names its middle part. -/
theorem Cut.slice?_span (cut : Cut) : (cut.span 0).slice? cut.text = some cut.inside :=
  Span.slice?_eq_some_iff.2 ⟨cut.before, cut.after, rfl, by simp [span]⟩

/-- The valid positions of a string are the sizes of its beginnings. -/
theorem isValid_iff_exists_append {s : String} {n : Nat} :
    String.Pos.Raw.IsValid s ⟨n⟩ ↔
      ∃ before after, before ++ after = s.toList ∧ n = size before := by
  constructor
  · intro h
    obtain ⟨t, u, rfl, hn⟩ := String.Pos.Raw.isValid_iff_exists_append.1 h
    refine ⟨t.toList, u.toList, by simp, ?_⟩
    rw [size_toList]
    exact congrArg String.Pos.Raw.byteIdx hn
  · rintro ⟨before, after, htext, rfl⟩
    exact isValid_of_append htext

/-- Of two beginnings of a text the one with fewer bytes is a beginning of the other. -/
theorem prefix_of_size_le {cs ds es : List Char} (hcs : cs <+: es) (hds : ds <+: es)
    (hle : size cs ≤ size ds) : cs <+: ds := by
  rcases List.prefix_or_prefix_of_prefix hcs hds with h | ⟨more, rfl⟩
  · exact h
  · have hmore : more = [] := by
      by_contra hne
      have hpos : 0 < size more := size_pos hne
      rw [size_append] at hle
      omega
    simp [hmore]

/-- A span names a part of a string exactly if it is not inverted and both its ends are valid
positions. -/
theorem Span.isSome_slice?_iff {s : String} {span : Span} :
    (span.slice? s.toList).isSome ↔
      span.start ≤ span.stop ∧ String.Pos.Raw.IsValid s ⟨span.start⟩ ∧
        String.Pos.Raw.IsValid s ⟨span.stop⟩ := by
  rw [Option.isSome_iff_exists, isValid_iff_exists_append, isValid_iff_exists_append]
  constructor
  · rintro ⟨inside, h⟩
    obtain ⟨before, after, htext, rfl⟩ := slice?_eq_some_iff.1 h
    refine ⟨Nat.le_add_right _ _, ⟨before, inside ++ after, ?_, rfl⟩,
      before ++ inside, after, htext.symm, (size_append before inside).symm⟩
    rw [htext, List.append_assoc]
  · obtain ⟨start, stop⟩ := span
    rintro ⟨hle, ⟨before, rest, hstart, rfl⟩, front, after, hstop, rfl⟩
    obtain ⟨inside, rfl⟩ := prefix_of_size_le ⟨rest, hstart⟩ ⟨after, hstop⟩ hle
    exact ⟨inside, slice?_eq_some_iff.2 ⟨before, after, hstop.symm, by simp [Span.over]⟩⟩

namespace Scanner

/-! ## Walks -/

structure Walks (w : Scanner) (s : String) : Prop where
  input_eq : w.input = s
  /-- The range is that of a part of the text, and the characters still to be seen stand after it. -/
  exists_cut : ∃ cut : Cut, cut.text = s.toList ∧ w.range = cut.span 0 ∧ w.cursor.rest = cut.after

variable {w : Scanner} {s : String}

theorem walks_ofString (s : String) : (ofString s).Walks s :=
  ⟨rfl, ⟨[], [], s.toList⟩, rfl, rfl, rfl⟩

/-- What was seen and what is still to be seen make up the text. -/
theorem Walks.exists_seen (h : w.Walks s) :
    ∃ seen, s.toList = seen ++ w.cursor.rest ∧ w.cursor.offset = size seen := by
  obtain ⟨cut, htext, hrange, hrest⟩ := h.exists_cut
  refine ⟨cut.before ++ cut.inside, by rw [← htext, hrest]; rfl, ?_⟩
  have hstop : w.range.stop = (cut.span 0).stop := by rw [hrange]
  simpa [range, Cut.span] using hstop

/-- The walk ends where the text does. -/
theorem Walks.stop_eq (h : w.Walks s) : w.cursor.stop = s.utf8ByteSize := by
  obtain ⟨seen, htext, hoffset⟩ := h.exists_seen
  rw [← size_toList, htext, size_append, Cursor.stop, hoffset]

/-- The ends of the range are positions between two characters, in this order. -/
theorem Walks.isSome_slice?_range (h : w.Walks s) : (w.range.slice? s.toList).isSome := by
  obtain ⟨cut, htext, hrange, -⟩ := h.exists_cut
  rw [hrange, ← htext, cut.slice?_span]
  rfl

/-- The walk after it has passed over some characters and taken the next ones. -/
def advance (w : Scanner) (passed taken rest : List Char) : Scanner :=
  ⟨w.input, ⟨w.cursor.offset + size passed + size taken, rest⟩, w.cursor.offset + size passed⟩

variable {passed taken rest : List Char}

@[simp] theorem rest_advance : (w.advance passed taken rest).cursor.rest = rest := rfl

@[simp] theorem start_advance :
    (w.advance passed taken rest).start = w.cursor.offset + size passed := rfl

@[simp] theorem offset_advance :
    (w.advance passed taken rest).cursor.offset = w.cursor.offset + size passed + size taken := rfl

@[simp] theorem range_advance :
    (w.advance passed taken rest).range = .over (w.cursor.offset + size passed) taken := rfl

/-- The walk stays in the text when it passes over characters and takes others. -/
theorem Walks.advance (h : w.Walks s) (hrest : w.cursor.rest = passed ++ taken ++ rest) :
    (w.advance passed taken rest).Walks s := by
  obtain ⟨seen, htext, hoffset⟩ := h.exists_seen
  refine ⟨h.input_eq, ⟨seen ++ passed, taken, rest⟩, ?_, ?_, rfl⟩
  · rw [htext, hrest]
    simp
  · simp [hoffset]

/-- The walk after it has given up on an argument. -/
theorem Walks.atEnd (h : w.Walks s) : Walks ⟨w.input, w.cursor.atEnd, w.start⟩ s := by
  obtain ⟨cut, htext, hrange, hrest⟩ := h.exists_cut
  have hstart : w.start = size cut.before := by
    have hstart : w.range.start = (cut.span 0).start := by rw [hrange]
    simpa [range, Cut.span] using hstart
  have hsize : w.cursor.stop = size cut.text := by rw [h.stop_eq, htext, size_toList]
  refine ⟨h.input_eq, ⟨cut.before, cut.inside ++ cut.after, []⟩, ?_, ?_, rfl⟩
  · rw [← htext]
    simp [Cut.text]
  · simp [range, Span.over, hstart, hsize, Cut.text]

/-- What was passed over stands between the place before and the new start. -/
theorem Walks.slice?_passed (h : w.Walks s) (hrest : w.cursor.rest = passed ++ taken ++ rest) :
    Span.slice? ⟨w.cursor.offset, (w.advance passed taken rest).start⟩ s.toList = some passed := by
  obtain ⟨seen, htext, hoffset⟩ := h.exists_seen
  refine Span.slice?_eq_some_iff.2 ⟨seen, taken ++ rest, ?_, ?_⟩
  · rw [htext, hrest]
    simp
  · simp [Span.over, hoffset]

/-- What was taken is the part that the new range names. -/
theorem Walks.slice?_taken (h : w.Walks s) (hrest : w.cursor.rest = passed ++ taken ++ rest) :
    (w.advance passed taken rest).range.slice? s.toList = some taken := by
  obtain ⟨seen, htext, hoffset⟩ := h.exists_seen
  refine Span.slice?_eq_some_iff.2 ⟨seen ++ passed, rest, ?_, ?_⟩
  · rw [htext, hrest]
    simp
  · rw [size_append, ← hoffset]
    rfl

theorem offset_le_advance (w : Scanner) (passed taken rest : List Char) :
    w.cursor.offset ≤ (w.advance passed taken rest).cursor.offset := by
  rw [Scanner.advance, Nat.add_assoc]
  exact Nat.le_add_right _ _

/-- What is still to be seen stands between the place and the end. -/
theorem Walks.slice?_rest (h : w.Walks s) :
    Span.slice? ⟨w.cursor.offset, s.utf8ByteSize⟩ s.toList = some w.cursor.rest := by
  obtain ⟨seen, htext, hoffset⟩ := h.exists_seen
  refine Span.slice?_eq_some_iff.2 ⟨seen, [], by rw [htext, List.append_nil], ?_⟩
  rw [← h.stop_eq, ← hoffset]
  rfl

/-- The character that comes next, told by its position. -/
theorem Walks.slice?_head_iff (h : w.Walks s) {c : Char} :
    (Span.over w.cursor.offset [c]).slice? s.toList = some [c] ↔
      w.cursor.rest.head? = some c := by
  constructor
  · intro hslice
    obtain ⟨seen, htext, hoffset⟩ := h.exists_seen
    obtain ⟨before, after, hcut, hspan⟩ := Span.slice?_eq_some_iff.1 hslice
    have hsize : size seen = size before := by
      rw [← hoffset]
      exact congrArg Span.start hspan
    rw [List.append_assoc] at hcut
    obtain ⟨-, hrest⟩ := append_inj_of_size (htext.symm.trans hcut) hsize
    rw [hrest]
    rfl
  · intro hhead
    obtain ⟨rest, hrest⟩ := List.head?_eq_some_iff.1 hhead
    have hnext : w.cursor.rest = [] ++ [c] ++ rest := hrest
    exact h.slice?_taken hnext

/-! ## What a request does -/

/-- Asking for a token at the end. -/
theorem next_of_blank (h : IsBlankText w.cursor.rest) :
    w.next = (.ok none, w.advance w.cursor.rest [] []) := by
  rw [next, Cursor.next_eq_none_iff.2 h]
  rfl

/-- Asking for a token where one stands after blanks. -/
theorem next_of_token {blanks : List Char} {t : Token} (hblanks : IsBlankText blanks)
    (hrest : w.cursor.rest = blanks ++ t.lexeme ++ rest) (ht : t.StandsBefore rest) :
    w.next = (.ok (some t), w.advance blanks t.lexeme rest) := by
  have hnext : w.cursor.next = .ok (some ⟨t, .over (w.cursor.offset + size blanks) t.lexeme,
      ⟨w.cursor.offset + size blanks + size t.lexeme, rest⟩⟩) :=
    Cursor.next_eq_some_iff.2 ⟨blanks, hblanks, hrest, ht, rfl, rfl⟩
  rw [next, hnext]
  rfl

/-- Asking for a token where a quote is opened that is never closed. -/
theorem next_of_unclosed {blanks content : List Char} (hblanks : IsBlankText blanks)
    (hrest : w.cursor.rest = blanks ++ '"' :: content) (hcontent : QuotesEscaped content) :
    w.next = (.error ⟨⟨w.cursor.offset + size blanks, w.cursor.stop⟩, .unterminatedText⟩,
      w.advance blanks ('"' :: content) []) := by
  rw [next, Cursor.next_eq_error_iff.2 ⟨blanks, content, hblanks, hrest, hcontent, rfl⟩]
  simp [advance, Cursor.atEnd, Cursor.stop, hrest, Nat.add_assoc]

/-- The three things that asking for a token can do. -/
theorem next_cases (w : Scanner) :
    IsBlankText w.cursor.rest ∨
    (∃ blanks t rest, IsBlankText blanks ∧ w.cursor.rest = blanks ++ t.lexeme ++ rest ∧
      Token.StandsBefore rest t) ∨
    ∃ blanks content, IsBlankText blanks ∧ w.cursor.rest = blanks ++ '"' :: content ∧
      QuotesEscaped content := by
  cases h : w.cursor.next with
  | error e =>
    obtain ⟨blanks, content, hblanks, hrest, hcontent, -⟩ := Cursor.next_eq_error_iff.1 h
    exact .inr (.inr ⟨blanks, content, hblanks, hrest, hcontent⟩)
  | ok f? =>
    cases f? with
    | none => exact .inl (Cursor.next_eq_none_iff.1 h)
    | some f =>
      obtain ⟨blanks, hblanks, hrest, ht, -⟩ := Cursor.next_eq_some_iff.1 h
      exact .inr (.inl ⟨blanks, f.token, f.after.rest, hblanks, hrest, ht⟩)

theorem accept_of_cons {c : Char} (hrest : w.cursor.rest = c :: rest) :
    w.accept c = (true, w.advance [] [c] rest) := by
  simp [accept, hrest, advance]

/-- Where another character stands nothing is taken. -/
theorem accept_of_head?_ne {c : Char} (h : w.cursor.rest.head? ≠ some c) :
    w.accept c = (false, w) := by
  unfold accept
  split
  · rfl
  · next d rest hrest =>
    rw [if_neg]
    rintro rfl
    exact h (by rw [hrest]; rfl)

/-- An argument is taken with its closing parenthesis. -/
theorem argument_of_append {a : List Char} (hrest : w.cursor.rest = a ++ ')' :: rest)
    (ha : ')' ∉ a) : w.argument = (some a, w.advance [] (a ++ [')']) rest) := by
  simp [argument, splitArgument_eq_some_iff.2 ⟨hrest, ha⟩, advance]

/-- Without a closing parenthesis the walk goes to the end, but the start stays. -/
theorem argument_of_unclosed (h : ')' ∉ w.cursor.rest) :
    w.argument = (none, ⟨w.input, w.cursor.atEnd, w.start⟩) := by
  rw [argument, splitArgument_eq_none_iff.2 h]

/-! ## Any requests in any order -/

/-- What an answer to a request says about the text, and where it leaves the walk. -/
def Effect (w w' : Scanner) : Request → Answer → Prop
  | .next, .next (.ok (some t)) =>
    w.cursor.offset ≤ w'.start ∧ w'.start < w'.cursor.offset ∧
      (∃ blanks, IsBlankText blanks ∧
        Span.slice? ⟨w.cursor.offset, w'.start⟩ w.input.toList = some blanks) ∧
      w'.range.slice? w.input.toList = some t.lexeme ∧
      (t.payloadSpan w'.range).slice? w.input.toList = some t.payload
  | .next, .next (.ok none) => w'.range = ⟨w.input.utf8ByteSize, w.input.utf8ByteSize⟩
  | .next, .next (.error _) => w'.cursor.offset = w.input.utf8ByteSize
  | .accept c, .accept taken =>
    (taken ↔ (Span.over w.cursor.offset [c]).slice? w.input.toList = some [c]) ∧
      if taken then w'.range = .over w.cursor.offset [c] else w' = w
  | .argument, .argument (some a) =>
    ')' ∉ a ∧ w'.start = w.cursor.offset ∧ w'.range.slice? w.input.toList = some (a ++ [')'])
  | .argument, .argument none =>
    w'.start = w.start ∧ w'.cursor.offset = w.input.utf8ByteSize ∧
      ∃ rest, ')' ∉ rest ∧ Span.slice? ⟨w.cursor.offset, w.input.utf8ByteSize⟩ w.input.toList =
        some rest
  | _, _ => False

/-- The span of the payload names the payload. -/
theorem Walks.slice?_payload (h : w.Walks s) {blanks : List Char} {t : Token}
    (hrest : w.cursor.rest = blanks ++ t.lexeme ++ rest) :
    (t.payloadSpan (w.advance blanks t.lexeme rest).range).slice? s.toList = some t.payload := by
  have hlexeme := h.slice?_taken hrest
  cases t with
  | text content =>
    obtain ⟨before, after, htext, hrange⟩ := Span.slice?_eq_some_iff.1 hlexeme
    refine Span.slice?_eq_some_iff.2 ⟨before ++ ['"'], '"' :: after, ?_, ?_⟩
    · rw [htext]
      simp [Token.payload]
    · rw [hrange]
      have hquote : '"'.utf8Size = 1 := rfl
      simp [Token.payloadSpan, Token.payload, Span.over, hquote]
      omega
  | join | groupOpen | groupClose | name | unknown => exact hlexeme

/-- One request keeps the walk in the text, never goes back, and has the effect of its answer. -/
theorem Walks.ask (h : w.Walks s) (r : Request) :
    (w.ask r).2.Walks s ∧ w.cursor.offset ≤ (w.ask r).2.cursor.offset ∧
      w.Effect (w.ask r).2 r (w.ask r).1 := by
  have hstop := h.stop_eq
  obtain rfl := h.input_eq
  cases r with
  | next =>
    rcases w.next_cases with hblank | ⟨blanks, t, rest, hblanks, hrest, ht⟩ |
      ⟨blanks, content, hblanks, hrest, hcontent⟩
    · simp only [Scanner.ask, next_of_blank hblank]
      refine ⟨h.advance (by simp), offset_le_advance .., ?_⟩
      rw [Effect, ← hstop]
      rfl
    · simp only [Scanner.ask, next_of_token hblanks hrest ht]
      refine ⟨h.advance hrest, offset_le_advance .., Nat.le_add_right _ _, ?_,
        ⟨blanks, hblanks, h.slice?_passed hrest⟩, h.slice?_taken hrest, h.slice?_payload hrest⟩
      exact Nat.lt_add_of_pos_right (size_pos t.lexeme_ne_nil)
    · simp only [Scanner.ask, next_of_unclosed hblanks hrest hcontent]
      refine ⟨h.advance (by simpa using hrest), offset_le_advance .., ?_⟩
      rw [Effect, ← hstop, Cursor.stop, hrest, size_append, ← Nat.add_assoc]
      rfl
  | accept c =>
    by_cases hhead : w.cursor.rest.head? = some c
    · obtain ⟨rest, hrest⟩ := List.head?_eq_some_iff.1 hhead
      simp only [Scanner.ask, accept_of_cons hrest]
      exact ⟨h.advance hrest, offset_le_advance .., by simpa using h.slice?_head_iff.2 hhead, rfl⟩
    · simp only [Scanner.ask, accept_of_head?_ne hhead]
      exact ⟨h, Nat.le_refl _, by simpa using fun hslice => hhead (h.slice?_head_iff.1 hslice), rfl⟩
  | argument =>
    cases hsplit : splitArgument w.cursor.rest with
    | none =>
      have hclose := splitArgument_eq_none_iff.1 hsplit
      simp only [Scanner.ask, argument_of_unclosed hclose]
      exact ⟨h.atEnd, Nat.le_add_right _ _, rfl, hstop, w.cursor.rest, hclose, h.slice?_rest⟩
    | some x =>
      obtain ⟨a, rest⟩ := x
      obtain ⟨hrest, ha⟩ := splitArgument_eq_some_iff.1 hsplit
      have hnext : w.cursor.rest = [] ++ (a ++ [')']) ++ rest := by simpa using hrest
      simp only [Scanner.ask, argument_of_append hrest ha]
      exact ⟨h.advance hnext, offset_le_advance .., ha, rfl, h.slice?_taken hnext⟩

/-- Requests in any number keep the walk in the text and never lead back. -/
theorem Walks.afterAll (h : w.Walks s) (requests : List Request) :
    (w.afterAll requests).Walks s ∧ w.cursor.offset ≤ (w.afterAll requests).cursor.offset := by
  induction requests generalizing w with
  | nil => exact ⟨h, Nat.le_refl _⟩
  | cons r requests ih =>
    obtain ⟨hask, hle, -⟩ := h.ask r
    obtain ⟨hall, hle'⟩ := ih hask
    exact ⟨hall, Nat.le_trans hle hle'⟩

/-- **A scanner keeps its place, whatever it is asked for and in whatever order.** Its range is that
of a part of the text, with both ends between two characters; it never goes back; and each answer
says what stands in the text where the walk has come. -/
theorem ask_afterAll (s : String) (requests : List Request) :
    let w := (ofString s).afterAll requests
    (w.start ≤ w.cursor.offset ∧ w.cursor.offset ≤ s.utf8ByteSize ∧
      String.Pos.Raw.IsValid s ⟨w.start⟩ ∧ String.Pos.Raw.IsValid s ⟨w.cursor.offset⟩) ∧
    (∀ later, w.cursor.offset ≤ ((ofString s).afterAll (requests ++ later)).cursor.offset) ∧
    w.input = s ∧ ∀ r, w.Effect (w.ask r).2 r (w.ask r).1 := by
  intro w
  have h : w.Walks s := ((walks_ofString s).afterAll requests).1
  obtain ⟨hle, hstart, hoffset⟩ := Span.isSome_slice?_iff.1 h.isSome_slice?_range
  have hend : w.cursor.offset ≤ s.utf8ByteSize := by
    rw [← h.stop_eq]
    exact Nat.le_add_right _ _
  refine ⟨⟨hle, hend, hstart, hoffset⟩, fun later => ?_, h.input_eq, fun r => (h.ask r).2.2⟩
  have hlater : (ofString s).afterAll (requests ++ later) = w.afterAll later := List.foldl_append
  rw [hlater]
  exact (h.afterAll later).2

end Scanner

end IdPattern
