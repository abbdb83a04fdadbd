import IdPattern.Pattern.Positions
import IdPattern.Proofs.Walks

/-!
# Nothing goes wrong in reading by positions

The positions that a reader notes are those of parts of its text, which is what `Scanner.Walks` says
of a scanner. So a cut gives what the reading by places finds there, and the two readings go side by
side: to the next token (`Walks.nextPiece_cases`), through a segment (`Finds.follows_segment`), over
an operator (`Walks.jointPiece_eq`), and from the first token of a segment on through the whole
expression (`Finds.segmentPieces_eq`), by induction along it.

A name that was found has a character, and only names of methods lead to a call. That leaves no
defect (`Pattern.parseByPositions_eq`).
-/

namespace IdPattern

def Token.piece : Token → Piece
  | join => .join
  | groupOpen => .groupOpen
  | groupClose => .groupClose
  | text content => .text content
  | name first others => .name (first :: others)
  | unknown c => .unknown c

/-! ## Parts of the text -/

/-- The first character outside is what is left when the alphabet is skipped. -/
theorem outside?_eq (alphabet : List Char) (index : Nat) (cs : List Char) :
    outside? alphabet index cs =
      match cs.dropWhile (· ∈ alphabet) with
      | [] => none
      | c :: _ => some (index + size (cs.takeWhile (· ∈ alphabet)), c) := by
  induction cs generalizing index with
  | nil => rfl
  | cons c cs ih =>
    by_cases hc : c ∈ alphabet
    · simp [outside?, hc, ih, Nat.add_assoc]
    · simp [outside?, hc]

theorem Kind.ofMethodName?_eq (name : String) :
    ofMethodName? name = (Method.ofName? name).map method := by
  rw [ofMethodName?, List.find?_map]
  rfl

theorem subtract_of_add {n m l : Nat} (h : n = l + m) : subtract n m = .ok l := by
  rw [subtract, if_pos (by omega), h, Nat.add_sub_cancel]

namespace Scanner

variable {w : Scanner} {s : String}

/-- A cut goes wrong exactly if the span is inverted or an end of it is no valid position. -/
theorem cut_eq_error_iff {span : Span} {h : Halt} :
    w.cut span = .error h ↔
      h = .defect (.noPart span) ∧
        ¬ (span.start ≤ span.stop ∧ String.Pos.Raw.IsValid w.input ⟨span.start⟩ ∧
          String.Pos.Raw.IsValid w.input ⟨span.stop⟩) := by
  rw [← Span.isSome_slice?_iff, cut]
  cases span.slice? w.input.toList with
  | some cs => simp
  | none => simp [eq_comm]

/-- The second byte of `ä` begins no part. -/
example : (ofString "ä").cut ⟨1, 2⟩ = .error (.defect (.noPart ⟨1, 2⟩)) := by decide

/-- Cutting succeeds where the span names a part of the text. -/
theorem Walks.cut_eq (hw : w.Walks s) {span : Span} {cs : List Char}
    (h : span.slice? s.toList = some cs) : w.cut span = .ok cs := by
  rw [cut, hw.input_eq, h]

/-! ## The next token -/

/-- A token that stands at a place is cut out there. -/
theorem pieceAt_of_standsBefore {offset : Nat} {t : Token} {cs rest : List Char}
    (ht : t.StandsBefore rest) (hcs : t.lexeme ++ rest = t.head :: cs)
    (hstop : offset + size (t.lexeme ++ rest) = w.input.utf8ByteSize)
    (hcut : w.cut (t.payloadSpan (.over offset t.lexeme)) = .ok t.payload) :
    w.pieceAt offset t.head cs = .ok (t.piece, ⟨offset + size t.lexeme, rest⟩) := by
  cases t with
  | join | groupOpen | groupClose =>
    cases hcs
    rfl
  | text content =>
    obtain rfl : content ++ '"' :: rest = cs := by simpa using hcs
    have hquote : '"'.utf8Size = 1 := rfl
    have hspan : Token.payloadSpan (.over offset (Token.text content).lexeme) (.text content) =
        ⟨offset + 1, offset + 1 + size content⟩ := by
      simp [Token.payloadSpan, hquote]
      omega
    have hafter : offset + 1 + size (content ++ ['"']) =
        offset + size (Token.text content).lexeme := by
      simp [hquote]
      omega
    rw [hspan] at hcut
    simp only [pieceAt, Token.head, if_pos, Cursor.closingQuote?_eq, splitQuoted_of_append ht rfl,
      Option.map_some, hquote, hcut, hafter]
    rfl
  | name first others =>
    obtain ⟨hfirst, hothers, hrest⟩ := ht
    obtain rfl : others ++ rest = cs := by simpa using hcs
    have hne : ∀ d, isNameChar d = false → first ≠ d := fun d => ne_of_isNameChar hfirst
    have hend : offset + first.utf8Size + size (others ++ rest) = w.input.utf8ByteSize := by
      rw [← hstop, Token.lexeme, List.cons_append, size_cons, Nat.add_assoc]
    have hlast := Cursor.endOfName_eq hend
    rw [takeWhile_name_append hothers hrest, dropWhile_name_append hothers hrest] at hlast
    have hafter : offset + first.utf8Size + size others =
        offset + size (Token.name first others).lexeme := by
      rw [Token.lexeme, size_cons, Nat.add_assoc]
    rw [hafter] at hlast
    -- the span of the payload of a name is that of the name itself
    have hname : w.cut ⟨offset, offset + size (Token.name first others).lexeme⟩ =
        .ok (first :: others) := hcut
    simp only [pieceAt, Token.head, hfirst, hne '"' (by decide), hne '+' (by decide),
      hne '(' (by decide), hne ')' (by decide), if_false, if_true, hlast, hname]
    rfl
  | unknown c =>
    obtain ⟨hb, hn, hc⟩ := ht
    obtain rfl : rest = cs := by simpa using hcs
    simp at hc
    simp [pieceAt, hn, hc, Token.piece]

/-- Asking for a token where one stands after blanks. -/
theorem Walks.nextPiece_of_token (hw : w.Walks s) {blanks rest : List Char} {t : Token}
    (hblanks : IsBlankText blanks) (hrest : w.cursor.rest = blanks ++ t.lexeme ++ rest)
    (ht : t.StandsBefore rest) :
    w.nextPiece = .ok (some t.piece, w.advance blanks t.lexeme rest) := by
  obtain ⟨cs, hcs⟩ := t.exists_lexeme_eq
  have hskip : w.cursor.skipBlanks = ⟨w.cursor.offset + size blanks, t.head :: (cs ++ rest)⟩ :=
    Cursor.skipBlanks_of_rest hblanks ht.isBlank_head (by rw [hrest, hcs, List.append_assoc]; rfl)
  have hstop : w.cursor.offset + size blanks + size (t.lexeme ++ rest) = w.input.utf8ByteSize := by
    rw [hw.input_eq, ← hw.stop_eq, Cursor.stop, hrest, List.append_assoc, size_append blanks,
      Nat.add_assoc]
  have hpiece := pieceAt_of_standsBefore ht (by rw [hcs, List.cons_append]) hstop
    (hw.cut_eq (hw.slice?_payload hrest))
  rw [nextPiece, hskip]
  dsimp only
  rw [hpiece]
  rfl

/-- Asking for a token at the end. -/
theorem nextPiece_of_blank (h : IsBlankText w.cursor.rest) :
    w.nextPiece = .ok (none, ⟨w.input, w.cursor.skipBlanks, w.input.utf8ByteSize⟩) := by
  have hrest : w.cursor.skipBlanks.rest = [] := afterBlanks_eq_nil_iff.2 h
  rw [nextPiece]
  simp only [hrest]

/-- Asking for a token where a quote is never closed. -/
theorem Walks.nextPiece_of_unclosed (hw : w.Walks s) {blanks content : List Char}
    (hblanks : IsBlankText blanks) (hrest : w.cursor.rest = blanks ++ '"' :: content)
    (hcontent : QuotesEscaped content) :
    w.nextPiece = .error (.fault ⟨⟨w.cursor.offset + size blanks, w.cursor.stop⟩,
      .unterminatedText⟩) := by
  have hskip : w.cursor.skipBlanks = ⟨w.cursor.offset + size blanks, '"' :: content⟩ :=
    Cursor.skipBlanks_of_rest hblanks (by decide) hrest
  rw [nextPiece, hskip]
  simp only [pieceAt, if_pos, Cursor.closingQuote?_eq, splitQuoted_eq_none_iff.2 hcontent,
    Option.map_none, hw.stop_eq, hw.input_eq]
  rfl

/-- The walk through `s` has just found `f`. -/
structure Finds (w : Scanner) (s : String) (f : Found) : Prop where
  walks : w.Walks s
  range_eq : w.range = f.span
  cursor_eq : w.cursor = f.after
  slice : f.span.slice? s.toList = some f.token.lexeme

theorem Finds.start_eq {f : Found} (h : w.Finds s f) : w.start = f.span.start :=
  congrArg Span.start h.range_eq

/-- Both readings find the same token. -/
theorem Walks.nextPiece_cases (hw : w.Walks s) :
    (∃ e, w.cursor.next = .error e ∧ w.nextPiece = .error (.fault e)) ∨
    (∃ v, w.cursor.next = .ok none ∧ w.nextPiece = .ok (none, v)) ∨
    ∃ f v, w.cursor.next = .ok (some f) ∧ w.nextPiece = .ok (some f.token.piece, v) ∧
      v.Finds s f := by
  cases hnext : w.cursor.next with
  | error e =>
    obtain ⟨blanks, content, hblanks, hrest, hcontent, rfl⟩ := Cursor.next_eq_error_iff.1 hnext
    exact .inl ⟨_, rfl, hw.nextPiece_of_unclosed hblanks hrest hcontent⟩
  | ok f? =>
    cases f? with
    | none => exact .inr (.inl ⟨_, rfl, nextPiece_of_blank (Cursor.next_eq_none_iff.1 hnext)⟩)
    | some f =>
      obtain ⟨blanks, hblanks, hrest, ht, hspan, hafter⟩ := Cursor.next_eq_some_iff.1 hnext
      obtain ⟨t, span, place, rest⟩ := f
      obtain rfl : place = span.stop := hafter
      obtain rfl : span = .over (w.cursor.offset + size blanks) t.lexeme := hspan
      exact .inr (.inr ⟨_, _, rfl, hw.nextPiece_of_token hblanks hrest ht, hw.advance hrest, rfl,
        rfl, hw.slice?_taken hrest⟩)

/-- A fault at the token that was found last is the same in both readings. -/
theorem Finds.unexpected_eq {f : Found} (h : w.Finds s f) :
    w.unexpected f.token.piece = .fault f.unexpected := by
  cases hf : f.token with
  | name => simp [Scanner.unexpected, Found.unexpected, Token.piece, hf, h.range_eq]
  | join | groupOpen | groupClose | text | unknown =>
    simp [Scanner.unexpected, Found.unexpected, Token.piece, hf, h.start_eq]

/-! ## A segment -/

theorem argumentPiece_of_unclosed (h : splitArgument w.cursor.rest = none) :
    w.argumentPiece = .ok (none, ⟨w.input, w.cursor.atEnd, w.start⟩) := by
  simp [argumentPiece, Cursor.closingParen?_eq, h]

/-- An argument is cut out up to its closing parenthesis. -/
theorem Walks.argumentPiece_of_split (hw : w.Walks s) {a rest : List Char}
    (h : splitArgument w.cursor.rest = some (a, rest)) :
    w.argumentPiece = .ok (some (.argument a), w.advance [] (a ++ [')']) rest) := by
  have hrest : w.cursor.rest = [] ++ a ++ ')' :: rest := append_of_splitArgument h
  have hcut : w.cut ⟨w.cursor.offset, w.cursor.offset + size a⟩ = .ok a :=
    hw.cut_eq (hw.slice?_taken hrest)
  simp [argumentPiece, Cursor.closingParen?_eq, h, hcut, Except.map, Scanner.advance]

/-- An argument is checked alike, and its faults have the same places. -/
theorem Walks.checkArgument_eq (hw : w.Walks s) {m : Method} {a : List Char} {group : Span}
    (hgroup : group.slice? s.toList = some ('(' :: (a ++ [')']))) :
    w.checkArgument (.method m) a group =
      match m.fault? group.start a with
      | none => .ok ()
      | some e => .error (.fault e) := by
  obtain ⟨before, after, htext, rfl⟩ := Span.slice?_eq_some_iff.1 hgroup
  unfold checkArgument Method.fault?
  dsimp only
  cases m.argument with
  | absent => cases a <;> rfl
  | free => cases a <;> rfl
  | «over» alphabet =>
    cases a with
    | nil => rfl
    | cons d a =>
      dsimp only
      rw [outside?_eq]
      have hsplit := List.takeWhile_append_dropWhile (p := (· ∈ alphabet)) (l := d :: a)
      cases hdrop : (d :: a).dropWhile (· ∈ alphabet) with
      | nil => rfl
      | cons c b =>
        -- the span of `c` begins behind the parenthesis and the characters that fit
        rw [hdrop] at hsplit
        generalize hgood : (d :: a).takeWhile (· ∈ alphabet) = good at hsplit
        have hparen : '('.utf8Size = 1 := rfl
        have hstart : size before + size ('(' :: good) = size before + 1 + (0 + size good) := by
          rw [size_cons, hparen]
          omega
        have hcut : w.cut (.over (size before + 1 + (0 + size good)) [c]) = .ok [c] := by
          refine hw.cut_eq (Span.slice?_eq_some_iff.2
            ⟨before ++ '(' :: good, b ++ ')' :: after, ?_, ?_⟩)
          · rw [htext, ← hsplit]
            simp
          · rw [size_append, hstart]
        simp only [Span.over, hstart] at hcut ⊢
        rw [hcut]
        rfl

/-- The reading by positions has come to the same: to the same fault, or to the same segment at the
same place. -/
def Follows (s : String) (x : Except ParseError (Segment × Cursor))
    (y : Except Halt (Segment × Scanner)) : Prop :=
  match x with
  | .error e => y = .error (.fault e)
  | .ok (g, q) => ∃ v : Scanner, y = .ok (g, v) ∧ v.Walks s ∧ v.cursor = q

/-- What follows a name that no parenthesis follows is found by what remains of the text. -/
theorem Walks.follows_call_of_not_open (hw : w.Walks s) (hopen : w.cursor.rest.head? ≠ some '(')
    (m : Method) (name : List Char) :
    Follows s (w.cursor.call m w.start name) (w.callPiece (.method m)) := by
  have hnot : ∀ ds, w.cursor.rest ≠ '(' :: ds := by
    rintro ds hds
    exact hopen (by rw [hds]; rfl)
  have hstop : w.input.utf8ByteSize = w.cursor.stop := by rw [hw.input_eq, hw.stop_eq]
  have hcut : w.cut ⟨w.range.stop, w.cursor.stop⟩ = .ok w.cursor.rest := by
    rw [hw.stop_eq]
    exact hw.cut_eq hw.slice?_rest
  have hposition : subtract w.cursor.stop (size (afterBlanks w.cursor.rest)) =
      .ok w.cursor.skipBlanks.offset :=
    subtract_of_add (by rw [← w.cursor.stop_skipBlanks]; rfl)
  rw [Cursor.call_of_not_open hnot, callPiece, accept_of_head?_ne hopen]
  simp only [hstop, hcut, bind, Except.bind, hposition]
  have hrest : w.cursor.skipBlanks.rest = afterBlanks w.cursor.rest := rfl
  rw [hrest]
  cases afterBlanks w.cursor.rest with
  | nil => rfl
  | cons c ds => rfl

/-- The span from the opening parenthesis to the closing one names what stands between and the two.
-/
theorem Finds.slice?_group {f : Found} (h : w.Finds s f) {a rest : List Char}
    (hrest : w.cursor.rest = '(' :: (a ++ ')' :: rest)) :
    let group := '(' :: (a ++ [')'])
    let stop := w.cursor.offset + size group
    Span.slice? ⟨w.cursor.offset, stop⟩ s.toList = some group ∧
      Span.slice? ⟨w.start, stop⟩ s.toList = some (f.token.lexeme ++ group) := by
  have htaken : w.cursor.rest = [] ++ '(' :: (a ++ [')']) ++ rest := by simpa using hrest
  have hgroup := h.walks.slice?_taken htaken
  have hname := h.slice
  rw [← h.range_eq] at hname
  exact ⟨hgroup, Span.slice?_append hname hgroup⟩

/-- The raw text of a call is cut out from its name to its closing parenthesis. -/
theorem Finds.follows_call_of_open {f : Found} (h : w.Finds s f) {cs : List Char}
    (hrest : w.cursor.rest = '(' :: cs) (m : Method) :
    Follows s (f.after.call m f.span.start f.token.lexeme) (w.callPiece (.method m)) := by
  have hw := h.walks
  have hopened : (w.advance [] ['('] cs).Walks s := hw.advance hrest
  have hstart : (w.advance [] ['('] cs).start = w.cursor.offset := rfl
  rw [Scanner.callPiece, accept_of_cons hrest, Cursor.call, ← h.cursor_eq]
  simp only [hrest]
  cases hsplit : splitArgument cs with
  | none =>
    simp only [argumentPiece_of_unclosed (w := w.advance [] ['('] cs) hsplit, bind, Except.bind]
    rw [h.start_eq, hw.input_eq, ← hw.stop_eq]
    rfl
  | some x =>
    obtain ⟨a, rest⟩ := x
    have hcs : cs = a ++ ')' :: rest := append_of_splitArgument hsplit
    obtain ⟨hgroup, hraw⟩ := h.slice?_group (by rw [hrest, hcs])
    have hargument := hopened.argumentPiece_of_split hsplit
    have hclosed : (w.advance [] ['('] cs).cursor.rest = [] ++ (a ++ [')']) ++ rest := by
      simpa using hcs
    -- of the walk behind the parenthesis only its place matters from here on
    generalize hv : (w.advance [] ['('] cs).advance [] (a ++ [')']) rest = v at hargument
    have hvw : v.Walks s := by
      rw [← hv]
      exact hopened.advance hclosed
    have hstop : v.cursor = ⟨w.cursor.offset + size ('(' :: (a ++ [')'])), rest⟩ := by
      simp [← hv, advance, Nat.add_assoc]
    simp only [hargument, bind, Except.bind, hstart, range, hstop, hvw.checkArgument_eq hgroup,
      hvw.cut_eq hraw]
    cases m.fault? w.cursor.offset a with
    | some e => rfl
    | none =>
      refine ⟨v, ?_, hvw, hstop⟩
      cases m <;> rfl

/-- The call after a name is read alike. -/
theorem Finds.follows_call {f : Found} (h : w.Finds s f) (m : Method) :
    Follows s (f.after.call m f.span.start f.token.lexeme) (w.callPiece (.method m)) := by
  by_cases hopen : w.cursor.rest.head? = some '('
  · obtain ⟨cs, hrest⟩ := List.head?_eq_some_iff.1 hopen
    exact h.follows_call_of_open hrest m
  · rw [← h.cursor_eq, ← h.start_eq]
    exact h.walks.follows_call_of_not_open hopen m f.token.lexeme

/-- The segment that begins with the token is read alike. -/
theorem Finds.follows_segment {f : Found} (h : w.Finds s f) :
    Follows s f.segment (w.segmentPiece f.token.piece) := by
  have hunexpected := h.unexpected_eq
  have hcut : w.cut w.range = .ok f.token.lexeme := by
    rw [h.range_eq]
    exact h.walks.cut_eq h.slice
  obtain ⟨t, span, after⟩ := f
  cases t with
  | text content =>
    refine ⟨w, ?_, h.walks, h.cursor_eq⟩
    simp only [Token.piece, segmentPiece, hcut]
    rfl
  | name first others =>
    simp only [Token.piece, segmentPiece, Found.segment, Token.lexeme, Kind.ofMethodName?_eq]
    cases Method.ofName? (String.ofList (first :: others)) with
    | none => exact congrArg Except.error hunexpected
    | some m => exact h.follows_call m
  | join | groupOpen | groupClose | unknown => exact congrArg Except.error hunexpected

/-! ## An operator -/

theorem jointPiece_of_ne {t : Token} (ht : t ≠ .join) {v : Scanner}
    (h : w.nextPiece = .ok (some t.piece, v)) :
    w.jointPiece = .error (v.unexpected t.piece) := by
  rw [jointPiece, h]
  cases t with
  | join => exact absurd rfl ht
  | groupOpen | groupClose | text | name | unknown => rfl

/-- After a segment both readings find the same operator, and the same token after it. -/
theorem Walks.jointPiece_eq (hw : w.Walks s) :
    match w.cursor.joint with
    | .error e => w.jointPiece = .error (.fault e)
    | .ok none => ∃ v, w.jointPiece = .ok (none, v)
    | .ok (some j) =>
      match j.after.next with
      | .error e => w.jointPiece = .error (.fault e)
      | .ok none => w.jointPiece = .error (.fault ⟨j.span, .trailingJoinOperator⟩)
      | .ok (some f) => ∃ v, w.jointPiece = .ok (some f.token.piece, v) ∧ v.Finds s f := by
  rw [Cursor.joint]
  rcases hw.nextPiece_cases with ⟨e, hnext, hpiece⟩ | ⟨v, hnext, hpiece⟩ | ⟨j, v, hnext, hpiece, hj⟩
  · rw [hnext]
    dsimp only
    rw [jointPiece, hpiece]
  · rw [hnext]
    exact ⟨v, by rw [jointPiece, hpiece]⟩
  · rw [hnext]
    dsimp only
    by_cases hjoin : j.token = .join
    · rw [if_pos hjoin]
      rw [hjoin] at hpiece
      dsimp only
      rw [← hj.cursor_eq, jointPiece, hpiece]
      dsimp only [Token.piece]
      rcases hj.walks.nextPiece_cases with ⟨e, hnext, hpiece⟩ | ⟨u, hnext, hpiece⟩ |
        ⟨f, u, hnext, hpiece, hf⟩
      · rw [hnext, hpiece]
      · rw [hnext, hpiece, ← hj.range_eq]
      · rw [hnext, hpiece]
        exact ⟨u, rfl, hf⟩
    · rw [if_neg hjoin]
      dsimp only
      rw [jointPiece_of_ne hjoin hpiece, hj.unexpected_eq]

/-! ## Whole texts -/

/-- What a run comes to when the segments `done` were read before it. -/
def outcome (done : List Segment) (r : Run) : Except Halt (List Segment) :=
  match r.fault? with
  | none => .ok (done ++ r.completed)
  | some e => .error (.fault e)

/-- A segment that a run completes first can be counted among those read before. -/
@[simp] theorem outcome_after (done : List Segment) (g : Segment) (r : Run) :
    outcome done (r.after g) = outcome (done ++ [g]) r := by
  simp [outcome, Run.after]

theorem segmentPieces_none {done : List Segment} (h : done ≠ []) (w : Scanner) :
    w.segmentPieces done none = .ok done := by
  rw [segmentPieces, if_neg h]

theorem segmentPieces_some (w : Scanner) (done : List Segment) (t : Piece) :
    w.segmentPieces done (some t) =
      (w.segmentPiece t).bind fun (g, behind) =>
        behind.jointPiece.bind fun (t?, next) => next.segmentPieces (done ++ [g]) t? := by
  rw [segmentPieces]
  -- the matches are kept for the proof that the reading ends, so they are split and not rewritten
  split
  · next hg =>
    rw [hg]
    rfl
  · next hg =>
    rw [hg]
    dsimp only [Except.bind]
    split
    · next hj => rw [hj]
    · next hj => rw [hj]

/-- What happens after a segment, if both readings come to the same from the next segment on. -/
theorem Walks.outcome_afterSegment (hw : w.Walks s) {done : List Segment} (hdone : done ≠ [])
    (ih : ∀ j f (v : Scanner), w.cursor.joint = .ok (some j) → j.after.next = .ok (some f) →
      v.Finds s f → v.segmentPieces done (some f.token.piece) =
        outcome done (Run.ofCursor ⟨j.span, .trailingJoinOperator⟩ j.after)) :
    (w.jointPiece.bind fun (t?, next) => next.segmentPieces done t?) =
      outcome done (Run.afterSegment w.cursor) := by
  have hjoint := hw.jointPiece_eq
  rw [Run.afterSegment]
  cases hj : w.cursor.joint with
  | error e =>
    simp only [hj] at hjoint
    rw [hjoint]
    rfl
  | ok j? =>
    cases j? with
    | none =>
      simp only [hj] at hjoint
      obtain ⟨v, hv⟩ := hjoint
      rw [hv]
      refine (segmentPieces_none hdone v).trans ?_
      simp [outcome]
    | some j =>
      dsimp only
      rw [Run.ofCursor_eq, Cursor.segment]
      cases hnext : j.after.next with
      | error e =>
        simp only [hj, hnext] at hjoint
        rw [hjoint]
        rfl
      | ok f? =>
        cases f? with
        | none =>
          simp only [hj, hnext] at hjoint
          rw [hjoint]
          rfl
        | some f =>
          simp only [hj, hnext] at hjoint
          obtain ⟨v, hv, hf⟩ := hjoint
          have hrun := ih j f v hj hnext hf
          rw [Run.ofCursor_eq, Cursor.segment, hnext] at hrun
          rw [hv]
          exact hrun

/-- From the first token of a segment on both readings come to the same. -/
theorem Finds.segmentPieces_eq {p : Cursor} {f : Found} (hf : p.next = .ok (some f))
    (h : w.Finds s f) (done : List Segment) (ifBlank : ParseError) :
    w.segmentPieces done (some f.token.piece) = outcome done (Run.ofCursor ifBlank p) := by
  induction p using Cursor.joint_induction generalizing w f done ifBlank with
  | step p ih =>
    have hsegment : p.segment = f.segment.map some := by rw [Cursor.segment, hf]
    have hfollows := h.follows_segment
    rw [segmentPieces_some, Run.ofCursor_eq, hsegment]
    cases hg : f.segment with
    | error e =>
      simp only [hg, Follows] at hfollows
      rw [hfollows]
      rfl
    | ok x =>
      obtain ⟨g, q⟩ := x
      rw [hg] at hfollows hsegment
      obtain ⟨v, hv, hvw, rfl⟩ := hfollows
      rw [hv]
      refine (hvw.outcome_afterSegment (by simp) ?_).trans (outcome_after done g _).symm
      intro j f u hj hnext hfinds
      exact ih g v.cursor j hsegment hj hnext hfinds (done ++ [g]) _

end Scanner

namespace Pattern

/-- **Nothing goes wrong in reading by positions.** On every text it comes to the same as `parse`,
so it has no defect: each cut is at a span that names a part of the text, no difference is below
zero, and no case comes up that should not. -/
theorem parseByPositions_eq (s : String) :
    parseByPositions s = (parse s).mapError .fault ∧
      ∀ d, parseByPositions s ≠ .error (.defect d) := by
  have heq : parseByPositions s = (parse s).mapError .fault := by
    have hw := Scanner.walks_ofString s
    have hcursor : (Scanner.ofString s).cursor = .ofString s := rfl
    by_cases hblank : afterBlanks s.toList = []
    · rw [parseByPositions, if_pos hblank, parse_of_blank (afterBlanks_eq_nil_iff.1 hblank)]
      rfl
    · rw [parseByPositions, if_neg hblank, parse, Run.ofString]
      rcases hw.nextPiece_cases with ⟨e, hnext, hpiece⟩ | ⟨v, hnext, hpiece⟩ |
        ⟨f, v, hnext, hpiece, hf⟩
      · rw [hcursor] at hnext
        rw [hpiece, Run.ofCursor_eq, Cursor.segment, hnext]
        rfl
      · -- a text that is not blank has a first token
        exact absurd (afterBlanks_eq_nil_iff.2 (Cursor.next_eq_none_iff.1 hnext)) hblank
      · have hsegments := hf.segmentPieces_eq hnext []
          ⟨⟨0, (Cursor.ofString s).stop⟩, .emptyExpression⟩
        rw [hcursor] at hsegments
        generalize Run.ofCursor _ (Cursor.ofString s) = r at hsegments ⊢
        simp only [hpiece, bind, Except.bind, hsegments]
        obtain ⟨gs, fault?⟩ := r
        cases fault? <;> rfl
  refine ⟨heq, fun d hd => ?_⟩
  rw [heq] at hd
  cases hparse : parse s <;> simp [hparse, Except.mapError] at hd

end Pattern

end IdPattern
