import IdPattern.Pattern.Parser
import IdPattern.Scanner
import IdPattern.Text.Slice

/-!
# Reading by positions

Expressions are read here once more, by a reader that keeps the text in one piece and notes
positions in it. Whatever it needs of the text it cuts out between two positions: what a token
carries, an argument, the raw text of a segment. It looks for the first segment before it knows that
there is one, and its tokens may be arguments, or names without a character.

So this reader can go wrong in ways that are not the fault of the expression. A cut may be at a span
that names no part of the text, a difference may be below zero, a case may come up that should not.
Each of these is a `Defect`, and ends the reading. That there are none on any text, and that the
reading is that of `Pattern.parse`, is `Pattern.parseByPositions_eq`.
-/

namespace IdPattern

inductive Piece
  | join
  | groupOpen
  | groupClose
  | text (content : List Char)
  | name (cs : List Char)
  /-- What stands between the parentheses of a method. -/
  | argument (cs : List Char)
  | unknown (c : Char)
deriving DecidableEq

/-- What can go wrong with the reader. -/
inductive Defect
  /-- A cut at a span that names no part of the text. -/
  | noPart (span : Span)
  /-- A difference of positions below zero. -/
  | belowZero (n m : Nat)
  /-- The tokens have come to an end and there is no segment. -/
  | noSegment
  /-- An argument, or a name without a character, is to be reported as an unexpected token. -/
  | unexpected (t : Piece)
  /-- The argument of a text is to be checked. -/
  | textArgument
deriving DecidableEq

/-- Why a reading ends before its time. -/
inductive Halt
  | fault (e : ParseError)
  | defect (d : Defect)
deriving DecidableEq

def subtract (n m : Nat) : Except Halt Nat :=
  if m ≤ n then .ok (n - m) else .error (.defect (.belowZero n m))

/-! ### Looking for an end

Each of these looks for the character that something ends at, in a text that begins at `offset`, and
finds its position and the place where the reading goes on.
-/

namespace Cursor

/-- The first character that does not belong to a name, which is not passed over. -/
def endOfName (stop offset : Nat) : List Char → Nat × Cursor
  | [] => (stop, ⟨offset, []⟩)
  | c :: cs =>
    if isNameChar c then endOfName stop (offset + c.utf8Size) cs else (offset, ⟨offset, c :: cs⟩)

def closingQuote? (offset : Nat) : List Char → Option (Nat × Cursor)
  | [] => none
  | '"' :: cs => some (offset, ⟨offset + size ['"'], cs⟩)
  | '\\' :: '"' :: cs => closingQuote? (offset + size ['\\', '"']) cs
  | c :: cs => closingQuote? (offset + c.utf8Size) cs

def closingParen? (offset : Nat) : List Char → Option (Nat × Cursor)
  | [] => none
  | c :: cs =>
    if c = ')' then some (offset, ⟨offset + c.utf8Size, cs⟩)
    else closingParen? (offset + c.utf8Size) cs

theorem endOfName_eq {stop offset : Nat} {cs : List Char} (h : offset + size cs = stop) :
    endOfName stop offset cs =
      let last := offset + size (cs.takeWhile isNameChar)
      (last, ⟨last, cs.dropWhile isNameChar⟩) := by
  induction cs generalizing offset with
  | nil => simp_all [endOfName]
  | cons c cs ih =>
    by_cases hc : isNameChar c = true
    · have hrest : offset + c.utf8Size + size cs = stop := by rw [Nat.add_assoc]; exact h
      simp [endOfName, hc, ih hrest, Nat.add_assoc]
    · simp [endOfName, hc]

theorem closingQuote?_eq (offset : Nat) (cs : List Char) :
    closingQuote? offset cs = (splitQuoted cs).map fun (content, rest) =>
      (offset + size content, ⟨offset + size (content ++ ['"']), rest⟩) := by
  fun_induction splitQuoted cs generalizing offset with
  | case1 => rfl
  | case2 cs => simp [closingQuote?]
  | case3 cs ih =>
    rw [closingQuote?, ih, Option.map_map]
    simp [Function.comp_def, Nat.add_assoc]
  | case4 c cs hq hpair ih =>
    rw [closingQuote?, ih, Option.map_map]
    · simp [Function.comp_def, Nat.add_assoc]
    · exact hq
    · exact hpair

theorem closingParen?_eq (offset : Nat) (cs : List Char) :
    closingParen? offset cs = (splitArgument cs).map fun (argument, rest) =>
      (offset + size argument, ⟨offset + size (argument ++ [')']), rest⟩) := by
  induction cs generalizing offset with
  | nil => rfl
  | cons c cs ih =>
    by_cases hc : c = ')'
    · simp [closingParen?, splitArgument, hc]
    · rw [closingParen?, if_neg hc, ih]
      cases h : cs.dropWhile (· != ')') with
      | nil => simp [splitArgument, hc, h]
      | cons d rest => simp [splitArgument, hc, h, Nat.add_assoc]

theorem length_rest_endOfName (stop offset : Nat) (cs : List Char) :
    (endOfName stop offset cs).2.rest.length ≤ cs.length := by
  fun_induction endOfName stop offset cs with
  | case1 => exact Nat.le_refl _
  | case2 offset c cs hc ih => exact Nat.le_succ_of_le ih
  | case3 => exact Nat.le_refl _

theorem length_rest_of_closingQuote? {offset quote : Nat} {cs : List Char} {q : Cursor}
    (h : closingQuote? offset cs = some (quote, q)) : q.rest.length ≤ cs.length := by
  simp only [closingQuote?_eq, Option.map_eq_some_iff, Prod.exists, Prod.mk.injEq] at h
  obtain ⟨content, rest, hs, -, rfl⟩ := h
  dsimp only
  rw [append_of_splitQuoted hs, List.length_append, List.length_cons]
  omega

theorem length_rest_of_closingParen? {offset paren : Nat} {cs : List Char} {q : Cursor}
    (h : closingParen? offset cs = some (paren, q)) : q.rest.length ≤ cs.length := by
  simp only [closingParen?_eq, Option.map_eq_some_iff, Prod.exists, Prod.mk.injEq] at h
  obtain ⟨argument, rest, hs, -, rfl⟩ := h
  dsimp only
  rw [append_of_splitArgument hs, List.length_append, List.length_cons]
  omega

end Cursor

/-- The first character that is not in the alphabet, with its place in a text that begins at
`index`. -/
def outside? (alphabet : List Char) (index : Nat) : List Char → Option (Nat × Char)
  | [] => none
  | c :: cs => if c ∈ alphabet then outside? alphabet (index + c.utf8Size) cs else some (index, c)

def Kind.ofMethodName? (name : String) : Option Kind :=
  (Method.all.map method).find? fun k => k.name == name

namespace Scanner

/-! ### Single steps -/

def cut (w : Scanner) (span : Span) : Except Halt (List Char) :=
  match span.slice? w.input.toList with
  | some cs => .ok cs
  | none => .error (.defect (.noPart span))

/-- The token that begins at `offset` with the character `c`, and the place after it. -/
def pieceAt (w : Scanner) (offset : Nat) (c : Char) (cs : List Char) :
    Except Halt (Piece × Cursor) :=
  let stop := w.input.utf8ByteSize
  let q : Cursor := ⟨offset + c.utf8Size, cs⟩
  if c = '"' then
    match Cursor.closingQuote? q.offset cs with
    | none => .error (.fault ⟨⟨offset, stop⟩, .unterminatedText⟩)
    | some (quote, q) => (w.cut ⟨offset + 1, quote⟩).map fun content => (.text content, q)
  else if c = '+' then .ok (.join, q)
  else if c = '(' then .ok (.groupOpen, q)
  else if c = ')' then .ok (.groupClose, q)
  else if isNameChar c then
    let (last, q) := Cursor.endOfName stop q.offset cs
    (w.cut ⟨offset, last⟩).map fun name => (.name name, q)
  else .ok (.unknown c, q)

def nextPiece (w : Scanner) : Except Halt (Option Piece × Scanner) :=
  let p := w.cursor.skipBlanks
  match p.rest with
  | [] => .ok (none, ⟨w.input, p, w.input.utf8ByteSize⟩)
  | c :: cs => (w.pieceAt p.offset c cs).map fun (t, q) => (some t, ⟨w.input, q, p.offset⟩)

def argumentPiece (w : Scanner) : Except Halt (Option Piece × Scanner) :=
  match Cursor.closingParen? w.cursor.offset w.cursor.rest with
  | none => .ok (none, ⟨w.input, w.cursor.atEnd, w.start⟩)
  | some (paren, q) =>
    (w.cut ⟨w.cursor.offset, paren⟩).map fun argument =>
      (some (.argument argument), ⟨w.input, q, w.cursor.offset⟩)

def unexpected (w : Scanner) (t : Piece) : Halt :=
  let single (c : Char) : Halt := .fault ⟨.over w.start [c], .unexpectedToken c⟩
  match t with
  | .join => single '+'
  | .groupOpen => single '('
  | .groupClose => single ')'
  | .text _ => single '"'
  | .name (c :: _) => .fault ⟨w.range, .unexpectedToken c⟩
  | .name [] => .defect (.unexpected t)
  | .argument _ => .defect (.unexpected t)
  | .unknown c => single c

/-- Checks an argument. The span `group` is that of the argument with its parentheses. -/
def checkArgument (w : Scanner) (k : Kind) (argument : List Char) (group : Span) :
    Except Halt Unit :=
  match k with
  | .text => .error (.defect .textArgument)
  | .method m =>
    match m.argument, argument with
    | .absent, [] => .ok ()
    | .absent, _ :: _ => .error (.fault ⟨group, .unexpectedMethodArgument k⟩)
    | .free, [] | .over _, [] => .error (.fault ⟨group, .emptyMethodArgument k⟩)
    | .free, _ :: _ => .ok ()
    | .over alphabet, _ :: _ =>
      match outside? alphabet 0 argument with
      | none => .ok ()
      | some (index, c) => do
        let span := Span.over (group.start + 1 + index) [c]
        -- nothing is made of the part, but it has to be one
        let _ ← w.cut span
        .error (.fault ⟨span, .invalidArgumentCharacter k c⟩)

/-- Reads the call of a method whose name was found last. -/
def callPiece (w : Scanner) (k : Kind) : Except Halt (Segment × Scanner) :=
  let stop := w.input.utf8ByteSize
  match w.accept '(' with
  | (false, _) => do
    let behind ← w.cut ⟨w.range.stop, stop⟩
    let remaining := afterBlanks behind
    let position ← subtract stop (size remaining)
    match remaining with
    | c :: _ => .error (.fault ⟨.over position [c], .unexpectedToken c⟩)
    | [] => .error (.fault ⟨⟨w.start, stop⟩, .unterminatedMethod k⟩)
  | (true, opened) => do
    match ← opened.argumentPiece with
    | (some (.argument argument), closed) =>
      let segmentEnd := closed.range.stop
      closed.checkArgument k argument ⟨opened.start, segmentEnd⟩
      let rawText ← closed.cut ⟨w.start, segmentEnd⟩
      let parameter? := if k = .method .orgUnitCode then none else some (String.ofList argument)
      return (⟨k, String.ofList rawText, parameter?⟩, closed)
    -- only the end of the text leads here, but a piece of another sort would too
    | _ => .error (.fault ⟨⟨w.start, stop⟩, .unterminatedMethod k⟩)

/-- Reads the segment that begins with the token `t`, which was found last. -/
def segmentPiece (w : Scanner) (t : Piece) : Except Halt (Segment × Scanner) :=
  match t with
  | .text content =>
    (w.cut w.range).map fun rawText =>
      (⟨.text, String.ofList rawText, some (String.ofList (unescape content))⟩, w)
  | .name name =>
    match Kind.ofMethodName? (String.ofList name) with
    | some k => w.callPiece k
    | none => .error (w.unexpected t)
  | _ => .error (w.unexpected t)

/-- Reads the operator after a segment and the token after the operator. -/
def jointPiece (w : Scanner) : Except Halt (Option Piece × Scanner) :=
  match w.nextPiece with
  | .error h => .error h
  | .ok (none, w) => .ok (none, w)
  | .ok (some .join, joined) =>
    match joined.nextPiece with
    | .error h => .error h
    | .ok (none, _) => .error (.fault ⟨joined.range, .trailingJoinOperator⟩)
    | .ok (some t, w) => .ok (some t, w)
  | .ok (some t, w) => .error (w.unexpected t)

/-! ### Whole texts

Every token takes characters off the text, and a segment gives none back.
-/

theorem exists_of_map_ok {α β : Type} {x : Except Halt α} {f : α → β} {b : β}
    (h : x.map f = .ok b) : ∃ a, x = .ok a ∧ f a = b := by
  cases x with
  | error e => cases h
  | ok a =>
    cases h
    exact ⟨a, rfl, rfl⟩

theorem length_rest_of_pieceAt {w : Scanner} {offset : Nat} {c : Char} {cs : List Char} {t : Piece}
    {q : Cursor} (h : w.pieceAt offset c cs = .ok (t, q)) : q.rest.length ≤ cs.length := by
  unfold pieceAt at h
  dsimp only at h
  split at h
  · split at h
    · cases h
    · next hquote =>
      obtain ⟨content, -, hq⟩ := exists_of_map_ok h
      cases hq
      exact Cursor.length_rest_of_closingQuote? hquote
  · repeat' split at h
    any_goals
      cases h
      exact Nat.le_refl _
    obtain ⟨name, -, hq⟩ := exists_of_map_ok h
    cases hq
    exact Cursor.length_rest_endOfName ..

theorem length_rest_of_nextPiece {w v : Scanner} {t? : Option Piece}
    (h : w.nextPiece = .ok (t?, v)) :
    v.cursor.rest.length + t?.toList.length ≤ w.cursor.rest.length := by
  have hskip : w.cursor.skipBlanks.rest.length ≤ w.cursor.rest.length := by
    have hlength := congrArg List.length (leadingBlanks_append_afterBlanks w.cursor.rest)
    rw [List.length_append] at hlength
    exact Nat.le_trans (Nat.le_add_left ..) (Nat.le_of_eq hlength)
  unfold nextPiece at h
  dsimp only at h
  split at h
  · cases h
    exact hskip
  · next c cs hrest =>
    obtain ⟨⟨t, q⟩, hpiece, hv⟩ := exists_of_map_ok h
    cases hv
    rw [hrest] at hskip
    exact Nat.le_trans (Nat.add_le_add_right (length_rest_of_pieceAt hpiece) 1) hskip

theorem length_rest_of_argumentPiece {w v : Scanner} {t? : Option Piece}
    (h : w.argumentPiece = .ok (t?, v)) : v.cursor.rest.length ≤ w.cursor.rest.length := by
  unfold argumentPiece at h
  split at h
  · cases h
    exact Nat.zero_le _
  · next paren q hparen =>
    obtain ⟨argument, -, hv⟩ := exists_of_map_ok h
    cases hv
    exact Cursor.length_rest_of_closingParen? hparen

theorem length_rest_accept (w : Scanner) (c : Char) :
    (w.accept c).2.cursor.rest.length ≤ w.cursor.rest.length := by
  unfold accept
  split
  · exact Nat.le_refl _
  · next d rest hrest =>
    split
    · rw [hrest]
      exact Nat.le_succ _
    · exact Nat.le_refl _

theorem length_rest_of_callPiece {w v : Scanner} {k : Kind} {g : Segment}
    (h : w.callPiece k = .ok (g, v)) : v.cursor.rest.length ≤ w.cursor.rest.length := by
  unfold callPiece at h
  dsimp only at h
  split at h
  · simp only [bind, Except.bind] at h
    repeat' split at h
    all_goals cases h
  · next opened hopened =>
    have hle := length_rest_accept w '('
    rw [hopened] at hle
    simp only [bind, Except.bind] at h
    repeat' split at h
    all_goals cases h
    all_goals exact Nat.le_trans (length_rest_of_argumentPiece ‹_›) hle

theorem length_rest_of_segmentPiece {w v : Scanner} {t : Piece} {g : Segment}
    (h : w.segmentPiece t = .ok (g, v)) : v.cursor.rest.length ≤ w.cursor.rest.length := by
  unfold segmentPiece at h
  split at h
  · obtain ⟨rawText, -, hv⟩ := exists_of_map_ok h
    cases hv
    exact Nat.le_refl _
  · split at h
    · exact length_rest_of_callPiece h
    · cases h
  · cases h

theorem length_rest_of_jointPiece {w v : Scanner} {t? : Option Piece}
    (h : w.jointPiece = .ok (t?, v)) :
    v.cursor.rest.length + t?.toList.length ≤ w.cursor.rest.length := by
  unfold jointPiece at h
  split at h
  · cases h
  · next hv =>
    cases h
    exact length_rest_of_nextPiece hv
  · next joined hjoined =>
    have hrest := length_rest_of_nextPiece hjoined
    split at h
    · cases h
    · cases h
    · next hv =>
      cases h
      exact Nat.le_trans (length_rest_of_nextPiece hv) (Nat.le_trans (Nat.le_add_right ..) hrest)
  · cases h

/-- Reads segments and operators, with the segments `done` already read and the token `t?` found
last. -/
def segmentPieces (w : Scanner) (done : List Segment) (t? : Option Piece) :
    Except Halt (List Segment) :=
  match t? with
  | none => if done = [] then .error (.defect .noSegment) else .ok done
  | some t =>
    match _hg : w.segmentPiece t with
    | .error h => .error h
    | .ok (g, behind) =>
      match _hj : behind.jointPiece with
      | .error h => .error h
      | .ok (t?, next) => segmentPieces next (done ++ [g]) t?
termination_by w.cursor.rest.length + t?.toList.length
decreasing_by
  have := length_rest_of_segmentPiece _hg
  have := length_rest_of_jointPiece _hj
  simp only [Option.toList_some, List.length_singleton]
  omega

end Scanner

/-- Reads an expression as a pattern, by positions. -/
def Pattern.parseByPositions (s : String) : Except Halt Pattern :=
  if afterBlanks s.toList = [] then .error (.fault ⟨⟨0, s.utf8ByteSize⟩, .emptyExpression⟩)
  else do
    let (t?, w) ← (Scanner.ofString s).nextPiece
    let segments ← w.segmentPieces [] t?
    return ⟨segments⟩

end IdPattern
