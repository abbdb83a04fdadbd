import IdPattern.Cursor
import IdPattern.Segment

/-!
# Reading expressions

An expression is one or more segments with the operator `+` between them:

    pattern  := segment ('+' segment)*
    segment  := '"' ('\"' | any character but '"')* '"'
              | name '(' argument ')'

Blanks may stand around segments and operators, but not between a name and its parenthesis, and
inside quotes and parentheses they are part of the text. An argument ends at the first closing
parenthesis.

Reading goes from left to right and stops at the first fault. A `Run` is all that happens on the
way: the segments that were completed, and the fault if there was one. `Pattern.parse` keeps the
segments of a run without fault.
-/

namespace IdPattern

/-- The fault of a token that cannot stand where it was found. A name is reported whole, any other
token by its first character. -/
def Found.unexpected (f : Found) : ParseError :=
  let span := match f.token with
    | .name .. => f.span
    | t => .over f.span.start [t.head]
  ⟨span, .unexpectedToken f.token.head⟩

/-- What is wrong with an argument, if anything. The place `group` is that of the opening
parenthesis. -/
def Method.fault? (m : Method) (group : Nat) (argument : List Char) : Option ParseError :=
  let span := Span.over group ('(' :: (argument ++ [')']))
  match m.argument, argument with
  | .absent, [] => none
  | .absent, _ :: _ => some ⟨span, .unexpectedMethodArgument (.method m)⟩
  | .free, [] | .over _, [] => some ⟨span, .emptyMethodArgument (.method m)⟩
  | .free, _ :: _ => none
  | .over alphabet, _ :: _ =>
    match argument.dropWhile (· ∈ alphabet) with
    | [] => none
    | c :: _ =>
      let start := group + size ('(' :: argument.takeWhile (· ∈ alphabet))
      some ⟨.over start [c], .invalidArgumentCharacter (.method m) c⟩

def Method.parameter? (m : Method) (argument : List Char) : Option String :=
  match m.argument with
  | .absent => none
  | .free | .over _ => some (String.ofList argument)

/-- Reads the call of the method `m`, whose name `name` begins at `start` and ends at `p`. -/
def Cursor.call (p : Cursor) (m : Method) (start : Nat) (name : List Char) :
    Except ParseError (Segment × Cursor) :=
  let unterminated := ⟨⟨start, p.stop⟩, .unterminatedMethod (.method m)⟩
  match p.rest with
  | '(' :: cs =>
    match splitArgument cs with
    | none => .error unterminated
    | some (argument, rest) =>
      match m.fault? p.offset argument with
      | some e => .error e
      | none =>
        let group := '(' :: (argument ++ [')'])
        .ok (⟨.method m, String.ofList (name ++ group), m.parameter? argument⟩,
          ⟨p.offset + size group, rest⟩)
  | _ =>
    let q := p.skipBlanks
    match q.rest with
    | [] => .error unterminated
    | c :: _ => .error ⟨q.spanOf c, .unexpectedToken c⟩

/-- Reads the segment that begins with a given token. -/
def Found.segment (f : Found) : Except ParseError (Segment × Cursor) :=
  match f.token with
  | .text content =>
    .ok (⟨.text, String.ofList f.token.lexeme, some (String.ofList (unescape content))⟩, f.after)
  | .name .. =>
    match Method.ofName? (String.ofList f.token.lexeme) with
    | some m => f.after.call m f.span.start f.token.lexeme
    | none => .error f.unexpected
  | _ => .error f.unexpected

/-- A call ends at or after the place where its argument may begin. -/
theorem Cursor.length_rest_le_of_call {p q : Cursor} {m : Method} {start : Nat} {name : List Char}
    {g : Segment} (h : p.call m start name = .ok (g, q)) : q.rest.length ≤ p.rest.length := by
  unfold Cursor.call at h
  simp only at h
  split at h
  · next cs hp =>
    split at h
    · simp at h
    · next argument rest ha =>
      split at h
      · simp at h
      · simp only [Except.ok.injEq, Prod.mk.injEq] at h
        rw [hp, append_of_splitArgument ha, ← h.2]
        simp only [List.length_cons, List.length_append]
        omega
  · split at h <;> simp at h

/-- The place after a segment is not before the place after its first token. -/
theorem Found.length_rest_le_of_segment {f : Found} {g : Segment} {q : Cursor}
    (h : f.segment = .ok (g, q)) : q.rest.length ≤ f.after.rest.length := by
  unfold Found.segment at h
  split at h
  · simp only [Except.ok.injEq, Prod.mk.injEq] at h
    exact Nat.le_of_eq (by rw [h.2])
  · split at h
    · exact Cursor.length_rest_le_of_call h
    · simp at h
  · simp at h

/-- All that happens while an expression is read. -/
structure Run where
  /-- The segments that were completed, in order. -/
  completed : List Segment
  /-- The fault that ended the reading before its time. -/
  fault? : Option ParseError
deriving DecidableEq

namespace Run

def after (g : Segment) (r : Run) : Run := ⟨g :: r.completed, r.fault?⟩

/-- Reads segments and operators from a place where a segment must begin. If there are only blanks
left the fault is `ifBlank`: it is the caller who knows why a segment was wanted. -/
def ofCursor (ifBlank : ParseError) (p : Cursor) : Run :=
  match _hf : p.next with
  | .error e => ⟨[], some e⟩
  | .ok none => ⟨[], some ifBlank⟩
  | .ok (some f) =>
    match _hg : f.segment with
    | .error e => ⟨[], some e⟩
    | .ok (g, q) =>
      match _hj : q.next with
      | .error e => ⟨[g], some e⟩
      | .ok none => ⟨[g], none⟩
      | .ok (some j) =>
        if j.token = .join then
          (ofCursor ⟨j.span, .trailingJoinOperator⟩ j.after).after g
        else ⟨[g], some j.unexpected⟩
termination_by p.rest.length
decreasing_by
  have := Cursor.length_rest_lt_of_next _hf
  have := Found.length_rest_le_of_segment _hg
  have := Cursor.length_rest_lt_of_next _hj
  omega

def ofString (s : String) : Run :=
  let p := Cursor.ofString s
  ofCursor ⟨⟨0, p.stop⟩, .emptyExpression⟩ p

/-- The pattern of a run without fault. -/
def result (r : Run) : Except ParseError Pattern :=
  match r.fault? with
  | none => .ok ⟨r.completed⟩
  | some e => .error e

end Run

namespace Pattern

/-- Reads an expression as a pattern, or finds its first fault. -/
def parse (s : String) : Except ParseError Pattern :=
  (Run.ofString s).result

/-- Reads an expression that may be missing, which counts as an empty one. -/
def parseOptional (s? : Option String) : Except ParseError Pattern :=
  parse (s?.getD "")

/-- Whether the canonical expression of a pattern reads as that pattern. -/
def isReadable (p : Pattern) : Bool :=
  match parse p.expression with
  | .ok q => q = p
  | .error _ => false

end Pattern

/-- Whether the raw text of a segment reads as that segment alone. -/
def Segment.isReadable (g : Segment) : Bool :=
  Pattern.isReadable ⟨[g]⟩

end IdPattern
