import IdPattern.Json.Mark

/-!
# JSON text

The compact text of a value has no spaces. Reading accepts any JSON text; the value is found from
the marks by descent, and the number of marks bounds the depth.
-/

namespace IdPattern

namespace Json

/-! ### Writing -/

mutual

def marks : Json → List Mark
  | scalar s => [.scalar s]
  | arr items => .arrOpen :: itemMarks items
  | obj members => .objOpen :: memberMarks members

def itemMarks : List Json → List Mark
  | [] => [.arrClose]
  | [j] => j.marks ++ [.arrClose]
  | j :: js => j.marks ++ .comma :: itemMarks js

def memberMarks : List (String × Json) → List Mark
  | [] => [.objClose]
  | [(name, j)] => .scalar (.string name) :: .colon :: (j.marks ++ [.objClose])
  | (name, j) :: ms => .scalar (.string name) :: .colon :: (j.marks ++ .comma :: memberMarks ms)

end

def compact (j : Json) : String :=
  String.ofList (j.marks.flatMap Mark.text)

/-! ### Reading -/

mutual

/-- The value at the beginning of a list of marks, and the marks after it. -/
def valueOf? : Nat → List Mark → Option (Json × List Mark)
  | 0, _ => none
  | depth + 1, marks =>
    match marks with
    | .scalar s :: marks => some (scalar s, marks)
    | .arrOpen :: .arrClose :: marks => some (arr [], marks)
    | .arrOpen :: marks => (itemsOf? depth marks).map fun (items, rest) => (arr items, rest)
    | .objOpen :: .objClose :: marks => some (obj [], marks)
    | .objOpen :: marks => (membersOf? depth marks).map fun (members, rest) => (obj members, rest)
    | _ => none

/-- The items up to the end of a list that has at least one. -/
def itemsOf? : Nat → List Mark → Option (List Json × List Mark)
  | 0, _ => none
  | depth + 1, marks =>
    match valueOf? depth marks with
    | some (j, .comma :: marks) => (itemsOf? depth marks).map fun (js, rest) => (j :: js, rest)
    | some (j, .arrClose :: marks) => some ([j], marks)
    | _ => none

/-- The members up to their end, of which there is at least one. -/
def membersOf? : Nat → List Mark → Option (List (String × Json) × List Mark)
  | 0, _ => none
  | depth + 1, .scalar (.string name) :: .colon :: marks =>
    match valueOf? depth marks with
    | some (j, .comma :: marks) =>
      (membersOf? depth marks).map fun (ms, rest) => ((name, j) :: ms, rest)
    | some (j, .objClose :: marks) => some ([(name, j)], marks)
    | _ => none
  | _ + 1, _ => none

end

def ofMarks? (marks : List Mark) : Option Json :=
  match valueOf? marks.length marks with
  | some (j, []) => some j
  | _ => none

def ofText? (s : String) : Option Json :=
  (Mark.ofText? s.toList).bind ofMarks?

end Json

end IdPattern
