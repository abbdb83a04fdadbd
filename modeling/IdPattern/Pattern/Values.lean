import IdPattern.Segment

/-!
# Values of a pattern

A pattern describes lists of values, one for each segment. A text accepts itself, a counter as many
digits as its format has characters, a random value one character of the right class for each
character of its format, and an organisation unit or a date whatever is not empty. A missing format
counts as an empty one.
-/

namespace IdPattern

/-- Whether a character may be drawn for a character of a random format. -/
def drawn (format c : Char) : Bool :=
  match format with
  | '#' => c.isDigit
  | 'X' => c.isUpper
  | 'x' => c.isLower
  | _ => false

/-- Whether a text has exactly one drawn character for each character of a random format. -/
def drawnFrom : List Char → List Char → Bool
  | [], [] => true
  | f :: fs, c :: cs => drawn f c && drawnFrom fs cs
  | _, _ => false

def Segment.accepts (g : Segment) (value : String) : Bool :=
  let format := g.parameter?.getD ""
  match g.kind with
  | .text => format == value
  | .method .sequential => value.length == format.length && value.toList.all Char.isDigit
  | .method .random => drawnFrom format.toList value.toList
  | .method .orgUnitCode | .method .currentDate => !value.isEmpty

inductive ValueError
  /-- There are more or fewer values than segments. -/
  | segmentCountMismatch (expected actual : Nat)
  /-- The value at a place does not fit its segment. -/
  | invalidValue (index : Nat) (k : Kind)
deriving DecidableEq

def ValueError.message : ValueError → String
  | segmentCountMismatch expected actual => s!"expected {expected} segment values but got {actual}"
  | invalidValue index k => s!"value of segment {index} does not match its {k.name} format"

/-- The first misfit among pairs of segments and values, counted from `index`. -/
def firstMisfit? (index : Nat) : List (Segment × String) → Option ValueError
  | [] => none
  | (g, value) :: pairs =>
    if g.accepts value then firstMisfit? (index + 1) pairs
    else some (.invalidValue index g.kind)

/-- Why a list of values does not fit a pattern, or nothing if it does. The count is compared before
any value is looked at. -/
def Pattern.misfit? (p : Pattern) (values : List String) : Option ValueError :=
  if p.segments.length = values.length then firstMisfit? 0 (p.segments.zip values)
  else some (.segmentCountMismatch p.segments.length values.length)

/-- For each pair of a segment and a value whether they fit, as far as the shorter list goes. -/
def Pattern.fits (p : Pattern) (values : List String) : List Bool :=
  List.zipWith Segment.accepts p.segments values

end IdPattern
