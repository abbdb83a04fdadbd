import IdPattern.Segment
import IdPattern.Text.Quoted

/-!
# Patterns as constants of a host program

A pattern is written as a block expression: a constant list with one call for each segment, and the
pattern made of that list. Texts are written as quoted text, which is a valid literal. The spacing
between the words is a matter of the `Spelling`.
-/

namespace IdPattern.Embed

/-- The words around the parts of a constant, with their spacing. -/
structure Spelling where
  /-- What stands before the first segment. -/
  opening : String
  /-- What stands after the last segment. -/
  closing : String
  /-- What stands before the kind of a segment. -/
  call : String
  /-- What stands between two segments, and between two arguments. -/
  separator : String
  /-- What stands before a parameter that is present. -/
  present : String

namespace Spelling

/-- The spelling of written code. -/
def written : Spelling where
  opening := "\x7b const SEGMENTS: &[textpattern::Segment<'static>] = &["
  closing := "]; textpattern::BorrowedTextPattern::new(SEGMENTS) \x7d"
  call := "textpattern::Segment::new_const(textpattern::SegmentKind::"
  separator := ", "
  present := "Some("

/-- The spelling of a sequence of lexemes. -/
def spaced : Spelling where
  opening := "\x7b const SEGMENTS : & [textpattern :: Segment < 'static >] = & ["
  closing := "] ; textpattern :: BorrowedTextPattern :: new (SEGMENTS) \x7d"
  call := "textpattern :: Segment :: new_const (textpattern :: SegmentKind :: "
  separator := " , "
  present := "Some ("

end Spelling

def variant : Kind → String
  | .text => "Text"
  | .method .sequential => "Sequential"
  | .method .random => "Random"
  | .method .orgUnitCode => "OrgUnitCode"
  | .method .currentDate => "CurrentDate"

def Spelling.parameter (w : Spelling) : Option String → String
  | none => "None"
  | some s => w.present ++ quoted s ++ ")"

def Spelling.segment (w : Spelling) (g : Segment) : String :=
  let arguments := [variant g.kind, quoted g.rawText, w.parameter g.parameter?]
  w.call ++ w.separator.intercalate arguments ++ ")"

def Spelling.pattern (w : Spelling) (p : Pattern) : String :=
  w.opening ++ w.separator.intercalate (p.segments.map w.segment) ++ w.closing

/-- A pattern as a constant of a program. -/
def constant (p : Pattern) : String := Spelling.written.pattern p

end IdPattern.Embed
