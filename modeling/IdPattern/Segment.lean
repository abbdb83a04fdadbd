import IdPattern.Kind

/-!
# Segments and patterns

A `Pattern` is a list of segments. Each `Segment` keeps the text it was read from, so the canonical
expression of a pattern is its raw texts joined by `+`. Nothing ties the three fields of a segment
together: segments can be built by hand, and only those read from an expression are consistent.
-/

namespace IdPattern

structure Segment where
  kind : Kind
  /-- The text of the segment in an expression, with quotes or parentheses. -/
  rawText : String
  /-- The content of a text with its escapes resolved, or the argument of a method that takes one.
  -/
  parameter? : Option String
deriving DecidableEq

structure Pattern where
  segments : List Segment
deriving DecidableEq

namespace Pattern

def joiner : String := " + "

/-- The canonical expression: the raw texts of the segments, joined by `+` between single spaces. -/
def expression (p : Pattern) : String :=
  joiner.intercalate (p.segments.map Segment.rawText)

/-- The first segment whose values come from a generator. -/
def generated? (p : Pattern) : Option Segment :=
  p.segments.find? fun g => g.kind.isGenerated

def contains (p : Pattern) (k : Kind) : Bool :=
  p.segments.any fun g => g.kind == k

/-- The kinds that occur, in the order of their declaration. -/
def kinds (p : Pattern) : List Kind :=
  Kind.all.filter p.contains

end Pattern

end IdPattern
