import IdPattern.Pattern.Parser
import IdPattern.Pattern.Values
import IdPattern.Text.Quoted

/-!
# The report of the command line

The report shows a sample pattern and a list of values that fits it, and then each expression that
was given: the segments of its pattern, or a caret under the place of its fault. The caret is
indented by as many spaces as there are bytes before the fault.
-/

namespace IdPattern

/-! ### Layout

A text is first cut to a number of characters, if one is given, and then filled up to the width of
the field. In the middle of a field the smaller half of the filling stands on the left.
-/

inductive Align
  | left
  | right
  | center
deriving DecidableEq

structure Layout where
  /-- The least number of characters. -/
  width : Nat
  /-- The number of characters the text is cut to. -/
  precision? : Option Nat := none
  align : Align := .left
  /-- The character of the filling. -/
  fill : Char := ' '
deriving DecidableEq

namespace Layout

def cut (l : Layout) (cs : List Char) : List Char :=
  match l.precision? with
  | none => cs
  | some n => cs.take n

/-- How much filling stands on the left of a text that misses `n` characters. -/
def leading (l : Layout) (n : Nat) : Nat :=
  match l.align with
  | .left => 0
  | .right => n
  | .center => n / 2

def apply (l : Layout) (s : String) : String :=
  let cs := l.cut s.toList
  let missing := l.width - cs.length
  let before := l.leading missing
  String.ofList
    (List.replicate before l.fill ++ cs ++ List.replicate (missing - before) l.fill)

end Layout

/-! ### Lines -/

namespace Report

/-- An identifier made of an organisation unit, a year, and a random and a counted part. -/
def sample : Pattern where
  segments := [
    ⟨.method .orgUnitCode, "ORG_UNIT_CODE()", none⟩,
    ⟨.text, "\"-\"", some "-"⟩,
    ⟨.method .currentDate, "CURRENT_DATE(yyyy)", some "yyyy"⟩,
    ⟨.text, "\"-\"", some "-"⟩,
    ⟨.method .random, "RANDOM(XX##)", some "XX##"⟩,
    ⟨.method .sequential, "SEQUENTIAL(###)", some "###"⟩]

def sampleValues : List String := ["OU_559", "-", "2026", "-", "AB12", "007"]

def parameter : Option String → String
  | none => "None"
  | some s => s!"Some({quoted s})"

def segmentLine (g : Segment) (index : Nat) : String :=
  let kind := Layout.apply ⟨13, none, .left, ' '⟩ g.kind.name
  let rawText := Layout.apply ⟨20, none, .left, ' '⟩ g.rawText
  s!"  {index}: {kind} {rawText} {parameter g.parameter?}"

def patternLines (p : Pattern) : List String :=
  p.segments.zipIdx.map fun (g, index) => segmentLine g index

def valuesLine (p : Pattern) (values : List String) : String :=
  match p.misfit? values with
  | none => s!"Value {String.join values} matches the pattern"
  | some e => s!"Value {String.join values} does not match: {e.message}"

def indent (e : ParseError) : String := String.ofList (List.replicate e.offset ' ')

def expressionLines (expression : String) : List String :=
  match Pattern.parse expression with
  | .ok p => s!"Pattern {expression}" :: patternLines p
  | .error e => [expression, s!"{indent e}^ {e.cause.message}"]

def lines (expressions : List String) : List String :=
  s!"Compile time pattern {sample.expression}" :: patternLines sample ++
    valuesLine sample sampleValues :: expressions.flatMap expressionLines

/-- The report. Every line is ended. -/
def text (expressions : List String) : String :=
  String.join ((lines expressions).map (· ++ "\n"))

end Report

end IdPattern
