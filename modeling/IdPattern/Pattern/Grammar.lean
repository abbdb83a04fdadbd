import Mathlib.Data.List.Forall2
import IdPattern.Segment
import IdPattern.Text.Characters
import IdPattern.Token

/-!
# The grammar of expressions and values

What an expression is, told without reading one. `Segment.Written` says which segments can be
written, each with the only raw text, parameter and kind that go together, and `Writes gs s` says
that the text `s` writes the segments `gs`: their raw texts in order, with one `+` between two of
them and blanks anywhere around.

Which values belong to a segment is told from its kind, its raw text and its parameter, and not by
checking a value (`Segment.Produces`). A text stands for what is written between its quotes. A
counter has one digit for each `#` of its format, and a random value one character of the class that
the format names at its place. What an organisation unit or a date is called depends on more than
the segment, so all but the empty value belong to these.
-/

namespace IdPattern

/-- Every quote in a text has a backslash right before it. -/
def QuotesEscaped (cs : List Char) : Prop :=
  ∀ before after, cs = before ++ '"' :: after → before.getLast? = some '\\'

def IsBlankText (cs : List Char) : Prop := ∀ c ∈ cs, isBlank c

/-- The segments that can be written. -/
inductive Segment.Written : Segment → Prop
  | text {content : List Char} : QuotesEscaped content → content.getLast? ≠ some '\\' →
      Written ⟨.text, String.ofList ('"' :: (content ++ ['"'])),
        some (String.ofList (unescape content))⟩
  | sequential {format : List Char} : format ≠ [] → (∀ c ∈ format, c = '#') →
      Written ⟨.method .sequential, "SEQUENTIAL(" ++ String.ofList format ++ ")",
        some (String.ofList format)⟩
  | random {format : List Char} : format ≠ [] → (∀ c ∈ format, c = '#' ∨ c = 'X' ∨ c = 'x') →
      Written ⟨.method .random, "RANDOM(" ++ String.ofList format ++ ")",
        some (String.ofList format)⟩
  | orgUnitCode : Written ⟨.method .orgUnitCode, "ORG_UNIT_CODE()", none⟩
  | currentDate {format : List Char} : format ≠ [] → ')' ∉ format →
      Written ⟨.method .currentDate, "CURRENT_DATE(" ++ String.ofList format ++ ")",
        some (String.ofList format)⟩

/-- The texts that write a list of segments. -/
inductive Writes : List Segment → List Char → Prop
  | last {before after : List Char} {g : Segment} : IsBlankText before → g.Written →
      IsBlankText after → Writes [g] (before ++ g.rawText.toList ++ after)
  | join {before after rest : List Char} {g : Segment} {gs : List Segment} : IsBlankText before →
      g.Written → IsBlankText after → Writes gs rest →
      Writes (g :: gs) (before ++ g.rawText.toList ++ after ++ '+' :: rest)

/-! ### Values -/

/-- A character of a random format and a character that may be drawn for it. -/
inductive Drawn : Char → Char → Prop
  | digit {c : Char} : '0' ≤ c → c ≤ '9' → Drawn '#' c
  | capital {c : Char} : 'A' ≤ c → c ≤ 'Z' → Drawn 'X' c
  | small {c : Char} : 'a' ≤ c → c ≤ 'z' → Drawn 'x' c

namespace Segment

def inner (g : Segment) : List Char := g.rawText.toList.tail.dropLast

/-- The values that belong to a segment. Without a format there are no counters and no random values.
-/
def Produces (g : Segment) (v : String) : Prop :=
  match g.kind, g.parameter? with
  | .text, _ => v.toList = unescape g.inner
  | .method .sequential, some a =>
    (∀ c ∈ v.toList, '0' ≤ c ∧ c ≤ '9') ∧ v.toList.length = a.toList.count '#'
  | .method .random, some a => List.Forall₂ Drawn a.toList v.toList
  | .method .orgUnitCode, _ | .method .currentDate, _ => v ≠ ""
  | _, none => False

end Segment

end IdPattern
