import IdPattern.Pattern.Parser
import IdPattern.Text.Quoted

/-!
# The log of a reading

While an expression is read each completed segment is traced, and a fault is noted last. The log is
a view of the run: it adds only the words.
-/

namespace IdPattern

inductive LogEntry
  /-- A segment was completed. -/
  | completed (g : Segment)
  /-- The expression turned out to be at fault. -/
  | failed (expression : String) (e : ParseError)
deriving DecidableEq

namespace LogEntry

def level : LogEntry → String
  | completed _ => "TRACE"
  | failed .. => "DEBUG"

def text : LogEntry → String
  | completed g => s!"{g.kind.name} segment {g.rawText}"
  | failed s e => s!"failed to parse pattern {quoted s}: {e.message}"

end LogEntry

def Pattern.log (s : String) : List LogEntry :=
  let run := Run.ofString s
  run.completed.map .completed ++ run.fault?.toList.map (.failed s)

end IdPattern
