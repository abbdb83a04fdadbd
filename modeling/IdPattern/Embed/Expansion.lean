import IdPattern.Embed.Constant
import IdPattern.Embed.Lexeme
import IdPattern.Embed.Offsets
import IdPattern.Pattern.Parser

/-!
# Expansion of patterns in a host program

Where a program names a pattern by a literal, the literal is read when the program is compiled, and
the constant of the pattern takes its place. A fault of the pattern is shown at the part of the
literal that it comes from, or at the whole literal where that part cannot be told.
-/

namespace IdPattern.Embed

inductive Rejection
  /-- The text is no program. -/
  | unreadable
  /-- The text is empty. -/
  | missing
  /-- Something other than a string literal stands first. -/
  | notString (span : Span)
  /-- Something follows the literal. -/
  | surplus (span : Span)
  /-- The value of the literal is no pattern. -/
  | invalid (e : ParseError) (span : Span)
deriving DecidableEq

namespace Rejection

def message : Rejection → String
  | unreadable => "cannot parse string into token stream"
  | missing => "unexpected end of input, expected string literal"
  | notString _ => "expected string literal"
  | surplus _ => "unexpected token"
  | invalid e _ => e.message

def span? : Rejection → Option Span
  | unreadable => none
  | missing => some ⟨0, 0⟩
  | notString span | surplus span | invalid _ span => some span

/-- The part of the program that is shown. It is shown in a program of ASCII characters only, where
bytes and columns are the same. -/
def shownSpan? (r : Rejection) (source : String) : Option Span :=
  if source.toList.all fun c => c.toNat < 0x80 then r.span? else none

end Rejection

/-- The part of the program that a fault in the value of a literal comes from. The literal is
written with the characters `written` at `span`. -/
def faultSpan (written : List Char) (span fault : Span) : Span :=
  match sourceSpan? written fault with
  | some part =>
    let part : Span := ⟨span.start + part.start, span.start + part.stop⟩
    if part.start ≤ part.stop ∧ part.stop ≤ span.stop then part else span
  | none => span

/-- The pattern that a program text names by a single string literal. -/
def patternOf (source : String) : Except Rejection Pattern :=
  match items? source.toList with
  | none => .error .unreadable
  | some [] => .error .missing
  | some (item :: items) =>
    match item.literal?, items with
    | none, _ => .error (.notString item.head)
    | some _, next :: _ => .error (.surplus next.span)
    | some (value, written), [] =>
      match Pattern.parse (String.ofList value) with
      | .ok p => .ok p
      | .error e => .error (.invalid e (faultSpan written item.span e.span))

/-- The constant that takes the place of a literal, as a sequence of lexemes. -/
def expand (source : String) : Except Rejection String :=
  (patternOf source).map Spelling.spaced.pattern

end IdPattern.Embed
