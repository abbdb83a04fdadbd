import IdPattern.Kind
import IdPattern.Text.Span

/-!
# Errors of an expression

Reading an expression stops at its first fault. A `ParseError` is the cause and the span of bytes
that it concerns; the messages are made from these two alone.
-/

namespace IdPattern

/-- The ways in which an expression can be at fault. -/
inductive Cause
  /-- There is nothing but blanks. -/
  | emptyExpression
  /-- A token that cannot stand where it does, named by its first character. -/
  | unexpectedToken (c : Char)
  /-- A quote is opened and never closed. -/
  | unterminatedText
  /-- The call of a method is not finished. -/
  | unterminatedMethod (k : Kind)
  /-- A method that needs an argument has none. -/
  | emptyMethodArgument (k : Kind)
  /-- An argument leaves the alphabet of its method. -/
  | invalidArgumentCharacter (k : Kind) (c : Char)
  /-- A method that takes no argument has one. -/
  | unexpectedMethodArgument (k : Kind)
  /-- Nothing follows the last `+`. -/
  | trailingJoinOperator
deriving DecidableEq

/-- The cause in words. Characters are shown as they are. -/
def Cause.message : Cause → String
  | .emptyExpression => "expression is empty"
  | .unexpectedToken c => s!"unexpected token '{c}'"
  | .unterminatedText => "text segment is missing its closing quote"
  | .unterminatedMethod k => s!"{k.name} segment is missing its closing parenthesis"
  | .emptyMethodArgument k => s!"{k.name} requires a non empty argument"
  | .invalidArgumentCharacter k c => s!"invalid character '{c}' in {k.name} argument"
  | .unexpectedMethodArgument k => s!"{k.name} does not take an argument"
  | .trailingJoinOperator => "expression must not end with a join operator '+'"

structure ParseError where
  /-- The bytes of the expression that the fault concerns. -/
  span : Span
  cause : Cause
deriving DecidableEq

namespace ParseError

def offset (e : ParseError) : Nat := e.span.start

def message (e : ParseError) : String := s!"{e.cause.message} at offset {e.offset}"

end ParseError

end IdPattern
