import IdPattern.Cursor

/-!
# Scanners

A `Scanner` walks through a text on request and remembers where its last token began. It can be
asked for the next token, for one particular character, or for the argument of a method, in any
order, and goes on after an error.
-/

namespace IdPattern

structure Scanner where
  /-- The whole text. -/
  input : String
  /-- The place that the walk has reached. -/
  cursor : Cursor
  /-- Where the last token began. -/
  start : Nat
deriving DecidableEq

namespace Scanner

def ofString (s : String) : Scanner := ⟨s, .ofString s, 0⟩

/-- The span from the beginning of the last token to the place reached. -/
def range (s : Scanner) : Span := ⟨s.start, s.cursor.offset⟩

/-- Asks for the next token. At the end of the text, and after a quote that is never closed, the
walk is at the end. -/
def next (s : Scanner) : Except ParseError (Option Token) × Scanner :=
  match s.cursor.next with
  | .ok none =>
    let last := s.cursor.atEnd
    (.ok none, ⟨s.input, last, last.offset⟩)
  | .ok (some f) => (.ok (some f.token), ⟨s.input, f.after, f.span.start⟩)
  | .error e => (.error e, ⟨s.input, s.cursor.atEnd, e.span.start⟩)

/-- Takes the character `c` if it comes next, with no blank before it. -/
def accept (s : Scanner) (c : Char) : Bool × Scanner :=
  match s.cursor.rest with
  | [] => (false, s)
  | d :: rest =>
    if d = c then
      (true, ⟨s.input, ⟨s.cursor.offset + c.utf8Size, rest⟩, s.cursor.offset⟩)
    else (false, s)

/-- Asks for the text up to the next closing parenthesis, and takes the parenthesis too. Where there
is none the rest of the text is taken. -/
def argument (s : Scanner) : Option (List Char) × Scanner :=
  match splitArgument s.cursor.rest with
  | none => (none, ⟨s.input, s.cursor.atEnd, s.start⟩)
  | some (argument, rest) =>
    let span := Span.over s.cursor.offset (argument ++ [')'])
    (some argument, ⟨s.input, ⟨span.stop, rest⟩, span.start⟩)

/-! ### Requests -/

inductive Request
  | next
  | accept (c : Char)
  | argument
deriving DecidableEq

inductive Answer
  /-- A token, nothing at the end of the text, or an error. -/
  | next (found : Except ParseError (Option Token))
  /-- Whether a character was taken. -/
  | accept (taken : Bool)
  /-- An argument, if it was closed. -/
  | argument (argument? : Option (List Char))

def ask (s : Scanner) : Request → Answer × Scanner
  | .next => (.next s.next.1, s.next.2)
  | .accept c => (.accept (s.accept c).1, (s.accept c).2)
  | .argument => (.argument s.argument.1, s.argument.2)

def afterAll (s : Scanner) (requests : List Request) : Scanner :=
  requests.foldl (fun s r => (s.ask r).2) s

/-- Asks for tokens until there is none left or an error comes up: every answer with the walk after
it, the last answer included. -/
def drain (s : Scanner) : List (Except ParseError (Option Token) × Scanner) :=
  match _h : s.cursor.next with
  | .ok (some _) => s.next :: drain s.next.2
  | _ => [s.next]
termination_by s.cursor.rest.length
decreasing_by simpa [next, _h] using Cursor.length_rest_lt_of_next _h

end Scanner

end IdPattern
