import IdPattern.Embed.Literal
import IdPattern.Embed.Word
import IdPattern.Text.Characters

/-!
# Lexemes of a host program

A program text is cut into lexemes. Only those that matter for a pattern are told apart: string
literals, of which the value is kept, the delimiters that group other lexemes, and everything else.
Blanks and comments between lexemes are passed over, but a comment that documents something is a
lexeme.

A text that cannot be cut into lexemes, or in which the delimiters do not match, is no program at
all.
-/

namespace IdPattern.Embed

inductive Delimiter
  | round
  | square
  | curly
deriving DecidableEq

inductive Lexeme
  | opening (d : Delimiter)
  | closing (d : Delimiter)
  /-- A string literal that denotes a text. -/
  | text (value : List Char)
  | other
deriving DecidableEq

/-! ### Blanks and comments -/

/-- The blanks of a program. The two marks for the direction of writing count among them. -/
def isGap (c : Char) : Bool := isBlank c || c.toNat == 0x200E || c.toNat == 0x200F

/-- Whether a comment documents something, told by what follows its two slashes. -/
def documentsLine : List Char → Bool
  | '!' :: _ => true
  | '/' :: '/' :: _ => false
  | '/' :: _ => true
  | _ => false

/-- Whether a comment documents something, told by what follows its slash and star. -/
def documentsBlock : List Char → Bool
  | '!' :: _ => true
  | '*' :: '*' :: _ => false
  | '*' :: '/' :: _ => false
  | '*' :: _ => true
  | _ => false

/-- The text after a comment between `/*` and `*/`, of which the opening has been taken. Comments
nest, and `depth` further ones are open. -/
def afterBlock? : Nat → List Char → Option (List Char)
  | _, [] => none
  | depth, '/' :: '*' :: cs => afterBlock? (depth + 1) cs
  | 0, '*' :: '/' :: cs => some cs
  | depth + 1, '*' :: '/' :: cs => afterBlock? depth cs
  | depth, _ :: cs => afterBlock? depth cs

def afterLine (cs : List Char) : List Char := cs.dropWhile (· != '\n')

theorem length_of_afterBlock? {depth : Nat} {cs rest : List Char}
    (h : afterBlock? depth cs = some rest) : rest.length ≤ cs.length := by
  fun_induction afterBlock? depth cs <;> simp_all <;> omega

/-- The text after blanks and comments that document nothing. -/
def afterGap (cs : List Char) : List Char :=
  match cs with
  | '/' :: '/' :: rest => if documentsLine rest then cs else afterGap (afterLine rest)
  | '/' :: '*' :: rest =>
    if documentsBlock rest then cs
    else
      match _h : afterBlock? 0 rest with
      | some rest' => afterGap rest'
      | none => cs
  | c :: rest => if isGap c then afterGap rest else cs
  | [] => []
termination_by cs.length
decreasing_by
  · have := (List.dropWhile_suffix (p := (· != '\n')) (l := rest)).length_le
    simp only [afterLine, List.length_cons]
    omega
  · have := length_of_afterBlock? _h
    simp only [List.length_cons]
    omega
  · simp

/-- The text after a comment that documents something. A carriage return in it must be followed by a
line feed. -/
def documentation? (cs : List Char) : Option (List Char) :=
  match cs with
  | '/' :: '/' :: rest =>
    let line := rest.takeWhile (· != '\n')
    let after := afterLine rest
    if documentsLine rest ∧ ¬ hasBareReturn (line ++ after.take 1) then some after else none
  | '/' :: '*' :: rest =>
    (afterBlock? 0 rest).bind fun after =>
      let inside := rest.take (rest.length - after.length)
      if documentsBlock rest ∧ ¬ hasBareReturn inside then some after else none
  | _ => none

/-! ### Words -/

/-- The text after a single character between apostrophes. -/
def character? : List Char → Option (List Char)
  | '\'' :: '\\' :: cs =>
    match escape? .text cs with
    | some (_, '\'' :: rest) => some (afterSuffix rest)
    | _ => none
  | '\'' :: _ :: '\'' :: cs => some (afterSuffix cs)
  | 'b' :: '\'' :: '\\' :: cs =>
    match escape? .bytes cs with
    | some (_, '\'' :: rest) => some (afterSuffix rest)
    | _ => none
  | 'b' :: '\'' :: c :: '\'' :: cs =>
    if Flavour.bytes.admits c then some (afterSuffix cs) else none
  | _ => none

def punctuation : List Char := "~!@#$%^&*-=+|;:,<.>/?".toList

def beginsComment : List Char → Bool
  | '/' :: '/' :: _ => true
  | '/' :: '*' :: _ => true
  | _ => false

/-- The text after a mark of punctuation. An apostrophe is one only before the name of a lifetime,
which no apostrophe follows. -/
def punctuation? (cs : List Char) : Option (List Char) :=
  match cs with
  | '\'' :: cs =>
    (afterName? cs).bind fun rest =>
      match rest with
      | '\'' :: _ => none
      | '#' :: _ => if ['r', '#'].isPrefixOf cs then some cs else none
      | _ => some cs
  | c :: rest => if c ∈ punctuation ∧ ¬ beginsComment cs then some rest else none
  | [] => none

/-- The beginnings of strings and bytes. A text with one of them is no identifier, even where the
string or byte is at fault. -/
def stringStarts : List (List Char) :=
  ["r\"", "r#\"", "r##", "b\"", "b'", "br\"", "br#", "c\"", "cr\"", "cr#"].map String.toList

def name? (cs : List Char) : Option (List Char) :=
  if stringStarts.any (·.isPrefixOf cs) then none else afterName? cs

/-! ### Lexemes -/

def delimiter? : Char → Option Lexeme
  | '(' => some (.opening .round)
  | '[' => some (.opening .square)
  | '{' => some (.opening .curly)
  | ')' => some (.closing .round)
  | ']' => some (.closing .square)
  | '}' => some (.closing .curly)
  | _ => none

/-- What stands for a part of a program that could not be written down. It is one lexeme. -/
def placeholder : List Char := "(/*ERROR*/)".toList

/-- The lexeme at the beginning of a text, and the text after it. -/
def lexeme? (cs : List Char) : Option (Lexeme × List Char) :=
  match documentation? cs with
  | some rest => some (.other, rest)
  | none =>
    if placeholder.isPrefixOf cs then some (.other, cs.drop placeholder.length)
    else
      match cs.head?.bind delimiter? with
      | some d => some (d, cs.drop 1)
      | none =>
        match string? cs with
        | some (.text, value, rest) => some (.text value, afterSuffix rest)
        | some (_, _, rest) => some (.other, afterSuffix rest)
        | none =>
          ((((character? cs).or (number? cs)).or (punctuation? cs)).or (name? cs)).map (.other, ·)

/-- A lexeme with its place in the program. -/
structure Placed where
  lexeme : Lexeme
  span : Span
  /-- The characters it is written with. -/
  source : List Char
deriving DecidableEq

/-- The lexemes of the text `cs`, which begins at `start`. -/
def lexemes? (start : Nat) (cs : List Char) : Option (List Placed) :=
  let after := afterGap cs
  if after = [] then some []
  else
    match lexeme? after with
    | none => none
    | some (l, rest) =>
      if _h : rest.length < cs.length then
        let source := after.take (after.length - rest.length)
        let span := Span.over (start + (size cs - size after)) source
        (lexemes? span.stop rest).map (⟨l, span, source⟩ :: ·)
      else none
termination_by cs.length

/-! ### Groups -/

/-- A lexeme that stands in no group, or a group with all that it holds. -/
structure Item where
  span : Span
  /-- The span of the first lexeme. -/
  head : Span
  /-- A string literal: its value and the characters it is written with. -/
  literal? : Option (List Char × List Char)
deriving DecidableEq

def Placed.item (p : Placed) : Item :=
  let literal? := match p.lexeme with
    | .text value => some (value, p.source)
    | _ => none
  ⟨p.span, p.span, literal?⟩

/-- The items of a list of lexemes, where the groups in `opened` are open, the innermost one first.
There are none unless all groups are closed in their order. -/
def itemsOf? : List (Delimiter × Span) → List Placed → Option (List Item)
  | [], [] => some []
  | _ :: _, [] => none
  | opened, p :: ps =>
    match p.lexeme with
    | .opening d => itemsOf? ((d, p.span) :: opened) ps
    | .closing d =>
      match opened with
      | [] => none
      | (e, head) :: outer =>
        if d ≠ e then none
        else if outer.isEmpty then
          (itemsOf? [] ps).map (⟨⟨head.start, p.span.stop⟩, head, none⟩ :: ·)
        else itemsOf? outer ps
    | _ => if opened.isEmpty then (itemsOf? [] ps).map (p.item :: ·) else itemsOf? opened ps

/-- The items of a program text. A mark of the byte order at its beginning is passed over. -/
def items? (source : List Char) : Option (List Item) :=
  let lexemes := match source with
    | '\uFEFF' :: cs => lexemes? '\uFEFF'.utf8Size cs
    | cs => lexemes? 0 cs
  lexemes.bind (itemsOf? [])

/-! ### Symbols

A symbol is a lexeme as it is written, wherever it stands. Two program texts with the same symbols
mean the same: they differ in nothing but blanks and comments.
-/

structure Symbol where
  lexeme : Lexeme
  /-- The characters it is written with. -/
  source : List Char
deriving DecidableEq

def Symbol.ofString (s : String) : Symbol :=
  match s.toList with
  | [c] => ⟨(delimiter? c).getD .other, [c]⟩
  | cs => ⟨.other, cs⟩

def Placed.symbol (p : Placed) : Symbol := ⟨p.lexeme, p.source⟩

/-- The symbols of the text `cs`, which begins at `start`. -/
def symbols? (start : Nat) (cs : List Char) : Option (List Symbol) :=
  (lexemes? start cs).map (·.map Placed.symbol)

/-- Two program texts that consist of the same symbols. -/
def SameSymbols (s t : String) : Prop :=
  ∃ ss, symbols? 0 s.toList = some ss ∧ symbols? 0 t.toList = some ss

end IdPattern.Embed
