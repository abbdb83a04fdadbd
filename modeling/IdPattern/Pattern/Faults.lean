import IdPattern.ParseError
import IdPattern.Pattern.Grammar

/-!
# The grammar of faults

What is wrong with a text that writes no segments, told without reading it. A fault concerns a part
of the text, and a `Cut` points at it: its span are the bytes of the part. The faults are described
from the inside out: within an argument (`ArgumentFault`), in the call of a method (`CallFault`),
where a segment is wanted (`SegmentFault`), and after a segment (`JointFault`). The texts of these
begin where the method, the segment or the operator would.

`Fails gs cut k` puts them in their place: the text before the fault writes the segments `gs`, so
these were completed. The rules say of the text after a fault only what the fault depends on, which
is mostly nothing.
-/

namespace IdPattern

/-! ### Parts of a text -/

/-- A text in three parts, of which the middle one is pointed at. -/
structure Cut where
  before : List Char
  inside : List Char
  after : List Char
deriving DecidableEq

namespace Cut

def text (c : Cut) : List Char := c.before ++ c.inside ++ c.after

/-- The bytes of the middle part, in a text that begins at `start`. -/
def span (c : Cut) (start : Nat) : Span := .over (start + size c.before) c.inside

def prepend (cs : List Char) (c : Cut) : Cut := ⟨cs ++ c.before, c.inside, c.after⟩

def append (c : Cut) (cs : List Char) : Cut := ⟨c.before, c.inside, c.after ++ cs⟩

@[simp] theorem text_mk (u v w : List Char) : text ⟨u, v, w⟩ = u ++ v ++ w := rfl

@[simp] theorem span_mk (u v w : List Char) (start : Nat) :
    span ⟨u, v, w⟩ start = .over (start + size u) v := rfl

@[simp] theorem text_prepend (cs : List Char) (c : Cut) : (c.prepend cs).text = cs ++ c.text := by
  simp [text, prepend]

@[simp] theorem text_append (c : Cut) (cs : List Char) : (c.append cs).text = c.text ++ cs := by
  simp [text, append]

/-- Text that is put before a part moves it along. -/
@[simp] theorem span_prepend (cs : List Char) (c : Cut) (start : Nat) :
    (c.prepend cs).span start = c.span (start + size cs) := by
  simp [span, prepend, Nat.add_assoc]

@[simp] theorem span_append (c : Cut) (cs : List Char) (start : Nat) :
    (c.append cs).span start = c.span start := rfl

@[simp] theorem prepend_mk (cs u v w : List Char) : prepend cs ⟨u, v, w⟩ = ⟨cs ++ u, v, w⟩ := rfl

@[simp] theorem append_mk (u v w cs : List Char) : append ⟨u, v, w⟩ cs = ⟨u, v, w ++ cs⟩ := rfl

@[simp] theorem prepend_prepend (c : Cut) (u v : List Char) :
    (c.prepend u).prepend v = c.prepend (v ++ u) := by
  simp [prepend]

@[simp] theorem append_append (c : Cut) (u v : List Char) :
    (c.append u).append v = c.append (u ++ v) := by
  simp [append]

/-- It does not matter at which end a text is lengthened first. -/
@[simp] theorem append_prepend (c : Cut) (u v : List Char) :
    (c.prepend u).append v = (c.append v).prepend u := rfl

end Cut

/-- The fault `e` follows a rule of the relation `R` in the text `cs`, which begins at `start`. -/
def ParseError.Marks (e : ParseError) (R : Cut → Cause → Prop) (start : Nat) (cs : List Char) :
    Prop :=
  ∃ cut, R cut e.cause ∧ cut.text = cs ∧ e.span = cut.span start

/-! ### Where a segment is wanted -/

/-- A text that does not go on with a name. -/
def EndsName (cs : List Char) : Prop := ∀ c ∈ cs.head?, isNameChar c = false

/-- What can be wrong with an argument, told on the text from its opening parenthesis to its closing
one. -/
inductive ArgumentFault : Method → Cut → Cause → Prop
  | empty {m : Method} : m ≠ .orgUnitCode →
      ArgumentFault m ⟨[], ['(', ')'], []⟩ (.emptyMethodArgument (.method m))
  | surplus {a : List Char} : a ≠ [] →
      ArgumentFault .orgUnitCode ⟨[], '(' :: (a ++ [')']), []⟩
        (.unexpectedMethodArgument (.method .orgUnitCode))
  | character {m : Method} {alphabet a b : List Char} {c : Char} : m.argument = .over alphabet →
      (∀ d ∈ a, d ∈ alphabet) → c ∉ alphabet →
      ArgumentFault m ⟨'(' :: a, [c], b ++ [')']⟩ (.invalidArgumentCharacter (.method m) c)

/-- What can be wrong with the call of a method, told on the text from its name on. -/
inductive CallFault (m : Method) : Cut → Cause → Prop
  /-- Something else stands where the opening parenthesis should. -/
  | elsewhere {w after : List Char} {c : Char} : IsBlankText w → isBlank c = false →
      (w = [] → c ≠ '(') → CallFault m ⟨m.name.toList ++ w, [c], after⟩ (.unexpectedToken c)
  /-- Nothing stands there. -/
  | missing {w : List Char} : IsBlankText w →
      CallFault m ⟨[], m.name.toList ++ w, []⟩ (.unterminatedMethod (.method m))
  | unclosed {a : List Char} : ')' ∉ a →
      CallFault m ⟨[], m.name.toList ++ '(' :: a, []⟩ (.unterminatedMethod (.method m))
  | argument {a after : List Char} {cut : Cut} {k : Cause} : ')' ∉ a →
      cut.text = '(' :: (a ++ [')']) → ArgumentFault m cut k →
      CallFault m ((cut.append after).prepend m.name.toList) k

/-- What can be wrong where a segment is wanted, told on the text from the first character on that
is not blank. -/
inductive SegmentFault : Cut → Cause → Prop
  | stray {c : Char} {after : List Char} : isBlank c = false → c ≠ '"' → isNameChar c = false →
      SegmentFault ⟨[], [c], after⟩ (.unexpectedToken c)
  | unclosedText {content : List Char} : QuotesEscaped content →
      SegmentFault ⟨[], '"' :: content, []⟩ .unterminatedText
  | unknownName {c : Char} {cs after : List Char} : isNameChar c → (∀ d ∈ cs, isNameChar d) →
      EndsName after → (∀ m : Method, m.name.toList ≠ c :: cs) →
      SegmentFault ⟨[], c :: cs, after⟩ (.unexpectedToken c)
  | call {m : Method} {rest : List Char} {cut : Cut} {k : Cause} : EndsName rest →
      cut.text = m.name.toList ++ rest → CallFault m cut k → SegmentFault cut k

/-! ### After a segment -/

/-- What can be wrong after a segment, told on the text from the first character on that is not
blank. -/
inductive JointFault : Cut → Cause → Prop
  | stray {c : Char} {after : List Char} : isBlank c = false → c ≠ '+' → c ≠ '"' →
      isNameChar c = false → JointFault ⟨[], [c], after⟩ (.unexpectedToken c)
  | text {content after : List Char} : QuotesEscaped content → content.getLast? ≠ some '\\' →
      JointFault ⟨[], ['"'], content ++ '"' :: after⟩ (.unexpectedToken '"')
  | unclosedText {content : List Char} : QuotesEscaped content →
      JointFault ⟨[], '"' :: content, []⟩ .unterminatedText
  | name {c : Char} {cs after : List Char} : isNameChar c → (∀ d ∈ cs, isNameChar d) →
      EndsName after → JointFault ⟨[], c :: cs, after⟩ (.unexpectedToken c)

/-! ### Whole texts -/

/-- The texts after which a segment is wanted, with the segments that they write. -/
inductive Awaits : List Segment → List Char → Prop
  | first {w : List Char} : IsBlankText w → Awaits [] w
  | next {gs : List Segment} {u w : List Char} : Writes gs u → IsBlankText w →
      Awaits gs (u ++ '+' :: w)

/-- The texts that begin to write segments and fail, with the segments before the fault. Blanks
alone do not begin to write any. -/
inductive Fails : List Segment → Cut → Cause → Prop
  | segment {gs : List Segment} {u : List Char} {cut : Cut} {k : Cause} : Awaits gs u →
      SegmentFault cut k → Fails gs (cut.prepend u) k
  | joint {gs : List Segment} {u : List Char} {cut : Cut} {k : Cause} : Writes gs u →
      JointFault cut k → Fails gs (cut.prepend u) k
  | trailing {gs : List Segment} {u w : List Char} : Writes gs u → IsBlankText w →
      Fails gs ⟨u, ['+'], w⟩ .trailingJoinOperator

end IdPattern
