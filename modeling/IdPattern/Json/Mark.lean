import IdPattern.Decimal.Shortest
import IdPattern.Json.Number
import IdPattern.Text.Quoted

/-!
# Marks of JSON text

JSON text is a sequence of marks: scalars, brackets and separators. `Json.marks` lists the marks of
a value, and its compact text is their texts put together. Reading goes the other way in two steps,
from text to marks here and from marks to a value in the module for reading.

In a string the quote, the backslash and the controls are escaped; every other character stands for
itself.
-/

namespace IdPattern

inductive Mark
  | scalar (s : Scalar)
  | arrOpen
  | arrClose
  | objOpen
  | objClose
  | comma
  | colon

namespace Mark

/-! ### Writing -/

def stringChar (c : Char) : List Char :=
  match c with
  | '"' => ['\\', '"']
  | '\\' => ['\\', '\\']
  | '\x08' => ['\\', 'b']
  | '\t' => ['\\', 't']
  | '\n' => ['\\', 'n']
  | '\x0c' => ['\\', 'f']
  | '\r' => ['\\', 'r']
  | c =>
    if c.toNat < 0x20 then
      ['\\', 'u', '0', '0', Nat.digitChar (c.toNat / 16), Nat.digitChar (c.toNat % 16)]
    else [c]

def scalarText : Scalar → List Char
  | .null => "null".toList
  | .bool true => "true".toList
  | .bool false => "false".toList
  | .integer n => (toString n).toList
  | .real x => (Decimal.floatText x).toList
  | .string s => '"' :: (s.toList.flatMap stringChar ++ ['"'])

def text : Mark → List Char
  | scalar s => scalarText s
  | arrOpen => ['[']
  | arrClose => [']']
  | objOpen => ['{']
  | objClose => ['}']
  | comma => [',']
  | colon => [':']

/-! ### Reading -/

def isSpace (c : Char) : Bool := c == ' ' || c == '\t' || c == '\n' || c == '\r'

/-- What the letter after a backslash stands for. -/
def escape? : Char → Option Char
  | '"' => some '"'
  | '\\' => some '\\'
  | '/' => some '/'
  | 'b' => some '\x08'
  | 't' => some '\t'
  | 'n' => some '\n'
  | 'f' => some '\x0c'
  | 'r' => some '\r'
  | _ => none

/-- The character that two halves of sixteen bits stand for, the high one first. -/
def ofHalves? (high low : Nat) : Option Char :=
  if high < 0xDC00 ∧ 0xDC00 ≤ low ∧ low < 0xE000 then
    charOfCode? (0x10000 + (high - 0xD800) * 0x400 + (low - 0xDC00))
  else none

/-- The character that an escape stands for, of which the backslash has been taken, and the text
after it. A character beyond sixteen bits is written as two escapes. -/
def unescape? : List Char → Option (Char × List Char)
  | 'u' :: a :: b :: c :: d :: cs =>
    (hexNumber? [a, b, c, d]).bind fun n =>
      match charOfCode? n with
      | some x => some (x, cs)
      | none =>
        match cs with
        | '\\' :: 'u' :: e :: f :: g :: h :: cs =>
          (hexNumber? [e, f, g, h]).bind fun l => (ofHalves? n l).map (·, cs)
        | _ => none
  | c :: cs => (escape? c).map (·, cs)
  | [] => none

theorem length_of_unescape? {cs rest : List Char} {x : Char} (h : unescape? cs = some (x, rest)) :
    rest.length ≤ cs.length := by
  unfold unescape? at h
  split at h
  · simp only [Option.bind_eq_some_iff] at h
    obtain ⟨n, -, h⟩ := h
    split at h
    · simp only [Option.some.injEq, Prod.mk.injEq] at h
      simp only [← h.2, List.length_cons]
      omega
    · split at h
      · simp only [Option.bind_eq_some_iff, Option.map_eq_some_iff, Prod.mk.injEq] at h
        obtain ⟨-, -, -, -, -, rfl⟩ := h
        simp only [List.length_cons]
        omega
      · simp at h
  · simp only [Option.map_eq_some_iff, Prod.mk.injEq] at h
    obtain ⟨-, -, -, rfl⟩ := h
    simp
  · simp at h

/-- Splits what follows an opening quote at the closing quote and resolves the escapes. -/
def splitString (cs : List Char) : Option (List Char × List Char) :=
  match cs with
  | [] => none
  | c :: cs =>
    if c = '"' then some ([], cs)
    else if c = '\\' then
      match _h : unescape? cs with
      | none => none
      | some (x, rest) => (splitString rest).map fun (s, rest) => (x :: s, rest)
    else if c.toNat < 0x20 then none
    else (splitString cs).map fun (s, rest) => (c :: s, rest)
termination_by cs.length
decreasing_by
  · have := length_of_unescape? _h
    simp only [List.length_cons]
    omega
  · simp

def word? (cs : List Char) : Option Scalar :=
  if cs = "null".toList then some .null
  else if cs = "true".toList then some (.bool true)
  else if cs = "false".toList then some (.bool false)
  else none

/-- The first mark of the text `c :: cs`, and the text after it. -/
def read? (c : Char) (cs : List Char) : Option (Mark × List Char) :=
  match c with
  | '[' => some (arrOpen, cs)
  | ']' => some (arrClose, cs)
  | '{' => some (objOpen, cs)
  | '}' => some (objClose, cs)
  | ',' => some (comma, cs)
  | ':' => some (colon, cs)
  | '"' => (splitString cs).map fun (s, rest) => (scalar (.string (String.ofList s)), rest)
  | c =>
    if Json.Number.isPart c then
      (Json.Number.read? (c :: cs.takeWhile Json.Number.isPart)).map fun s =>
        (scalar s, cs.dropWhile Json.Number.isPart)
    else
      (word? (c :: cs.takeWhile Char.isAlpha)).map fun s => (scalar s, cs.dropWhile Char.isAlpha)

theorem length_of_splitString {cs s rest : List Char} (h : splitString cs = some (s, rest)) :
    rest.length ≤ cs.length := by
  fun_induction splitString cs generalizing s with
  | case1 => simp at h
  | case2 =>
    simp only [Option.some.injEq, Prod.mk.injEq] at h
    simp [h.2]
  | case3 => simp at h
  | case4 cs x after hx _ ih =>
    simp only [Option.map_eq_some_iff, Prod.exists, Prod.mk.injEq] at h
    obtain ⟨s', rest', h', -, rfl⟩ := h
    have := ih h'
    have := length_of_unescape? hx
    simp only [List.length_cons]
    omega
  | case5 => simp at h
  | case6 c cs _ _ _ ih =>
    simp only [Option.map_eq_some_iff, Prod.exists, Prod.mk.injEq] at h
    obtain ⟨s', rest', h', -, rfl⟩ := h
    have := ih h'
    simp only [List.length_cons]
    omega

theorem length_of_read? {c : Char} {cs rest : List Char} {m : Mark}
    (h : read? c cs = some (m, rest)) : rest.length ≤ cs.length := by
  have hd (p : Char → Bool) : (cs.dropWhile p).length ≤ cs.length :=
    (List.dropWhile_suffix _).length_le
  unfold read? at h
  split at h
  case h_7 =>
    simp only [Option.map_eq_some_iff, Prod.exists, Prod.mk.injEq] at h
    obtain ⟨s, rest', h', -, rfl⟩ := h
    exact length_of_splitString h'
  case h_8 =>
    split at h <;>
      simp only [Option.map_eq_some_iff, Prod.mk.injEq] at h <;>
      obtain ⟨s, h', -, rfl⟩ := h <;> exact hd _
  all_goals
    simp only [Option.some.injEq, Prod.mk.injEq] at h
    exact Nat.le_of_eq (by rw [h.2])

/-- The marks of a text, with spaces around them left out. -/
def ofText? (cs : List Char) : Option (List Mark) :=
  match _h : cs.dropWhile isSpace with
  | [] => some []
  | c :: rest =>
    match _hr : read? c rest with
    | none => none
    | some (m, rest') => (ofText? rest').map (m :: ·)
termination_by cs.length
decreasing_by
  have := length_of_read? _hr
  have := (List.dropWhile_suffix (p := isSpace) (l := cs)).length_le
  rw [_h, List.length_cons] at this
  omega

end Mark

end IdPattern
