import IdPattern.Text.Quoted

/-!
# String literals of a host program

A program that contains a pattern writes it as a string literal, plain or raw. A plain body stands
between quotes; in it a backslash takes the next character along, so that `\"` does not close the
body. A raw body stands between fences, a quote with a number of `#` signs, and means itself.

Splitting a body off the program text and finding its value are two steps: `splitBody` looks only
for the closing quote, and `decode` reads a body piece by piece. A piece is a character, an escape,
or a line continuation, which has no value: a backslash at the end of a line takes the line break
along and the spaces, tabs and line breaks after it. A line break may be written with a carriage
return, and means a line feed; elsewhere in a body there is no carriage return.

There are three sorts of strings, and they differ in the characters and escapes that they admit.
-/

namespace IdPattern.Embed

inductive Flavour
  /-- Any text. -/
  | text
  /-- Bytes, and so no character beyond ASCII. -/
  | bytes
  /-- Bytes and texts that end at the first NUL, and so cannot contain one. -/
  | terminated
deriving DecidableEq

namespace Flavour

/-- Whether a character may stand in a body for itself. -/
def admits : Flavour → Char → Bool
  | text, _ => true
  | bytes, c => c.toNat < 0x80
  | terminated, c => c.toNat ≠ 0

/-- Whether an escape of two digits may have a given value. -/
def admitsByte : Flavour → Nat → Bool
  | text, n => n < 0x80
  | bytes, _ => true
  | terminated, n => n ≠ 0

/-- Whether an escape with a code point may stand for a given character. -/
def admitsCode : Flavour → Char → Bool
  | text, _ => true
  | bytes, _ => false
  | terminated, c => c.toNat ≠ 0

/-- What a backslash and one letter stand for. -/
def letter? (f : Flavour) : Char → Option Char
  | 'n' => some '\n'
  | 'r' => some '\r'
  | 't' => some '\t'
  | '\\' => some '\\'
  | '\'' => some '\''
  | '"' => some '"'
  | '0' => if f = terminated then none else some '\x00'
  | _ => none

end Flavour

/-- Splits what follows an opening quote at the closing one. -/
def splitBody : List Char → Option (List Char × List Char)
  | [] => none
  | '"' :: cs => some ([], cs)
  | '\\' :: c :: cs => (splitBody cs).map fun (body, rest) => ('\\' :: c :: body, rest)
  | c :: cs => (splitBody cs).map fun (body, rest) => (c :: body, rest)

/-- The text after the spaces, tabs and line breaks of a line continuation. A carriage return
without line feed is refused. -/
def afterBreak : List Char → Option (List Char)
  | ' ' :: cs | '\t' :: cs | '\n' :: cs => afterBreak cs
  | '\r' :: '\n' :: cs => afterBreak cs
  | '\r' :: _ => none
  | cs => some cs

/-- The character with the code point that is written before a closing brace, and the text after the
brace. There are one to six digits, with underscores anywhere after the first. -/
def braced? (cs : List Char) : Option (Char × List Char) :=
  let inside := cs.takeWhile (· != '}')
  let digits := inside.filter (· != '_')
  match cs.dropWhile (· != '}') with
  | [] => none
  | _ :: rest =>
    if inside = [] ∨ inside.head? = some '_' ∨ 6 < digits.length then none
    else ((hexNumber? digits).bind charOfCode?).map (·, rest)

/-- What an escape stands for, of which the backslash has been taken, and the text after it. -/
def escape? (f : Flavour) : List Char → Option (Char × List Char)
  | 'x' :: a :: b :: cs =>
    (hexNumber? [a, b]).bind fun n => if f.admitsByte n then some (Char.ofNat n, cs) else none
  | 'u' :: '{' :: cs =>
    (braced? cs).bind fun (c, rest) => if f.admitsCode c then some (c, rest) else none
  | c :: cs => (f.letter? c).map (·, cs)
  | [] => none

/-- The value of the first piece of a body, and the text after the piece. -/
def piece? (f : Flavour) : List Char → Option (List Char × List Char)
  | '\\' :: '\n' :: cs => (afterBreak cs).map ([], ·)
  | '\\' :: '\r' :: '\n' :: cs => (afterBreak cs).map ([], ·)
  | '\\' :: cs => (escape? f cs).map fun (c, rest) => ([c], rest)
  | '\r' :: '\n' :: cs => some (['\n'], cs)
  | '\r' :: _ => none
  | c :: cs => if f.admits c then some ([c], cs) else none
  | [] => none

theorem length_of_afterBreak {cs rest : List Char} (h : afterBreak cs = some rest) :
    rest.length ≤ cs.length := by
  fun_induction afterBreak cs <;> simp_all <;> omega

theorem length_of_braced? {cs rest : List Char} {c : Char} (h : braced? cs = some (c, rest)) :
    rest.length ≤ cs.length := by
  have hd := (List.dropWhile_suffix (p := (· != '}')) (l := cs)).length_le
  unfold braced? at h
  simp only at h
  split at h
  · simp at h
  · next d rest' he =>
    split at h
    · simp at h
    · simp only [Option.map_eq_some_iff, Prod.mk.injEq] at h
      obtain ⟨-, -, -, rfl⟩ := h
      rw [he, List.length_cons] at hd
      omega

theorem length_of_escape? {f : Flavour} {cs rest : List Char} {c : Char}
    (h : escape? f cs = some (c, rest)) : rest.length ≤ cs.length := by
  unfold escape? at h
  split at h
  · simp only [Option.bind_eq_some_iff] at h
    obtain ⟨_, -, h⟩ := h
    split at h
    · simp only [Option.some.injEq, Prod.mk.injEq] at h
      simp only [← h.2, List.length_cons]
      omega
    · simp at h
  · simp only [Option.bind_eq_some_iff, Prod.exists] at h
    obtain ⟨c', rest', h', h⟩ := h
    split at h
    · simp only [Option.some.injEq, Prod.mk.injEq] at h
      have := length_of_braced? h'
      simp only [← h.2, List.length_cons]
      omega
    · simp at h
  · simp only [Option.map_eq_some_iff, Prod.mk.injEq] at h
    obtain ⟨-, -, -, rfl⟩ := h
    simp
  · simp at h

/-- A piece takes at least one character. -/
theorem length_of_piece? {f : Flavour} {cs v rest : List Char} (h : piece? f cs = some (v, rest)) :
    rest.length < cs.length := by
  unfold piece? at h
  split at h
  · simp only [Option.map_eq_some_iff, Prod.mk.injEq] at h
    obtain ⟨_, h', -, rfl⟩ := h
    have := length_of_afterBreak h'
    simp only [List.length_cons]
    omega
  · simp only [Option.map_eq_some_iff, Prod.mk.injEq] at h
    obtain ⟨_, h', -, rfl⟩ := h
    have := length_of_afterBreak h'
    simp only [List.length_cons]
    omega
  · simp only [Option.map_eq_some_iff, Prod.exists, Prod.mk.injEq] at h
    obtain ⟨_, _, h', -, rfl⟩ := h
    have := length_of_escape? h'
    simp only [List.length_cons]
    omega
  · simp only [Option.some.injEq, Prod.mk.injEq] at h
    simp only [← h.2, List.length_cons]
    omega
  · simp at h
  · split at h
    · simp only [Option.some.injEq, Prod.mk.injEq] at h
      simp [← h.2]
    · simp at h
  · simp at h

/-- The value of a plain body. -/
def decode (f : Flavour) (body : List Char) : Option (List Char) :=
  if body = [] then some []
  else
    match _h : piece? f body with
    | none => none
    | some (v, rest) => (decode f rest).map (v ++ ·)
termination_by body.length
decreasing_by exact length_of_piece? _h

/-- Whether a carriage return stands anywhere but before a line feed. -/
def hasBareReturn : List Char → Bool
  | [] => false
  | '\r' :: '\n' :: cs => hasBareReturn cs
  | '\r' :: _ => true
  | _ :: cs => hasBareReturn cs

/-- Splits what follows the opening quote of a raw string at the quote with the fence after it. -/
def splitRaw (fence : List Char) : List Char → Option (List Char × List Char)
  | [] => none
  | c :: cs =>
    if c = '"' ∧ fence.isPrefixOf cs then some ([], cs.drop fence.length)
    else (splitRaw fence cs).map fun (body, rest) => (c :: body, rest)

/-- The value of a plain string, of which the opening quote has been taken, and the text after it.
-/
def plain? (f : Flavour) (cs : List Char) : Option (List Char × List Char) :=
  (splitBody cs).bind fun (body, rest) => (decode f body).map (·, rest)

/-- The value of a raw string, of which the letter has been taken, and the text after it. A fence
has at most 255 signs. -/
def raw? (f : Flavour) (cs : List Char) : Option (List Char × List Char) :=
  let fence := cs.takeWhile (· == '#')
  match cs.dropWhile (· == '#') with
  | '"' :: cs =>
    if 255 < fence.length then none
    else
      (splitRaw fence cs).bind fun (body, rest) =>
        if hasBareReturn body ∨ ¬ body.all f.admits then none else some (body, rest)
  | _ => none

/-- The sort and the value of the string at the beginning of a text, and the text after its closing
quote. -/
def string? : List Char → Option (Flavour × List Char × List Char)
  | '"' :: cs => (plain? .text cs).map (Flavour.text, ·)
  | 'r' :: cs => (raw? .text cs).map (Flavour.text, ·)
  | 'b' :: '"' :: cs => (plain? .bytes cs).map (Flavour.bytes, ·)
  | 'b' :: 'r' :: cs => (raw? .bytes cs).map (Flavour.bytes, ·)
  | 'c' :: '"' :: cs => (plain? .terminated cs).map (Flavour.terminated, ·)
  | 'c' :: 'r' :: cs => (raw? .terminated cs).map (Flavour.terminated, ·)
  | _ => none

end IdPattern.Embed
