/-!
# Byte sizes and spans

Positions in a text are counted in bytes of its UTF-8 encoding. A text under inspection is a list of
characters, so a position is the `size` of the characters before it, and it always falls between two
characters.

A `Span` is a half open range of positions; it is what an error points at.
-/

namespace IdPattern

/-- The number of bytes of a text in UTF-8. -/
def size : List Char → Nat
  | [] => 0
  | c :: cs => c.utf8Size + size cs

@[simp] theorem size_nil : size [] = 0 := rfl

@[simp] theorem size_cons (c : Char) (cs : List Char) : size (c :: cs) = c.utf8Size + size cs := rfl

@[simp] theorem size_append (cs ds : List Char) : size (cs ++ ds) = size cs + size ds := by
  induction cs with
  | nil => simp
  | cons c cs ih => simp [ih, Nat.add_assoc]

/-- Every character takes at least one byte, so only the empty text takes none. -/
theorem size_pos {cs : List Char} (h : cs ≠ []) : 0 < size cs := by
  cases cs with
  | nil => exact absurd rfl h
  | cons c cs =>
    have hc : 0 < c.utf8Size := c.utf8Size_pos
    rw [size_cons]
    omega

/-- Of a whole string, `size` counts what the string itself says it takes. -/
theorem size_toList (s : String) : size s.toList = s.utf8ByteSize := by
  suffices h : ∀ cs, (String.ofList cs).utf8ByteSize = size cs by
    rw [← h, String.ofList_toList]
  intro cs
  induction cs with
  | nil => rfl
  | cons c cs ih =>
    have hcons : String.ofList (c :: cs) = String.singleton c ++ String.ofList cs :=
      String.toList_inj.1 (by simp)
    rw [hcons, String.utf8ByteSize_append, String.utf8ByteSize_singleton, ih, size_cons]

structure Span where
  /-- The position of the first byte inside. -/
  start : Nat
  /-- The position of the first byte after it. -/
  stop : Nat
deriving DecidableEq

/-- The span of the text `cs` that begins at `start`. -/
def Span.over (start : Nat) (cs : List Char) : Span :=
  ⟨start, start + size cs⟩

@[simp] theorem Span.start_over (start : Nat) (cs : List Char) :
    (Span.over start cs).start = start := rfl

@[simp] theorem Span.stop_over (start : Nat) (cs : List Char) :
    (Span.over start cs).stop = start + size cs := rfl

end IdPattern
