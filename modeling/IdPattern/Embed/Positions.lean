import IdPattern.Cursor
import IdPattern.Embed.Offsets
import IdPattern.Text.Slice

/-!
# The table of a literal by positions

The table of offsets is made here once more, by a walk over the characters of a literal. The walk
notes the position of a piece before it takes the piece, character by character, and enters it once
for each byte that the piece stands for. The body is cut out of the literal between two positions,
and the code point of an escape is collected in 32 bits.

So a table can come to nothing for reasons that `offsets` does not know: the cut may be at a span
that names no part of the literal, and a code point may take too many digits. Each of these is a
`TableDefect`, and ends the walk.
-/

namespace IdPattern

def Cursor.take? (p : Cursor) : Option (Char × Cursor) :=
  match p.rest with
  | [] => none
  | c :: cs => some (c, ⟨p.offset + c.utf8Size, cs⟩)

theorem Cursor.length_rest_of_take? {p q : Cursor} {c : Char} (h : p.take? = some (c, q)) :
    q.rest.length < p.rest.length := by
  unfold take? at h
  split at h
  · cases h
  · next hrest =>
    cases h
    rw [hrest]
    exact Nat.lt_succ_self _

namespace Embed

/-- What goes wrong where a table is made by positions. -/
inductive TableDefect
  /-- A part of the literal is wanted, and the span names none. -/
  | noPart (span : Span)
  /-- A product takes more than 32 bits. -/
  | product (a b : UInt32)
  /-- A sum takes more than 32 bits. -/
  | sum (a b : UInt32)
deriving DecidableEq

/-! ### Code points of 32 bits -/

def wordProduct (a b : UInt32) : Except TableDefect UInt32 :=
  if a.toNat * b.toNat < UInt32.size then .ok (a * b) else .error (.product a b)

def wordSum (a b : UInt32) : Except TableDefect UInt32 :=
  if a.toNat + b.toNat < UInt32.size then .ok (a + b) else .error (.sum a b)

/-- The code point after one more character. A character that is no digit is passed over. -/
def pushDigit (code : UInt32) (c : Char) : Except TableDefect UInt32 :=
  match hexValue? c with
  | none => .ok code
  | some d => (wordProduct code 16).bind fun shifted => wordSum shifted (UInt32.ofNat d)

/-- Collects a code point from the place `offset` on, up to the closing brace, which is taken too, or
to the end of the text. -/
def collect (code : UInt32) (offset : Nat) : List Char → Except TableDefect (UInt32 × Cursor)
  | [] => .ok (code, ⟨offset, []⟩)
  | c :: cs =>
    if c = '}' then .ok (code, ⟨offset + c.utf8Size, cs⟩)
    else (pushDigit code c).bind fun code => collect code (offset + c.utf8Size) cs

/-! ### Pieces -/

/-- The number of bytes that a piece stands for, of which the first character `c` was taken, and the
place after the piece. There is none where the text ends within the piece. -/
def takePiece (p : Cursor) (c : Char) : Except TableDefect (Option (Nat × Cursor)) :=
  if c = '\\' then
    match p.take? with
    | none => .ok none
    | some (d, q) =>
      if d = 'x' then .ok (q.take?.bind fun (_, q) => q.take?.map fun (_, q) => (1, q))
      else if d = 'u' then
        (collect 0 q.offset q.rest).map fun (code, q) => some (codeSize code.toNat, q)
      else if d = '\n' ∨ d = '\r' then .ok (some (0, q.skipBlanks))
      else .ok (some (1, q))
  else .ok (some (c.utf8Size, p))

theorem length_rest_of_collect {code code' : UInt32} {offset : Nat} {cs : List Char} {q : Cursor}
    (h : collect code offset cs = .ok (code', q)) : q.rest.length ≤ cs.length := by
  induction cs generalizing code offset with
  | nil =>
    cases h
    exact Nat.le_refl 0
  | cons c cs ih =>
    unfold collect at h
    split at h
    · cases h
      exact Nat.le_succ _
    · cases hpush : pushDigit code c with
      | error e => simp [hpush, Except.bind] at h
      | ok code =>
        rw [hpush] at h
        exact Nat.le_succ_of_le (ih h)

theorem length_rest_skipBlanks (p : Cursor) : p.skipBlanks.rest.length ≤ p.rest.length :=
  (List.dropWhile_suffix isBlank).length_le

theorem length_rest_of_takePiece {p q : Cursor} {c : Char} {n : Nat}
    (h : takePiece p c = .ok (some (n, q))) : q.rest.length ≤ p.rest.length := by
  unfold takePiece at h
  split at h
  · split at h
    · cases h
    · next d r hd =>
      have hle := Nat.le_of_lt (Cursor.length_rest_of_take? hd)
      split at h
      · simp only [Except.ok.injEq, Option.bind_eq_some_iff, Option.map_eq_some_iff, Prod.exists,
          Prod.mk.injEq] at h
        obtain ⟨_, q₁, h₁, _, q₂, h₂, -, rfl⟩ := h
        have := Cursor.length_rest_of_take? h₁
        have := Cursor.length_rest_of_take? h₂
        omega
      · split at h
        · cases hcode : collect 0 r.offset r.rest with
          | error e => simp [hcode, Except.map] at h
          | ok found =>
            obtain ⟨code, q'⟩ := found
            simp only [hcode, Except.map, Except.ok.injEq, Option.some.injEq, Prod.mk.injEq] at h
            obtain ⟨-, rfl⟩ := h
            exact Nat.le_trans (length_rest_of_collect hcode) hle
        · split at h
          · cases h
            exact Nat.le_trans (length_rest_skipBlanks r) hle
          · cases h
            exact hle
  · cases h
    exact Nat.le_refl _

/-! ### Tables -/

/-- Makes the table of a body that ends at `stop`, from the place `p` on and with the entries `done`
before it. -/
def walk (stop : Nat) (done : List Nat) (p : Cursor) : Except TableDefect (Option (List Nat)) :=
  match _ht : p.take? with
  | none => .ok (some (done ++ [stop]))
  | some (c, q) =>
    match _hp : takePiece q c with
    | .error e => .error e
    | .ok none => .ok none
    | .ok (some (n, r)) => walk stop (done ++ List.replicate n p.offset) r
termination_by p.rest.length
decreasing_by
  exact Nat.lt_of_le_of_lt (length_rest_of_takePiece _hp) (Cursor.length_rest_of_take? _ht)

/-- The table of the text of a literal, by positions. -/
def offsetsByPositions (source : List Char) : Except TableDefect (Option (List Nat)) :=
  match (beforeLastQuote? source).map size with
  | none => .ok none
  | some stop =>
    match source with
    | 'r' :: _ =>
      let start := size (source.takeWhile (· != '"')) + 1
      .ok (some (List.range' start (stop + 1 - start)))
    | '"' :: _ =>
      if stop = 0 then .ok none
      else
        match Span.slice? ⟨1, stop⟩ source with
        | none => .error (.noPart ⟨1, stop⟩)
        | some body => walk stop [] ⟨1, body⟩
    | _ => .ok none

end Embed

end IdPattern
