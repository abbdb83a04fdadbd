import IdPattern.Text.Quoted

/-!
# Places in a literal

A fault of a pattern is found in the value of a literal, and has to be shown in the program, where
the literal is spelled with escapes. The table of offsets leads from one to the other: it has an
entry for each byte of the value, the place in the literal of the piece that the byte belongs to,
and a last entry for the end of the value.

The table is made without finding the value, from any text that looks like a literal. What lies
between its first quote and its last is taken piece by piece, and only the number of bytes that a
piece stands for is asked. A line continuation stands for none, and takes all blanks after it along.
-/

namespace IdPattern.Embed

def beforeLastQuote? : List Char → Option (List Char)
  | [] => none
  | c :: cs =>
    match beforeLastQuote? cs with
    | some front => some (c :: front)
    | none => if c = '"' then some [] else none

/-- The number that the hexadecimal digits of a text stand for. Other characters are passed over. -/
def looseHex (cs : List Char) : Nat :=
  (cs.filterMap hexValue?).foldl (fun n d => 16 * n + d) 0

/-- The bytes of the character with a given code point. An impossible one counts as one byte. -/
def codeSize (n : Nat) : Nat :=
  match charOfCode? n with
  | some c => c.utf8Size
  | none => 1

/-- The first piece of a body, the number of bytes it stands for, and the text after it. There is
none where the text ends within a piece. -/
def sizedPiece? : List Char → Option (List Char × Nat × List Char)
  | [] => none
  | '\\' :: [] => none
  | '\\' :: 'x' :: a :: b :: cs => some (['\\', 'x', a, b], 1, cs)
  | '\\' :: 'x' :: _ => none
  | '\\' :: 'u' :: cs =>
    let inside := cs.takeWhile (· != '}')
    let after := cs.dropWhile (· != '}')
    some ('\\' :: 'u' :: (inside ++ after.take 1), codeSize (looseHex inside), after.drop 1)
  | '\\' :: c :: cs =>
    if c = '\n' ∨ c = '\r' then some ('\\' :: c :: leadingBlanks cs, 0, afterBlanks cs)
    else some (['\\', c], 1, cs)
  | c :: cs => some ([c], c.utf8Size, cs)

/-- A piece and the text after it make up the text. -/
theorem append_of_sizedPiece? {cs piece rest : List Char} {n : Nat}
    (h : sizedPiece? cs = some (piece, n, rest)) : cs = piece ++ rest ∧ piece ≠ [] := by
  unfold sizedPiece? at h
  split at h <;> try simp at h
  case h_3 => simp [← h.1, ← h.2.2]
  case h_5 cs =>
    simp only [← h.1, ← h.2.2, List.cons_append, List.append_assoc]
    simp [← List.drop_one, List.take_append_drop, List.takeWhile_append_dropWhile]
  case h_6 c cs _ _ _ =>
    split at h <;> simp only [Option.some.injEq, Prod.mk.injEq] at h
    · simp [← h.1, ← h.2.2, leadingBlanks_append_afterBlanks]
    · simp [← h.1, ← h.2.2]
  case h_7 => simp [← h.1, ← h.2.2]

/-- The table of a body that begins at `start`, with the end of the body as its last entry. -/
def bodyOffsets (start : Nat) (body : List Char) : Option (List Nat) :=
  if body = [] then some [start]
  else
    match _h : sizedPiece? body with
    | none => none
    | some (piece, n, rest) =>
      (bodyOffsets (start + size piece) rest).map (List.replicate n start ++ ·)
termination_by body.length
decreasing_by
  obtain ⟨h, hne⟩ := append_of_sizedPiece? _h
  have := List.length_pos_iff.2 hne
  rw [h, List.length_append]
  omega

/-- The table of the text of a literal. In a raw one each byte of the body stands for itself. A text
that is no string literal has no table. -/
def offsets (source : List Char) : Option (List Nat) :=
  match source with
  | 'r' :: _ =>
    (beforeLastQuote? source).map fun front =>
      let start := size (source.takeWhile (· != '"')) + 1
      List.range' start (size front + 1 - start)
  | '"' :: cs => (beforeLastQuote? cs).bind (bodyOffsets 1)
  | _ => none

/-- The part of a literal that a span of its value comes from, if both ends are in the table. -/
def sourceSpan? (source : List Char) (span : Span) : Option Span :=
  (offsets source).bind fun table =>
    table[span.start]?.bind fun start => table[span.stop]?.map fun stop => ⟨start, stop⟩

end IdPattern.Embed
