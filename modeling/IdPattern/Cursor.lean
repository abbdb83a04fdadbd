import IdPattern.ParseError
import IdPattern.Text.Characters
import IdPattern.Token

/-!
# Places in a text

A `Cursor` is a place in a text: the number of bytes before it and the characters from it on.
Readers take a cursor and hand back a later one, so a byte position is never turned back into a
character.

`Cursor.next` finds the next token. Blanks before it are skipped, the blanks, the lexeme and the text
after the token make up the text (`Cursor.rest_of_next`), and so the cursor after it has fewer
characters left (`Cursor.length_rest_lt_of_next`), which is what readers end by.
-/

namespace IdPattern

structure Cursor where
  /-- The bytes before the place. -/
  offset : Nat
  /-- The characters from the place on. -/
  rest : List Char
deriving DecidableEq

structure Found where
  token : Token
  /-- The bytes of the token. -/
  span : Span
  /-- The place after the token. -/
  after : Cursor
deriving DecidableEq

namespace Cursor

def ofString (s : String) : Cursor := ⟨0, s.toList⟩

def stop (p : Cursor) : Nat := p.offset + size p.rest

def atEnd (p : Cursor) : Cursor := ⟨p.stop, []⟩

/-- The first place at or after this one at which no blank stands. -/
def skipBlanks (p : Cursor) : Cursor :=
  ⟨p.offset + size (leadingBlanks p.rest), afterBlanks p.rest⟩

def spanOf (p : Cursor) (c : Char) : Span := .over p.offset [c]

/-- The next token after blanks, nothing at the end of the text, or the fault of a quote that is
never closed. -/
def next (p : Cursor) : Except ParseError (Option Found) :=
  let q := p.skipBlanks
  match q.rest with
  | [] => .ok none
  | c :: cs =>
    match Token.read? c cs with
    | none => .error ⟨⟨q.offset, q.stop⟩, .unterminatedText⟩
    | some (t, rest) =>
      let span := Span.over q.offset t.lexeme
      .ok (some ⟨t, span, ⟨span.stop, rest⟩⟩)

@[simp] theorem stop_mk (offset : Nat) (rest : List Char) :
    stop ⟨offset, rest⟩ = offset + size rest := rfl

@[simp] theorem offset_atEnd (p : Cursor) : p.atEnd.offset = p.stop := rfl

@[simp] theorem rest_atEnd (p : Cursor) : p.atEnd.rest = [] := rfl

@[simp] theorem stop_atEnd (p : Cursor) : p.atEnd.stop = p.stop := rfl

/-- Skipping blanks goes on in the same text. -/
@[simp] theorem stop_skipBlanks (p : Cursor) : p.skipBlanks.stop = p.stop := by
  simp [skipBlanks, stop, Nat.add_assoc, size_leadingBlanks_add]

/-- What `next` finds, told by the text: blanks, the lexeme of the token, and the text after it. -/
theorem rest_of_next {p : Cursor} {f : Found} (h : p.next = .ok (some f)) :
    p.rest = leadingBlanks p.rest ++ f.token.lexeme ++ f.after.rest := by
  unfold next at h
  simp only at h
  split at h
  · simp at h
  · next c cs hq =>
    split at h
    · simp at h
    · next t rest ht =>
      simp only [Except.ok.injEq, Option.some.injEq] at h
      subst h
      have := Token.lexeme_append_of_read? ht
      have hp := leadingBlanks_append_afterBlanks p.rest
      simp only [skipBlanks] at hq
      rw [hq, ← this] at hp
      simp [hp]

/-- A found token takes characters off the text. -/
theorem length_rest_lt_of_next {p : Cursor} {f : Found} (h : p.next = .ok (some f)) :
    f.after.rest.length < p.rest.length := by
  have := congrArg List.length (rest_of_next h)
  have := List.length_pos_iff.2 f.token.lexeme_ne_nil
  simp only [List.length_append] at *
  omega

end Cursor

end IdPattern
