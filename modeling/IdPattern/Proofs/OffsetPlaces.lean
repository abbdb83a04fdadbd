import Mathlib.Data.List.Pairwise
import IdPattern.Embed.Expansion
import IdPattern.Proofs.CodePoints
import IdPattern.Proofs.Walks

/-!
# The places of a table

Whatever text a table is made from, its entries are places of that text: `Charts` says of the table
of a body that each entry lies between two characters, that they come in order, and that the last
one is the end of the body. A piece puts its own place before those of the pieces after it, so this
is an induction along the pieces (`charts_of_bodyOffsets`), and it holds of well-formed literals and
of all others.

The text between the first and the last quote is such a body, and in a raw literal the places run
through it. So two entries in the order of the value name a part of the literal that ends before its
last quote, and a fault is shown there (`offsets_within`).
-/

namespace IdPattern.Embed

/-! ## Bodies -/

/-- The entries are places of a body that begins at `start`, in order and up to its end. -/
structure Charts (start : Nat) (body : List Char) (table : List Nat) : Prop where
  ordered : table.Pairwise (· ≤ ·)
  getLast?_eq : table.getLast? = some (start + size body)
  place : ∀ n ∈ table, ∃ before after, before ++ after = body ∧ n = start + size before

variable {start : Nat} {body : List Char} {table : List Nat}

/-- No entry lies outside of the body. -/
theorem Charts.within (h : Charts start body table) {n : Nat} (hn : n ∈ table) :
    start ≤ n ∧ n ≤ start + size body := by
  obtain ⟨before, after, rfl, rfl⟩ := h.place n hn
  rw [size_append]
  omega

/-- The table of an empty body holds its end. -/
theorem charts_nil (start : Nat) : Charts start [] [start] where
  ordered := List.pairwise_singleton _ _
  getLast?_eq := rfl
  place n hn := ⟨[], [], rfl, by simpa using hn⟩

/-- A piece is entered before the text after it, at its own place. -/
theorem Charts.cons {piece rest : List Char} (h : Charts (start + size piece) rest table)
    (n : Nat) :
    Charts start (piece ++ rest) (List.replicate n start ++ table) where
  ordered := by
    refine List.pairwise_append.2
      ⟨List.pairwise_replicate.2 (.inr (Nat.le_refl start)), h.ordered, ?_⟩
    -- the entries of the piece are its place, and the others are not before its end
    intro a ha b hb
    rw [List.eq_of_mem_replicate ha]
    have hle := (h.within hb).1
    omega
  getLast?_eq := by
    rw [List.getLast?_append, h.getLast?_eq, Option.some_or, size_append, Nat.add_assoc]
  place m hm := by
    rcases List.mem_append.1 hm with hpiece | hrest
    · exact ⟨[], piece ++ rest, rfl, List.eq_of_mem_replicate hpiece⟩
    · obtain ⟨before, after, rfl, rfl⟩ := h.place m hrest
      exact ⟨piece ++ before, after, by simp, by rw [size_append, Nat.add_assoc]⟩

/-- The table of a body charts it. -/
theorem charts_of_bodyOffsets (h : bodyOffsets start body = some table) :
    Charts start body table := by
  fun_induction bodyOffsets start body generalizing table with
  | case1 =>
    cases h
    exact charts_nil _
  | case2 => cases h
  | case3 start body hne piece n rest hp ih =>
    obtain ⟨table', htable, rfl⟩ := Option.map_eq_some_iff.1 h
    obtain ⟨rfl, -⟩ := append_of_sizedPiece? hp
    exact (ih htable).cons n

/-! ## Literals -/

variable {cs : List Char}

/-- The table of a plain literal charts what stands before the last quote. -/
theorem charts_of_offsets_quote (h : offsets ('"' :: cs) = some table) :
    ∃ body back, cs = body ++ '"' :: back ∧ '"' ∉ back ∧ Charts 1 body table := by
  obtain ⟨body, hbody, htable⟩ := Option.bind_eq_some_iff.1 h
  obtain ⟨back, hcs, hback⟩ := beforeLastQuote?_eq_some_iff.1 hbody
  exact ⟨body, back, hcs, hback, charts_of_bodyOffsets htable⟩

/-- The table of a raw literal is the range of bytes up to the last quote. -/
theorem range_of_offsets_raw (h : offsets ('r' :: cs) = some table) :
    ∃ front back start, 'r' :: cs = front ++ '"' :: back ∧ '"' ∉ back ∧ 1 ≤ start ∧
      table = List.range' start (size front + 1 - start) := by
  obtain ⟨front, hfront, rfl⟩ := Option.map_eq_some_iff.1 h
  obtain ⟨back, hcs, hback⟩ := beforeLastQuote?_eq_some_iff.1 hfront
  exact ⟨front, back, _, hcs, hback, Nat.le_add_left 1 _, rfl⟩

/-- Only a text that begins as a literal has a table. -/
theorem exists_cons_of_offsets {source : List Char} (h : offsets source = some table) :
    ∃ cs, source = '"' :: cs ∨ source = 'r' :: cs := by
  unfold offsets at h
  split at h
  · next cs => exact ⟨cs, .inr rfl⟩
  · next cs => exact ⟨cs, .inl rfl⟩
  · cases h

/-- The entries of every table are in order and between the first byte of the text and its last
quote. In a plain literal each is a position between two characters, and the last one that of the
last quote. -/
theorem places_of_offsets {source : List Char} (h : offsets source = some table) :
    ∃ front back, source = front ++ '"' :: back ∧ '"' ∉ back ∧ table.Pairwise (· ≤ ·) ∧
      (∀ n ∈ table, 1 ≤ n ∧ n ≤ size front) ∧
      (source.head? = some '"' → table.getLast? = some (size front) ∧
        ∀ n ∈ table, ∃ before after, before ++ after = source ∧ n = size before) := by
  obtain ⟨cs, rfl | rfl⟩ := exists_cons_of_offsets h
  · obtain ⟨body, back, rfl, hback, htable⟩ := charts_of_offsets_quote h
    refine ⟨'"' :: body, back, rfl, hback, htable.ordered, fun n hn => htable.within hn,
      fun _ => ⟨htable.getLast?_eq, fun n hn => ?_⟩⟩
    obtain ⟨before, after, rfl, rfl⟩ := htable.place n hn
    exact ⟨'"' :: before, after ++ '"' :: back, by simp, rfl⟩
  · -- the range is empty if the text has a single quote
    obtain ⟨front, back, start, hcs, hback, hstart, rfl⟩ := range_of_offsets_raw h
    refine ⟨front, back, hcs, hback, List.pairwise_le_range' 1, fun n hn => ?_, fun hhead => ?_⟩
    · have hrange := List.mem_range'_1.1 hn
      omega
    · simp at hhead

/-- Entries further on in a table are no smaller. -/
theorem le_of_getElem? {i j a b : Nat} (h : table.Pairwise (· ≤ ·)) (hij : i ≤ j)
    (ha : table[i]? = some a) (hb : table[j]? = some b) : a ≤ b := by
  obtain ⟨hi, rfl⟩ := List.getElem?_eq_some_iff.1 ha
  obtain ⟨hj, rfl⟩ := List.getElem?_eq_some_iff.1 hb
  have hij' : (⟨i, hi⟩ : Fin table.length) ≤ ⟨j, hj⟩ := hij
  exact h.rel_get_of_le hij'

/-- Two entries in order and within the literal are where a fault between them is shown. -/
theorem faultSpan_of_getElem? {source : List Char} {i j a b : Nat}
    (h : offsets source = some table) (ha : table[i]? = some a) (hb : table[j]? = some b)
    (hab : a ≤ b) (hsize : b ≤ size source) (start : Nat) :
    faultSpan source (.over start source) ⟨i, j⟩ = ⟨start + a, start + b⟩ := by
  have hpart : sourceSpan? source ⟨i, j⟩ = some ⟨a, b⟩ := by
    simp [sourceSpan?, h, ha, hb]
  rw [faultSpan, hpart]
  exact if_pos ⟨Nat.add_le_add_left hab start, Nat.add_le_add_left hsize start⟩

/-- **Tables are in order and within their literals.** In a text with no code point of more than
eight digits nothing goes wrong while the table is made. Whether the text is a literal or not, the
entries of a table come in order, between the first byte and the last quote; if the text begins with
a quote, each is a position between two characters, and the last one that of the last quote. So two
entries in order lead to a part of the literal, and this is where the fault is shown. -/
theorem offsets_within {source : String}
    (h : ∀ piece ∈ plainPieces source.toList, codeDigits piece ≤ 8) :
    offsetsByPositions source.toList = .ok (offsets source.toList) ∧
    ∀ table, offsets source.toList = some table →
      ∃ front back, source.toList = front ++ '"' :: back ∧ '"' ∉ back ∧
        table.Pairwise (· ≤ ·) ∧ (∀ n ∈ table, 1 ≤ n ∧ n ≤ size front) ∧
        (source.toList.head? = some '"' → table.getLast? = some (size front) ∧
          ∀ n ∈ table, String.Pos.Raw.IsValid source ⟨n⟩) ∧
        ∀ i j a b, i ≤ j → table[i]? = some a → table[j]? = some b →
          a ≤ b ∧ b ≤ source.utf8ByteSize ∧
          ∀ start, faultSpan source.toList (.over start source.toList) ⟨i, j⟩ =
            ⟨start + a, start + b⟩ := by
  refine ⟨offsetsByPositions_eq h, fun table htable => ?_⟩
  obtain ⟨front, back, hsource, hback, hordered, hwithin, hplain⟩ := places_of_offsets htable
  refine ⟨front, back, hsource, hback, hordered, hwithin, fun hhead => ?_, ?_⟩
  · obtain ⟨hlast, hplaces⟩ := hplain hhead
    exact ⟨hlast, fun n hn => isValid_iff_exists_append.2 (hplaces n hn)⟩
  · intro i j a b hij ha hb
    have hab : a ≤ b := le_of_getElem? hordered hij ha hb
    have hsize : b ≤ size source.toList := by
      have hb' := (hwithin b (List.mem_of_getElem? hb)).2
      rw [hsource, size_append]
      exact Nat.le_trans hb' (Nat.le_add_right _ _)
    have hspan := faultSpan_of_getElem? htable ha hb hab hsize
    rw [size_toList] at hsize
    exact ⟨hab, hsize, hspan⟩

/-- A text that is no literal: its escape is unknown, its code point impossible. -/
theorem offsets_within_unclosed :
    (∀ piece ∈ plainPieces "\"\\qä\\\n \\u\x7bDDDDDDDDg\" ".toList, codeDigits piece ≤ 8) ∧
      offsetsByPositions "\"\\qä\\\n \\u\x7bDDDDDDDDg\" ".toList =
        .ok (some [1, 3, 3, 8, 20]) ∧
      String.Pos.Raw.IsValid "\"\\qä\\\n \\u\x7bDDDDDDDDg\" " ⟨8⟩ ∧
      faultSpan "\"\\qä\\\n \\u\x7bDDDDDDDDg\" ".toList ⟨7, 29⟩ ⟨1, 3⟩ = ⟨10, 15⟩ := by
  have h : ∀ piece ∈ plainPieces "\"\\qä\\\n \\u\x7bDDDDDDDDg\" ".toList,
      codeDigits piece ≤ 8 := by
    decide +kernel
  have htable : offsets "\"\\qä\\\n \\u\x7bDDDDDDDDg\" ".toList = some [1, 3, 3, 8, 20] := by
    decide +kernel
  obtain ⟨hpositions, htables⟩ := offsets_within h
  obtain ⟨_, _, -, -, -, -, hplain, hspans⟩ := htables _ htable
  obtain ⟨-, -, hspan⟩ := hspans 1 3 3 8 (by decide) rfl rfl
  rw [htable] at hpositions
  exact ⟨h, hpositions, (hplain rfl).2 8 (by decide), hspan 7⟩

end IdPattern.Embed
