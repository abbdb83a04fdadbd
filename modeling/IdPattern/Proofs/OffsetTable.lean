import IdPattern.Embed.Offsets
import IdPattern.Proofs.Literals
import IdPattern.Proofs.Runs

/-!
# The table of offsets and the value of a literal

Every text literal has a table of offsets, and the table should have an entry for each byte of the
value and one for its end. The table and the value are made of the same pieces, with two exceptions.
A line break that is written with a carriage return has two entries, and its value is one line
feed. And a continuation takes all blanks after it along, while the value goes on at the first that
is no space, tab or line break.

`surplus` counts the entries that are too many and `missing` the bytes that have none. The lengths
differ by exactly these (`Fits`), so they are right if and only if the two are equal
(`length_offsets`).
-/

namespace IdPattern.Embed

/-! ## Pieces of a table -/

theorem length_of_sizedPiece? {cs piece rest : List Char} {n : Nat}
    (h : sizedPiece? cs = some (piece, n, rest)) : rest.length < cs.length := by
  obtain ⟨happend, hne⟩ := append_of_sizedPiece? h
  have hpos := List.length_pos_iff.2 hne
  rw [happend, List.length_append]
  omega

def pieces (body : List Char) : List (List Char) :=
  match _h : sizedPiece? body with
  | none => []
  | some (piece, _, rest) => piece :: pieces rest
termination_by body.length
decreasing_by exact length_of_sizedPiece? _h

/-- The spaces, tabs and line breaks that a continuation takes along. -/
def isBreak (c : Char) : Bool := c == ' ' || c == '\t' || c == '\n' || c == '\r'

/-- The part of the value that a piece has no entries for: in a continuation, the blanks from the
first one on that is no break, with a line feed for each line break among them. -/
def keptBlanks : List Char → List Char
  | '\\' :: '\n' :: cs | '\\' :: '\r' :: cs => (cs.dropWhile isBreak).filter (· != '\r')
  | _ => []

def plainPieces : List Char → List (List Char)
  | '"' :: cs => ((beforeLastQuote? cs).map pieces).getD []
  | _ => []

/-- The number of entries in the table of a literal that belong to no byte of the value. -/
def surplus (source : List Char) : Nat := (plainPieces source).count ['\r']

/-- The number of bytes of the value of a literal that have no entry in its table. -/
def missing (source : List Char) : Nat := size ((plainPieces source).flatMap keptBlanks)

@[simp] theorem surplus_raw (cs : List Char) : surplus ('r' :: cs) = 0 := rfl

@[simp] theorem missing_raw (cs : List Char) : missing ('r' :: cs) = 0 := rfl

/-- A body is its first piece and the pieces of the rest. -/
theorem pieces_cons {body piece rest : List Char} {n : Nat}
    (h : sizedPiece? body = some (piece, n, rest)) : pieces body = piece :: pieces rest := by
  rw [pieces]
  split
  · next hnone => simp [h] at hnone
  · next hsome =>
    cases h.symm.trans hsome
    rfl

/-- The table begins with the entries of the first piece, which are all at the start of the piece.
-/
theorem bodyOffsets_cons {body piece rest : List Char} {n : Nat}
    (h : sizedPiece? body = some (piece, n, rest)) (start : Nat) :
    bodyOffsets start body =
      (bodyOffsets (start + size piece) rest).map (List.replicate n start ++ ·) := by
  have hne : body ≠ [] := by
    rintro rfl
    cases h
  rw [bodyOffsets, if_neg hne]
  split
  · next hnone => simp [h] at hnone
  · next hsome =>
    cases h.symm.trans hsome
    rfl

/-! ## Escapes

An escape is one piece of the table, with as many entries as its character has bytes.
-/

theorem utf8Size_ofNat {n : Nat} (h : n < 0x80) : (Char.ofNat n).utf8Size = 1 := by
  have hascii : ∀ k : Fin 0x80, (Char.ofNat k).utf8Size = 1 := by decide
  exact hascii ⟨n, h⟩

/-- What an escape of one letter stands for takes one byte. -/
theorem Flavour.utf8Size_of_letter? {f : Flavour} {c d : Char} (h : f.letter? c = some d) :
    d.utf8Size = 1 := by
  unfold letter? at h
  split at h
  case h_7 =>
    split at h
    · cases h
    · cases h
      rfl
  case h_8 => cases h
  all_goals
    cases h
    rfl

theorem foldl_of_hexNumber? {ds : List Char} {m n : Nat}
    (h : ds.foldlM (fun n c => (hexValue? c).map (16 * n + ·)) m = some n) :
    (ds.filterMap hexValue?).foldl (fun n d => 16 * n + d) m = n := by
  induction ds generalizing m with
  | nil => simpa using h
  | cons c ds ih =>
    rw [List.foldlM_cons] at h
    cases hc : hexValue? c with
    | none => simp [hc] at h
    | some d =>
      rw [List.filterMap_cons_some hc, List.foldl_cons]
      exact ih (by simpa [hc] using h)

/-- Underscores are no digits, so it does not matter that one reading passes over them and the
other over all that is no digit. -/
theorem looseHex_of_hexNumber? {cs : List Char} {n : Nat}
    (h : hexNumber? (cs.filter (· != '_')) = some n) : looseHex cs = n := by
  have hfilter : (cs.filter (· != '_')).filterMap hexValue? = cs.filterMap hexValue? := by
    rw [List.filterMap_filter]
    congr
    funext c
    by_cases hc : c = '_'
    · subst hc
      decide
    · simp [hc]
  rw [looseHex, ← hfilter]
  exact foldl_of_hexNumber? h

/-- The table counts as many bytes for a code point as its character takes. -/
theorem codeSize_of_braced? {cs rest : List Char} {c : Char} (h : braced? cs = some (c, rest)) :
    codeSize (looseHex (cs.takeWhile (· != '}'))) = c.utf8Size ∧
      rest = (cs.dropWhile (· != '}')).drop 1 := by
  unfold braced? at h
  simp only at h
  split at h
  · cases h
  next d rest' hdrop =>
    split at h
    · cases h
    simp only [Option.map_eq_some_iff, Option.bind_eq_some_iff, Prod.mk.injEq] at h
    obtain ⟨c', ⟨n, hn, hc⟩, rfl, rfl⟩ := h
    rw [looseHex_of_hexNumber? hn, codeSize, hc, hdrop]
    exact ⟨rfl, rfl⟩

/-- To the table an escape is a piece with an entry for each byte of its character. -/
theorem sizedPiece?_of_escape? {cs rest : List Char} {d : Char}
    (h : escape? .text cs = some (d, rest)) :
    ∃ piece, sizedPiece? ('\\' :: cs) = some (piece, d.utf8Size, rest) ∧ keptBlanks piece = [] ∧
      piece ≠ ['\r'] := by
  unfold escape? at h
  split at h
  · next a b cs =>
    obtain ⟨n, -, hn⟩ := Option.bind_eq_some_iff.1 h
    split at hn
    · next hbyte =>
      cases hn
      have hsize : (Char.ofNat n).utf8Size = 1 :=
        utf8Size_ofNat (by simpa [Flavour.admitsByte] using hbyte)
      rw [hsize]
      exact ⟨_, rfl, rfl, by simp⟩
    · cases hn
  · next cs =>
    obtain ⟨⟨c, rest'⟩, hbraced, hc⟩ := Option.bind_eq_some_iff.1 h
    dsimp only at hc
    split at hc
    · cases hc
      obtain ⟨hsize, rfl⟩ := codeSize_of_braced? hbraced
      -- the opening brace is passed over like any character that is no digit
      have hopen : looseHex (('{' :: cs).takeWhile (· != '}')) =
          looseHex (cs.takeWhile (· != '}')) := rfl
      rw [← hsize, ← hopen]
      exact ⟨'\\' :: 'u' :: ('{' :: cs.takeWhile (· != '}') ++ (cs.dropWhile (· != '}')).take 1),
        rfl, rfl, by simp⟩
    · cases hc
  · next c cs hx hu =>
    obtain ⟨d', hd, heq⟩ := Option.map_eq_some_iff.1 h
    cases heq
    have hne : ∀ e, Flavour.text.letter? e = none → c ≠ e := by
      rintro e he rfl
      simp [he] at hd
    have hxc := hne 'x' rfl
    have huc := hne 'u' rfl
    have hlf := hne '\n' rfl
    have hcr := hne '\r' rfl
    refine ⟨['\\', c], ?_, ?_, by simp⟩
    · simp [sizedPiece?, hlf, hcr, Flavour.utf8Size_of_letter? hd]
    · simp [keptBlanks, hlf, hcr]
  · cases h

/-! ## Continuations -/

theorem isBlank_of_isBreak {c : Char} (h : isBreak c) : isBlank c := by
  simp only [isBreak, Bool.or_eq_true, beq_iff_eq] at h
  rcases h with ((rfl | rfl) | rfl) | rfl <;> decide

/-- The value goes on at the same place in a run of blanks as in the whole text. -/
theorem dropWhile_isBreak (cs : List Char) :
    cs.dropWhile isBreak = (leadingBlanks cs).dropWhile isBreak ++ afterBlanks cs := by
  induction cs with
  | nil => rfl
  | cons c cs ih =>
    by_cases hc : isBlank c
    · have hlead : leadingBlanks (c :: cs) = c :: leadingBlanks cs := List.takeWhile_cons_of_pos hc
      have hafter : afterBlanks (c :: cs) = afterBlanks cs := List.dropWhile_cons_of_pos hc
      rw [hlead, hafter]
      by_cases hbreak : isBreak c
      · rw [List.dropWhile_cons_of_pos hbreak, List.dropWhile_cons_of_pos hbreak, ih]
      · rw [List.dropWhile_cons_of_neg hbreak, List.dropWhile_cons_of_neg hbreak, List.cons_append,
          leadingBlanks_append_afterBlanks]
    · have hlead : leadingBlanks (c :: cs) = [] := List.takeWhile_cons_of_neg hc
      have hafter : afterBlanks (c :: cs) = c :: cs := List.dropWhile_cons_of_neg hc
      have hbreak : ¬ isBreak c := fun h => hc (isBlank_of_isBreak h)
      rw [hlead, hafter, List.dropWhile_cons_of_neg hbreak]
      rfl

/-- The value goes on after spaces, tabs and line breaks. -/
theorem eq_dropWhile_of_afterBreak {cs rest : List Char} (h : afterBreak cs = some rest) :
    rest = cs.dropWhile isBreak := by
  fun_induction afterBreak cs with
  | case1 cs ih => exact ih h
  | case2 cs ih => exact ih h
  | case3 cs ih => exact ih h
  | case4 cs ih => exact ih h
  | case5 => cases h
  | case6 cs h1 h2 h3 h4 h5 =>
    obtain rfl := Option.some.inj h
    cases cs with
    | nil => rfl
    | cons c cs =>
      have hc : ¬ isBreak c := by
        intro hbreak
        simp only [isBreak, Bool.or_eq_true, beq_iff_eq] at hbreak
        rcases hbreak with ((rfl | rfl) | rfl) | rfl
        · exact h1 cs rfl
        · exact h2 cs rfl
        · exact h3 cs rfl
        · exact h5 cs rfl
      rw [List.dropWhile_cons_of_neg hc]

/-- To the table a continuation is a piece without entries, with all blanks after it. -/
theorem sizedPiece?_continuation {c : Char} (hc : c = '\n' ∨ c = '\r') (cs : List Char) :
    sizedPiece? ('\\' :: c :: cs) = some ('\\' :: c :: leadingBlanks cs, 0, afterBlanks cs) := by
  rcases hc with rfl | rfl <;> rfl

/-- What the value keeps of a continuation begins after the breaks, and has no carriage returns. -/
theorem keptBlanks_continuation {c : Char} (hc : c = '\n' ∨ c = '\r') (cs : List Char) :
    keptBlanks ('\\' :: c :: cs) = (cs.dropWhile isBreak).filter (· != '\r') := by
  rcases hc with rfl | rfl <;> rfl

/-- What a backslash begins has the value of an escape, or none if it is a continuation. -/
theorem decode_backslash {cs v : List Char} (h : decode .text ('\\' :: cs) = some v) :
    (∃ c ds, (c = '\n' ∨ c = '\r') ∧ cs = c :: ds ∧ decode .text (ds.dropWhile isBreak) = some v) ∨
      ∃ d rest v', escape? .text cs = some (d, rest) ∧ decode .text rest = some v' ∧
        v = d :: v' := by
  rw [decode_cons] at h
  obtain ⟨⟨v₁, rest⟩, hpiece, hrest⟩ := Option.bind_eq_some_iff.1 h
  obtain ⟨v₂, hv, rfl⟩ := Option.map_eq_some_iff.1 hrest
  unfold piece? at hpiece
  split at hpiece
  · next ds heq =>
    cases heq
    obtain ⟨rest, hbreak, heq⟩ := Option.map_eq_some_iff.1 hpiece
    cases heq
    rw [eq_dropWhile_of_afterBreak hbreak] at hv
    exact .inl ⟨'\n', ds, .inl rfl, rfl, hv⟩
  · next ds heq =>
    cases heq
    obtain ⟨rest, hbreak, heq⟩ := Option.map_eq_some_iff.1 hpiece
    cases heq
    rw [eq_dropWhile_of_afterBreak hbreak] at hv
    exact .inl ⟨'\r', '\n' :: ds, .inr rfl, rfl, hv⟩
  · next ds heq =>
    cases heq
    obtain ⟨⟨d, rest⟩, hescape, heq⟩ := Option.map_eq_some_iff.1 hpiece
    cases heq
    exact .inr ⟨d, rest, v₂, hescape, hv, rfl⟩
  · next heq => cases heq
  · next heq => cases heq
  · next hb _ _ heq => exact absurd (List.cons.inj heq).1.symm hb
  · next heq => cases heq

/-- Blanks stand for themselves in a body, but for carriage returns. -/
theorem decode_blanks {ks rest v : List Char} (hks : IsBlankText ks)
    (h : decode .text (ks ++ rest) = some v) :
    ∃ v', decode .text rest = some v' ∧ size v = size (ks.filter (· != '\r')) + size v' := by
  induction ks generalizing v with
  | nil => exact ⟨v, h, by simp⟩
  | cons c ks ih =>
    have hks' : IsBlankText ks := fun d hd => hks d (List.mem_cons_of_mem c hd)
    by_cases hc : c = '\r'
    · subst hc
      obtain ⟨-, h'⟩ := decode_return h
      simpa using ih hks' h'
    · have hb : c ≠ '\\' := by
        rintro rfl
        exact absurd (hks _ List.mem_cons_self) (by decide)
      rw [List.cons_append, decode_char hb hc] at h
      obtain ⟨v₁, h₁, rfl⟩ := Option.map_eq_some_iff.1 h
      obtain ⟨v', h', hsize⟩ := ih hks' h₁
      exact ⟨v', h', by simp [hc, hsize, Nat.add_assoc]⟩

/-! ## Bodies -/

/-- Wherever a body begins, it has a table, as long as the value and its end but for the entries that
are too many and the bytes that have none. -/
def Fits (body value : List Char) : Prop :=
  ∀ start, ∃ table, bodyOffsets start body = some table ∧
    table.length + size ((pieces body).flatMap keptBlanks) =
      size value + 1 + (pieces body).count ['\r']

theorem fits_nil : Fits [] [] := by
  intro start
  refine ⟨[start], by rw [bodyOffsets, if_pos rfl], ?_⟩
  have hpieces : pieces [] = [] := by
    rw [pieces]
    rfl
  simp [hpieces]

/-- One piece goes before a body. -/
theorem Fits.cons {body piece rest v v' : List Char} {n : Nat}
    (hp : sizedPiece? body = some (piece, n, rest)) (h : Fits rest v')
    (hn : n + size v' + size (keptBlanks piece) = size v + [piece].count ['\r']) : Fits body v := by
  intro start
  obtain ⟨table, htable, hlength⟩ := h (start + size piece)
  refine ⟨List.replicate n start ++ table, by rw [bodyOffsets_cons hp, htable]; rfl, ?_⟩
  rw [pieces_cons hp, List.flatMap_cons, size_append, List.length_append, List.length_replicate,
    List.count_cons]
  rw [List.count_singleton] at hn
  omega

/-- A body that has a value fits it. -/
theorem fits_of_decode {body v : List Char} (h : decode .text body = some v) : Fits body v := by
  induction hn : body.length using Nat.strongRecOn generalizing body v with
  | _ n ih =>
    subst hn
    cases body with
    | nil =>
      rw [decode_nil] at h
      cases h
      exact fits_nil
    | cons c cs =>
      by_cases hr : c = '\r'
      · -- the line feed after it is read twice, and counts once
        subst hr
        obtain ⟨-, hcs⟩ := decode_return h
        have hrest := ih cs.length (by simp) hcs rfl
        exact hrest.cons rfl (Nat.add_comm 1 (size v))
      by_cases hb : c = '\\'
      · subst hb
        rcases decode_backslash h with ⟨c, ds, hc, rfl, hv⟩ | ⟨d, rest, v', hescape, hv, rfl⟩
        · rw [dropWhile_isBreak] at hv
          have hblank : IsBlankText ((leadingBlanks ds).dropWhile isBreak) := fun x hx =>
            isBlankText_leadingBlanks ds x ((List.dropWhile_suffix _).subset hx)
          obtain ⟨v', hv', hsize⟩ := decode_blanks hblank hv
          have hpiece := sizedPiece?_continuation hc ds
          have hlt := length_of_sizedPiece? hpiece
          have hrest := ih (afterBlanks ds).length hlt hv' rfl
          refine hrest.cons hpiece ?_
          rw [keptBlanks_continuation hc, hsize]
          simp [Nat.add_comm]
        · obtain ⟨piece, hpiece, hkept, hne⟩ := sizedPiece?_of_escape? hescape
          have hlt := length_of_sizedPiece? hpiece
          have hrest := ih rest.length hlt hv rfl
          exact hrest.cons hpiece (by simp [hkept, hne])
      · rw [decode_char hb hr] at h
        obtain ⟨v', hv', rfl⟩ := Option.map_eq_some_iff.1 h
        have hrest := ih cs.length (by simp) hv' rfl
        have hpiece : sizedPiece? (c :: cs) = some ([c], c.utf8Size, cs) := by
          simp [sizedPiece?, hb]
        exact hrest.cons hpiece (by simp [keptBlanks, hr])

/-! ## Literals -/

/-- The last quote is the one after which none follows. -/
theorem beforeLastQuote?_append {front rest : List Char} (h : '"' ∉ rest) :
    beforeLastQuote? (front ++ '"' :: rest) = some front := by
  have hnone : beforeLastQuote? rest = none := by
    induction rest with
    | nil => rfl
    | cons c cs ih =>
      obtain ⟨hc, hcs⟩ : '"' ≠ c ∧ '"' ∉ cs := by simpa using h
      simp [beforeLastQuote?, ih hcs, hc.symm]
  induction front with
  | nil => simp [beforeLastQuote?, hnone]
  | cons c front ih => simp [beforeLastQuote?, ih]

/-- The pieces of a plain literal are those of its body. -/
theorem plainPieces_quote {body suffix : List Char} (h : '"' ∉ suffix) :
    plainPieces ('"' :: (body ++ '"' :: suffix)) = pieces body := by
  simp [plainPieces, beforeLastQuote?_append h]

/-- The table of a plain literal is that of its body, which begins after the quote. -/
theorem offsets_plain {body suffix : List Char} (h : '"' ∉ suffix) :
    offsets ('"' :: (body ++ '"' :: suffix)) = bodyOffsets 1 body := by
  simp [offsets, beforeLastQuote?_append h]

/-- In a raw literal every byte of the value stands for itself. -/
theorem offsets_raw {fence value suffix : List Char} (hfence : ∀ c ∈ fence, c = '#')
    (h : '"' ∉ suffix) :
    offsets ('r' :: (fence ++ '"' :: (value ++ '"' :: (fence ++ suffix)))) =
      some (List.range' (size fence + 2) (size value + 1)) := by
  have hquote : '"' ∉ fence ++ suffix := by
    intro hmem
    rcases List.mem_append.1 hmem with hf | hs
    · exact absurd (hfence _ hf) (by decide)
    · exact h hs
  have hfront : beforeLastQuote? ('r' :: (fence ++ '"' :: (value ++ '"' :: (fence ++ suffix)))) =
      some ('r' :: (fence ++ '"' :: value)) := by
    have hlast : beforeLastQuote? ('r' :: (fence ++ '"' :: value) ++ '"' :: (fence ++ suffix)) =
        some ('r' :: (fence ++ '"' :: value)) := beforeLastQuote?_append hquote
    simpa using hlast
  have hopen : ('r' :: (fence ++ '"' :: (value ++ '"' :: (fence ++ suffix)))).takeWhile (· != '"') =
      'r' :: fence := by
    have hpos : ∀ c ∈ fence, (c != '"') = true := by
      intro c hc
      rw [hfence c hc]
      rfl
    simp [List.takeWhile_append_of_pos hpos]
  have hbytes : 'r'.utf8Size = 1 ∧ '"'.utf8Size = 1 := ⟨rfl, rfl⟩
  have hstart : size ('r' :: fence) + 1 = size fence + 2 := by
    rw [size_cons, hbytes.1]
    omega
  have hcount : size ('r' :: (fence ++ '"' :: value)) + 1 - (size fence + 2) = size value + 1 := by
    rw [size_cons, size_append, size_cons, hbytes.1, hbytes.2]
    omega
  rw [offsets, hfront, Option.map_some]
  simp only [hopen, hstart, hcount]

/-- A plain literal has a table of the length that its pieces tell. -/
theorem exists_offsets_plain {source body suffix value : List Char}
    (hsource : source = '"' :: (body ++ '"' :: suffix)) (h : '"' ∉ suffix)
    (hvalue : decode .text body = some value) :
    ∃ table, offsets source = some table ∧
      table.length + missing source = size value + 1 + surplus source := by
  subst hsource
  rw [missing, surplus, plainPieces_quote h, offsets_plain h]
  exact fits_of_decode hvalue 1

/-- A raw literal has a table with one entry for each byte and one for the end. -/
theorem exists_offsets_raw {source fence suffix value : List Char}
    (hsource : source = 'r' :: (fence ++ '"' :: (value ++ '"' :: (fence ++ suffix))))
    (hfence : ∀ c ∈ fence, c = '#') (h : '"' ∉ suffix) :
    ∃ table, offsets source = some table ∧
      table.length + missing source = size value + 1 + surplus source := by
  subst hsource
  refine ⟨_, offsets_raw hfence h, ?_⟩
  rw [missing_raw, surplus_raw, List.length_range']

/-- **When the table of a literal has the right length.** Every text literal has a table. It is
longer than the value and its end by the surplus entries, and shorter by the missing ones, so it has
the right length exactly if these are equally many. -/
theorem length_offsets {source value : List Char} (h : lexeme? source = some (.text value, [])) :
    ∃ table, offsets source = some table ∧
      table.length + missing source = size value + 1 + surplus source ∧
      (table.length = size value + 1 ↔ surplus source = missing source) := by
  have htable : ∃ table, offsets source = some table ∧
      table.length + missing source = size value + 1 + surplus source := by
    rcases literal_cases h with ⟨body, suffix, hsource, hquote, hvalue⟩ |
      ⟨fence, suffix, hsource, hfence, hquote⟩
    · exact exists_offsets_plain hsource hquote hvalue
    · exact exists_offsets_raw hsource hfence hquote
  obtain ⟨table, hoffsets, hlength⟩ := htable
  exact ⟨table, hoffsets, hlength, by omega⟩

/-- Escapes and a continuation, in a literal with a suffix. -/
theorem length_offsets_escapes :
    lexeme? "\"\\u\x7be4\x7d\\\n  \\x2B\"x".toList = some (.text ['ä', '+'], []) ∧
      ∃ table, offsets "\"\\u\x7be4\x7d\\\n  \\x2B\"x".toList = some table ∧
        table.length = size ['ä', '+'] + 1 := by
  have h : lexeme? "\"\\u\x7be4\x7d\\\n  \\x2B\"x".toList = some (.text ['ä', '+'], []) := by
    decide +kernel
  obtain ⟨table, htable, -, hiff⟩ := length_offsets h
  exact ⟨h, table, htable, hiff.2 (by decide +kernel)⟩

/-- Not every table has the right length: a no-break space after a continuation belongs to the value
and has no entries, and a line break of two characters has two entries for one byte. -/
theorem length_offsets_ne :
    (lexeme? "\"\\\n\u00a0b\"".toList = some (.text ['\u00a0', 'b'], []) ∧
      offsets "\"\\\n\u00a0b\"".toList = some [5, 6] ∧ size ['\u00a0', 'b'] + 1 = 4) ∧
    (lexeme? "\"a\r\nb\"".toList = some (.text ['a', '\n', 'b'], []) ∧
      offsets "\"a\r\nb\"".toList = some [1, 2, 3, 4, 5] ∧ size ['a', '\n', 'b'] + 1 = 4) ∧
    ¬ ∀ source value, lexeme? source = some (.text value, []) →
      ∃ table, offsets source = some table ∧ table.length = size value + 1 := by
  have hlexeme : lexeme? "\"\\\n\u00a0b\"".toList = some (.text ['\u00a0', 'b'], []) := by
    decide +kernel
  have hoffsets : offsets "\"\\\n\u00a0b\"".toList = some [5, 6] := by
    decide +kernel
  refine ⟨⟨hlexeme, hoffsets, rfl⟩, ⟨by decide +kernel, by decide +kernel, rfl⟩, fun h => ?_⟩
  obtain ⟨table, htable, hlength⟩ := h _ _ hlexeme
  rw [hoffsets] at htable
  cases htable
  exact absurd hlength (by decide)

end IdPattern.Embed
