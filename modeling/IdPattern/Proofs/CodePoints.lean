import Mathlib.Algebra.Order.Ring.Nat
import IdPattern.Embed.Positions
import IdPattern.Proofs.OffsetTable
import IdPattern.Proofs.Runs

/-!
# Code points of 32 bits

A code point is collected digit by digit, and a digit makes it at most sixteen times as large. So
eight digits stay below `16 ^ 8`, which is the number of values of 32 bits, and nothing overflows
(`collect_of_lt`). Characters that are no digits do not count, however many there are.

Where no escape of a literal has more than eight digits, each piece is taken as in the table that
is made without positions (`takePiece_eq`), and the body is a part of the literal. So nothing goes
wrong, and the tables are the same (`offsetsByPositions_eq`).
-/

namespace IdPattern

theorem toNat_le_of_range {a b c : Char} (h : (a ≤ c && c ≤ b) = true) : c.toNat ≤ b.toNat :=
  UInt32.le_iff_toNat_le.1 (of_decide_eq_true (Bool.and_eq_true_iff.1 h).2)

/-- A digit is less than sixteen. -/
theorem lt_of_hexValue? {c : Char} {d : Nat} (h : hexValue? c = some d) : d < 16 := by
  have hfirst : '0'.toNat = 48 ∧ 'a'.toNat = 97 ∧ 'A'.toNat = 65 := by decide
  have hlast : '9'.toNat = 57 ∧ 'f'.toNat = 102 ∧ 'F'.toNat = 70 := by decide
  unfold hexValue? at h
  split at h
  · next hc =>
    have hle := (Char.isDigit_iff_toNat.1 hc).2
    cases h
    omega
  · split at h
    · next hc =>
      have hle := toNat_le_of_range hc
      cases h
      omega
    · split at h
      · next hc =>
        have hle := toNat_le_of_range hc
        cases h
        omega
      · cases h

namespace Embed

/-! ## Eight digits -/

/-- The number that the digits of a text make, if they go on after the number `n`. -/
def hexFrom (n : Nat) (cs : List Char) : Nat :=
  (cs.filterMap hexValue?).foldl (fun n d => 16 * n + d) n

theorem hexFrom_digit {c : Char} {d : Nat} (hc : hexValue? c = some d) (n : Nat) (cs : List Char) :
    hexFrom n (c :: cs) = hexFrom (16 * n + d) cs := by
  rw [hexFrom, List.filterMap_cons_some hc, List.foldl_cons]
  rfl

theorem hexFrom_other {c : Char} (hc : hexValue? c = none) (n : Nat) (cs : List Char) :
    hexFrom n (c :: cs) = hexFrom n cs := by
  rw [hexFrom, List.filterMap_cons_none hc]
  rfl

/-- More digits make no smaller number. -/
theorem le_hexFrom (n : Nat) (cs : List Char) : n ≤ hexFrom n cs := by
  induction cs generalizing n with
  | nil => exact Nat.le_refl n
  | cons c cs ih =>
    cases hc : hexValue? c with
    | none =>
      rw [hexFrom_other hc]
      exact ih n
    | some d =>
      rw [hexFrom_digit hc]
      have hn : n ≤ 16 * n + d := by omega
      exact Nat.le_trans hn (ih (16 * n + d))

def digitCount (cs : List Char) : Nat := cs.countP fun c => (hexValue? c).isSome

/-- Each digit makes the number at most sixteen times as large. -/
theorem hexFrom_lt {n k : Nat} (hn : n < 16 ^ k) (cs : List Char) :
    hexFrom n cs < 16 ^ (k + digitCount cs) := by
  induction cs generalizing n k with
  | nil => exact hn
  | cons c cs ih =>
    cases hc : hexValue? c with
    | none =>
      have hcount : digitCount (c :: cs) = digitCount cs := by simp [digitCount, hc]
      rw [hexFrom_other hc, hcount]
      exact ih hn
    | some d =>
      have hcount : k + digitCount (c :: cs) = k + 1 + digitCount cs := by
        simp [digitCount, hc]
        omega
      have hd : d < 16 := lt_of_hexValue? hc
      have hstep : 16 * n + d < 16 ^ (k + 1) := by
        rw [pow_succ]
        omega
      rw [hexFrom_digit hc, hcount]
      exact ih hstep

/-- Eight digits fit into 32 bits. -/
theorem looseHex_lt_size {cs : List Char} (h : digitCount cs ≤ 8) : looseHex cs < UInt32.size := by
  have hlt : looseHex cs < 16 ^ (0 + digitCount cs) := hexFrom_lt (by decide) cs
  have hle : 16 ^ (0 + digitCount cs) ≤ 16 ^ 8 := Nat.pow_le_pow_right (by decide) (by omega)
  exact Nat.lt_of_lt_of_le hlt hle

/-! ## Collecting a code point -/

/-- One more digit does not overflow if the number with it fits. -/
theorem pushDigit_of_lt {code : UInt32} {c : Char} {d : Nat} (hc : hexValue? c = some d)
    (h : 16 * code.toNat + d < UInt32.size) :
    ∃ code', pushDigit code c = .ok code' ∧ code'.toNat = 16 * code.toNat + d := by
  have hsize : UInt32.size = 4294967296 := rfl
  have hbase : (16 : UInt32).toNat = 16 := rfl
  have hdigit : (UInt32.ofNat d).toNat = d := UInt32.toNat_ofNat_of_lt (by omega)
  have hproduct : (code * 16).toNat = 16 * code.toNat := by
    rw [UInt32.toNat_mul, hbase, Nat.mul_comm, Nat.mod_eq_of_lt (by omega)]
  refine ⟨code * 16 + UInt32.ofNat d, ?_, ?_⟩
  · have hshift : wordProduct code 16 = .ok (code * 16) := if_pos (by rw [hbase]; omega)
    have hsum : wordSum (code * 16) (UInt32.ofNat d) = .ok (code * 16 + UInt32.ofNat d) :=
      if_pos (by omega)
    simp only [pushDigit, hc, hshift]
    exact hsum
  · rw [UInt32.toNat_add, hproduct, hdigit, Nat.mod_eq_of_lt (by omega)]

theorem collect_cons {code code' : UInt32} {c : Char} (hc : c ≠ '}')
    (h : pushDigit code c = .ok code') (offset : Nat) (cs : List Char) :
    collect code offset (c :: cs) = collect code' (offset + c.utf8Size) cs := by
  rw [collect, if_neg hc, h]
  rfl

/-- A code point that fits is collected, and the text up to the closing brace is taken. -/
theorem collect_of_lt {cs : List Char} {code : UInt32}
    (h : hexFrom code.toNat (cs.takeWhile (· != '}')) < UInt32.size) (offset : Nat) :
    ∃ code', code'.toNat = hexFrom code.toNat (cs.takeWhile (· != '}')) ∧
      collect code offset cs = .ok (code',
        ⟨offset + size (cs.takeWhile (· != '}') ++ (cs.dropWhile (· != '}')).take 1),
          (cs.dropWhile (· != '}')).drop 1⟩) := by
  induction cs generalizing code offset with
  | nil => exact ⟨code, rfl, rfl⟩
  | cons c cs ih =>
    by_cases hc : c = '}'
    · subst hc
      exact ⟨code, rfl, rfl⟩
    · have hne : (c != '}') = true := by simpa using hc
      have htake : (c :: cs).takeWhile (· != '}') = c :: cs.takeWhile (· != '}') :=
        List.takeWhile_cons_of_pos hne
      have hdrop : (c :: cs).dropWhile (· != '}') = cs.dropWhile (· != '}') :=
        List.dropWhile_cons_of_pos hne
      rw [htake] at h ⊢
      rw [hdrop]
      -- the first character is a digit or is passed over, and both leave the same number to make
      obtain ⟨code₁, hcode, hpush⟩ : ∃ code₁ : UInt32,
          hexFrom code.toNat (c :: cs.takeWhile (· != '}')) =
            hexFrom code₁.toNat (cs.takeWhile (· != '}')) ∧ pushDigit code c = .ok code₁ := by
        cases hd : hexValue? c with
        | none => exact ⟨code, hexFrom_other hd _ _, by rw [pushDigit, hd]⟩
        | some d =>
          rw [hexFrom_digit hd] at h ⊢
          -- further digits only make it larger, so it fits already now
          have hfits := Nat.lt_of_le_of_lt (le_hexFrom _ _) h
          obtain ⟨code₁, hpush, hcode⟩ := pushDigit_of_lt hd hfits
          exact ⟨code₁, by rw [hcode], hpush⟩
      rw [hcode] at h ⊢
      obtain ⟨code', hcode', hcollect⟩ := ih h (offset + c.utf8Size)
      refine ⟨code', hcode', ?_⟩
      rw [collect_cons hc hpush, hcollect, List.cons_append, size_cons, Nat.add_assoc]

/-! ## Pieces -/

/-- The number of hexadecimal digits in an escape with a code point, before the brace that closes it
or the end of the body. -/
def codeDigits : List Char → Nat
  | '\\' :: 'u' :: cs => digitCount (cs.takeWhile (· != '}'))
  | _ => 0

/-- The digits of an escape are counted up to its closing brace. -/
theorem codeDigits_escape (cs : List Char) :
    codeDigits ('\\' :: 'u' :: (cs.takeWhile (· != '}') ++ (cs.dropWhile (· != '}')).take 1)) =
      digitCount (cs.takeWhile (· != '}')) := by
  have hinside : ∀ c ∈ cs.takeWhile (· != '}'), (c != '}') = true := fun _ =>
    List.mem_takeWhile_imp
  have hclosing : ∀ c ∈ ((cs.dropWhile (· != '}')).take 1).head?, (c != '}') = false := by
    rw [List.head?_take]
    exact head?_dropWhile (· != '}') cs
  rw [codeDigits, takeWhile_run hinside hclosing]

/-- An escape with at most eight digits is taken without overflow. -/
theorem takePiece_escape {cs : List Char} (h : digitCount (cs.takeWhile (· != '}')) ≤ 8)
    (start : Nat) :
    takePiece ⟨start, 'u' :: cs⟩ '\\' =
      .ok (some (codeSize (looseHex (cs.takeWhile (· != '}'))),
        ⟨start + size ('u' :: (cs.takeWhile (· != '}') ++ (cs.dropWhile (· != '}')).take 1)),
          (cs.dropWhile (· != '}')).drop 1⟩)) := by
  have hlt : hexFrom (UInt32.toNat 0) (cs.takeWhile (· != '}')) < UInt32.size :=
    looseHex_lt_size h
  obtain ⟨code, hcode, hcollect⟩ := collect_of_lt hlt (start + 'u'.utf8Size)
  have htake : takePiece ⟨start, 'u' :: cs⟩ '\\' =
      (collect 0 (start + 'u'.utf8Size) cs).map fun x => some (codeSize x.1.toNat, x.2) := rfl
  have hzero : hexFrom (UInt32.toNat 0) (cs.takeWhile (· != '}')) =
      looseHex (cs.takeWhile (· != '}')) := rfl
  rw [htake, hcollect, Except.map]
  dsimp only
  rw [hcode, hzero, size_cons, Nat.add_assoc]

/-- Taken character by character, a piece stands for as many bytes and ends at the same place. -/
theorem takePiece_eq {c : Char} {cs : List Char}
    (h : ∀ x ∈ sizedPiece? (c :: cs), codeDigits x.1 ≤ 8) (start : Nat) :
    takePiece ⟨start + c.utf8Size, cs⟩ c =
      .ok ((sizedPiece? (c :: cs)).map fun x => (x.2.1, ⟨start + size x.1, x.2.2⟩)) := by
  by_cases hb : c = '\\'
  · subst hb
    cases cs with
    | nil => rfl
    | cons d cs =>
      by_cases hx : d = 'x'
      · subst hx
        cases cs with
        | nil => rfl
        | cons a cs =>
          cases cs with
          | nil => rfl
          | cons b cs => simp [takePiece, Cursor.take?, sizedPiece?, Nat.add_assoc]
      by_cases hu : d = 'u'
      · subst hu
        have hdigits := h _ rfl
        rw [codeDigits_escape] at hdigits
        rw [takePiece_escape hdigits, Nat.add_assoc]
        rfl
      by_cases hc : d = '\n' ∨ d = '\r'
      · rw [sizedPiece?_continuation hc]
        simp [takePiece, Cursor.take?, hx, hu, hc, Cursor.skipBlanks, Nat.add_assoc]
      · simp [takePiece, Cursor.take?, sizedPiece?, hx, hu, hc, Nat.add_assoc]
  · have hpiece : sizedPiece? (c :: cs) = some ([c], c.utf8Size, cs) := by
      simp [sizedPiece?, hb]
    rw [takePiece, if_neg hb, hpiece]
    rfl

/-! ## Tables -/

@[simp] theorem walk_nil (stop : Nat) (done : List Nat) (offset : Nat) :
    walk stop done ⟨offset, []⟩ = .ok (some (done ++ [stop])) := by
  rw [walk]
  rfl

/-- The walk takes a piece, enters it, and goes on after it. -/
theorem walk_cons {c : Char} {cs : List Char} {offset : Nat} {x? : Option (Nat × Cursor)}
    (h : takePiece ⟨offset + c.utf8Size, cs⟩ c = .ok x?) (stop : Nat) (done : List Nat) :
    walk stop done ⟨offset, c :: cs⟩ =
      x?.elim (.ok none) fun x => walk stop (done ++ List.replicate x.1 offset) x.2 := by
  have htake : Cursor.take? ⟨offset, c :: cs⟩ = some (c, ⟨offset + c.utf8Size, cs⟩) := rfl
  rw [walk]
  split
  · next hnone => cases htake.symm.trans hnone
  · next hsome =>
    cases htake.symm.trans hsome
    split
    · next herror => cases h.symm.trans herror
    · next hok =>
      cases h.symm.trans hok
      rfl
    · next hok =>
      cases h.symm.trans hok
      rfl

theorem bodyOffsets_of_none {body : List Char} (hne : body ≠ []) (h : sizedPiece? body = none)
    (start : Nat) : bodyOffsets start body = none := by
  rw [bodyOffsets, if_neg hne]
  split
  · rfl
  · next hsome => cases h.symm.trans hsome

/-- The walk makes the table of the body and puts it after the entries it has. -/
theorem walk_eq {body : List Char} (h : ∀ piece ∈ pieces body, codeDigits piece ≤ 8) (start : Nat)
    (done : List Nat) :
    walk (start + size body) done ⟨start, body⟩ =
      .ok ((bodyOffsets start body).map (done ++ ·)) := by
  induction hn : body.length using Nat.strongRecOn generalizing body start done with
  | _ n ih =>
    subst hn
    cases body with
    | nil =>
      rw [walk_nil, bodyOffsets, if_pos rfl]
      rfl
    | cons c cs =>
      cases hp : sizedPiece? (c :: cs) with
      | none =>
        -- the text ends within a piece, and neither reading makes a table
        have hdigits : ∀ x ∈ sizedPiece? (c :: cs), codeDigits x.1 ≤ 8 := by simp [hp]
        have htake := takePiece_eq hdigits start
        rw [walk_cons htake, hp, bodyOffsets_of_none (List.cons_ne_nil c cs) hp]
        rfl
      | some x =>
        obtain ⟨piece, k, rest⟩ := x
        obtain ⟨happend, -⟩ := append_of_sizedPiece? hp
        rw [pieces_cons hp] at h
        obtain ⟨hpiece, hrest⟩ := List.forall_mem_cons.1 h
        have hdigits : ∀ x ∈ sizedPiece? (c :: cs), codeDigits x.1 ≤ 8 := by
          simpa [hp] using hpiece
        have htake := takePiece_eq hdigits start
        have hstop : start + size (c :: cs) = start + size piece + size rest := by
          rw [happend, size_append, Nat.add_assoc]
        have hwalk := ih rest.length (length_of_sizedPiece? hp) hrest (start + size piece)
          (done ++ List.replicate k start) rfl
        rw [walk_cons htake, hp, Option.map_some, Option.elim_some, hstop, hwalk,
          bodyOffsets_cons hp, Option.map_map]
        simp [Function.comp_def]

/-! ## Literals -/

theorem beforeLastQuote?_cons (c : Char) (cs : List Char) :
    beforeLastQuote? (c :: cs) =
      match beforeLastQuote? cs with
      | some front => some (c :: front)
      | none => if c = '"' then some [] else none := rfl

/-- Only a text without quotes has no last quote. -/
theorem beforeLastQuote?_eq_none {cs : List Char} (h : beforeLastQuote? cs = none) : '"' ∉ cs := by
  induction cs with
  | nil => simp
  | cons c cs ih =>
    cases hcs : beforeLastQuote? cs with
    | some front => simp [beforeLastQuote?_cons, hcs] at h
    | none =>
      have hc : c ≠ '"' := by simpa [beforeLastQuote?_cons, hcs] using h
      simpa [hc.symm] using ih hcs

/-- The last quote of a text, told without looking for it. -/
theorem beforeLastQuote?_eq_some_iff {cs front : List Char} :
    beforeLastQuote? cs = some front ↔ ∃ back, cs = front ++ '"' :: back ∧ '"' ∉ back := by
  constructor
  · intro h
    induction cs generalizing front with
    | nil => cases h
    | cons c cs ih =>
      cases hcs : beforeLastQuote? cs with
      | some front' =>
        obtain ⟨back, rfl, hback⟩ := ih hcs
        obtain rfl : c :: front' = front := by simpa [beforeLastQuote?_cons, hcs] using h
        exact ⟨back, rfl, hback⟩
      | none =>
        obtain ⟨rfl, rfl⟩ : c = '"' ∧ [] = front := by
          simpa [beforeLastQuote?_cons, hcs] using h
        exact ⟨cs, rfl, beforeLastQuote?_eq_none hcs⟩
  · rintro ⟨back, rfl, hback⟩
    exact beforeLastQuote?_append hback

/-- The table of a plain literal is made without defect. -/
theorem offsetsByPositions_quote {cs : List Char}
    (h : ∀ piece ∈ plainPieces ('"' :: cs), codeDigits piece ≤ 8) :
    offsetsByPositions ('"' :: cs) = .ok (offsets ('"' :: cs)) := by
  cases hcs : beforeLastQuote? cs with
  | none =>
    have hsource : beforeLastQuote? ('"' :: cs) = some [] := by
      simp [beforeLastQuote?_cons, hcs]
    simp [offsetsByPositions, hsource, offsets, hcs]
  | some body =>
    have hsource : beforeLastQuote? ('"' :: cs) = some ('"' :: body) := by
      simp [beforeLastQuote?_cons, hcs]
    obtain ⟨back, hback, -⟩ := beforeLastQuote?_eq_some_iff.1 hcs
    have hslice : Span.slice? ⟨1, size ('"' :: body)⟩ ('"' :: cs) = some body := by
      refine Span.slice?_eq_some_iff.2 ⟨['"'], '"' :: back, by rw [hback]; rfl, rfl⟩
    have hpieces : ∀ piece ∈ pieces body, codeDigits piece ≤ 8 := by
      simpa [plainPieces, hcs] using h
    have hne : size ('"' :: body) ≠ 0 := Nat.ne_of_gt (size_pos (List.cons_ne_nil _ _))
    simp only [offsetsByPositions, hsource, Option.map_some, if_neg hne, hslice]
    rw [offsets, hcs, Option.bind_some]
    have hwalk : walk (size ('"' :: body)) [] ⟨1, body⟩ =
        .ok ((bodyOffsets 1 body).map ([] ++ ·)) := walk_eq hpieces 1 []
    rw [hwalk]
    simp

/-- Nothing goes wrong where no code point has more than eight digits. -/
theorem offsetsByPositions_eq {source : List Char}
    (h : ∀ piece ∈ plainPieces source, codeDigits piece ≤ 8) :
    offsetsByPositions source = .ok (offsets source) := by
  cases source with
  | nil => rfl
  | cons c cs =>
    by_cases hq : c = '"'
    · subst hq
      exact offsetsByPositions_quote h
    · by_cases hr : c = 'r'
      · subst hr
        rw [offsetsByPositions, offsets]
        cases beforeLastQuote? ('r' :: cs) with
        | none => rfl
        | some front => rfl
      · have hother : offsets (c :: cs) = none := by simp [offsets, hq, hr]
        rw [hother]
        cases hlast : beforeLastQuote? (c :: cs) <;> simp [offsetsByPositions, hlast, hq, hr]

/-- An underscore between the digits does not count, and a ninth digit is one too many. -/
example : offsetsByPositions "\"\\u\x7bF_FFFFFFF\x7d\"".toList = .ok (some [1, 14]) ∧
    offsetsByPositions "\"\\u\x7b1_00000000\x7d\"".toList = .error (.product 0x10000000 16) := by
  decide +kernel

end Embed

end IdPattern
