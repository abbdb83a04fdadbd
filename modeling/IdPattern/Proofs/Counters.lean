import Mathlib.Data.Set.Card
import IdPattern.Proofs.Values

/-!
# Counters

The values of a counter are the numbers below a power of ten, in decimal and with zeros before them,
so that all have the same number of digits (`counter`). The validator does not know this: it compares
lengths and looks at the characters one by one. That it accepts exactly the counters is an induction
on the number of digits, from the last digit on, since a counter with one digit more is the counter
of a tenth of the number with the last digit after it (`counter_succ`).

No two numbers have the same counter, because the number can be read back from the digits, where
zeros in front count for nothing.
-/

namespace IdPattern

/-- The number `k` in decimal, with zeros before it up to a width of `n` digits. -/
def counter (n k : Nat) : String :=
  String.ofList ((Nat.toDigits 10 k).leftpad n '0')

/-! ## Digits -/

/-- The characters of a counter are zeros and then the digits of the number. -/
theorem toList_counter (n k : Nat) :
    (counter n k).toList =
      List.replicate (n - (Nat.toDigits 10 k).length) '0' ++ Nat.toDigits 10 k :=
  String.toList_ofList

/-- The number that a counter shows. -/
theorem ofDigitChars_counter (n k : Nat) : Nat.ofDigitChars 10 (counter n k).toList 0 = k := by
  rw [toList_counter, Nat.ofDigitChars_append, Nat.ofDigitChars_replicate_zero, Nat.mul_zero,
    Nat.ofDigitChars_ten_toDigits]

/-- The digits tell the number: leading zeros do not count. -/
theorem counter_injective (n : Nat) : Function.Injective (counter n) := by
  intro k l h
  rw [← ofDigitChars_counter n k, h, ofDigitChars_counter]

/-- One digit more is the last digit of the number, and the others are those of its tenth. -/
theorem counter_succ {n : Nat} (hn : 1 ≤ n) (k : Nat) :
    (counter (n + 1) k).toList = (counter n (k / 10)).toList ++ [(k % 10).digitChar] := by
  rw [toList_counter, toList_counter]
  by_cases hk : k < 10
  · -- the tenth is zero, and its only digit is one more of the zeros in front
    have htenth : Nat.toDigits 10 (k / 10) = ['0'] := by
      rw [Nat.div_eq_of_lt hk, Nat.toDigits_zero]
    have hzeros : List.replicate (n - 1) '0' ++ ['0'] = List.replicate n '0' := by
      rw [← List.replicate_succ', Nat.sub_add_cancel hn]
    rw [htenth, Nat.toDigits_of_lt_base hk, Nat.mod_eq_of_lt hk, List.length_singleton,
      List.length_singleton, Nat.add_sub_cancel, hzeros]
  · rw [Nat.toDigits_of_base_le (by decide) (Nat.le_of_not_lt hk), List.length_append,
      List.length_singleton, Nat.add_sub_add_right, List.append_assoc]

theorem isDigit_of_mem_counter {n k : Nat} {c : Char} (hc : c ∈ (counter n k).toList) :
    c.isDigit := by
  rw [toList_counter, List.mem_append] at hc
  rcases hc with hzero | hdigit
  · rw [List.eq_of_mem_replicate hzero]
    rfl
  · exact Nat.isDigit_of_mem_toDigits (by decide) (by decide) hdigit

/-- A number that fits takes exactly the width it is given. -/
theorem length_counter {n k : Nat} (hn : 1 ≤ n) (hk : k < 10 ^ n) :
    (counter n k).toList.length = n := by
  have hle : (Nat.toDigits 10 k).length ≤ n := (Nat.length_toDigits_le_iff (by decide) hn).2 hk
  rw [toList_counter, List.length_append, List.length_replicate, Nat.sub_add_cancel hle]

/-- A digit stands for a number below ten. -/
theorem exists_digitChar_of_isDigit {c : Char} (hc : c.isDigit) : ∃ d < 10, d.digitChar = c := by
  -- characters are ordered by their code points
  have hrange : 48 ≤ c.toNat ∧ c.toNat ≤ 57 := isDigit_iff.1 hc
  have hd : c.toNat - 48 < 10 := by omega
  refine ⟨c.toNat - 48, hd, Char.toNat_inj.1 ?_⟩
  rw [Nat.toNat_digitChar_of_lt_ten hd]
  omega

/-- Every row of digits is a counter. -/
theorem exists_counter {n : Nat} (hn : 1 ≤ n) {cs : List Char} (hlength : cs.length = n)
    (hcs : ∀ c ∈ cs, c.isDigit) : ∃ k < 10 ^ n, (counter n k).toList = cs := by
  induction n, hn using Nat.le_induction generalizing cs with
  | base =>
    obtain ⟨c, rfl⟩ := List.length_eq_one_iff.1 hlength
    obtain ⟨d, hd, rfl⟩ := exists_digitChar_of_isDigit (hcs c List.mem_cons_self)
    refine ⟨d, hd, ?_⟩
    rw [toList_counter, Nat.toDigits_of_lt_base hd]
    rfl
  | succ n hn ih =>
    obtain ⟨ds, c, rfl⟩ : ∃ ds c, cs = ds ++ [c] := by
      rcases List.eq_nil_or_concat' cs with rfl | hconcat
      · cases hlength
      · exact hconcat
    have hds : ds.length = n := by simpa using hlength
    obtain ⟨k, hk, hcounter⟩ := ih hds fun x hx => hcs x (List.mem_append_left _ hx)
    obtain ⟨d, hd, rfl⟩ := exists_digitChar_of_isDigit (hcs c (by simp))
    refine ⟨10 * k + d, ?_, ?_⟩
    · rw [Nat.pow_succ']
      omega
    · have htenth : (10 * k + d) / 10 = k := by omega
      have hlast : (10 * k + d) % 10 = d := by omega
      rw [counter_succ hn, htenth, hlast, hcounter]

/-- The counters of a width are the rows of as many digits. -/
theorem exists_counter_iff {n : Nat} (hn : 1 ≤ n) {v : String} :
    (∃ k < 10 ^ n, v = counter n k) ↔ v.toList.length = n ∧ ∀ c ∈ v.toList, c.isDigit := by
  constructor
  · rintro ⟨k, hk, rfl⟩
    exact ⟨length_counter hn hk, fun c hc => isDigit_of_mem_counter hc⟩
  · rintro ⟨hlength, hdigits⟩
    obtain ⟨k, hk, hcounter⟩ := exists_counter hn hlength hdigits
    exact ⟨k, hk, String.toList_inj.1 hcounter.symm⟩

/-! ## Values -/

namespace Segment

variable {n : Nat} {raw a v : String}

/-- Of the format of a counter only the length counts. -/
theorem accepts_sequential_iff :
    accepts ⟨.method .sequential, raw, some a⟩ v ↔
      v.toList.length = a.length ∧ ∀ c ∈ v.toList, c.isDigit := by
  simp only [accepts, Option.getD_some, Bool.and_eq_true, beq_iff_eq, List.all_eq_true,
    String.length_toList]

/-- A random format of nothing but `#` asks for digits, as a counter does. -/
theorem accepts_random_replicate :
    accepts ⟨.method .random, raw, some (String.ofList (List.replicate n '#'))⟩ v ↔
      v.toList.length = n ∧ ∀ c ∈ v.toList, c.isDigit := by
  rw [accepts_random, String.toList_ofList, forall₂_drawn_digits fun f => List.eq_of_mem_replicate,
    List.length_replicate]
  simp only [isDigit_iff]

/-- **A counter accepts exactly the numbers with as many digits as its format is long**, zeros in
front included. Each value is that of one number, so there are as many values as numbers below the
power of ten, and a random value of digits alone has the same ones. -/
theorem accepts_iff_counter (raw : String) (hn : 1 ≤ n) (ha : a.length = n) :
    (∀ v, accepts ⟨.method .sequential, raw, some a⟩ v ↔ ∃! k, k < 10 ^ n ∧ v = counter n k) ∧
      (∀ k l, k < 10 ^ n → l < 10 ^ n → k ≠ l → counter n k ≠ counter n l) ∧
      {v | accepts ⟨.method .sequential, raw, some a⟩ v}.ncard = 10 ^ n ∧
      ∀ raw' v,
        accepts ⟨.method .random, raw', some (String.ofList (List.replicate n '#'))⟩ v ↔
          accepts ⟨.method .sequential, raw, some a⟩ v := by
  have hcounter : ∀ v, accepts ⟨.method .sequential, raw, some a⟩ v ↔
      ∃ k < 10 ^ n, v = counter n k := by
    intro v
    rw [accepts_sequential_iff, ha, exists_counter_iff hn]
  refine ⟨?_, ?_, ?_, ?_⟩
  · intro v
    rw [hcounter]
    constructor
    · rintro ⟨k, hk, rfl⟩
      exact ⟨k, ⟨hk, rfl⟩, fun l hl => counter_injective n hl.2.symm⟩
    · rintro ⟨k, hk, -⟩
      exact ⟨k, hk⟩
  · intro k l _ _ hne
    exact (counter_injective n).ne hne
  · have himage : {v | accepts ⟨.method .sequential, raw, some a⟩ v} =
        counter n '' (Finset.range (10 ^ n) : Set Nat) := by
      ext v
      refine (hcounter v).trans ?_
      rw [Finset.coe_range]
      constructor
      · rintro ⟨k, hk, rfl⟩
        exact ⟨k, hk, rfl⟩
      · rintro ⟨k, hk, rfl⟩
        exact ⟨k, hk, rfl⟩
    rw [himage, Set.ncard_image_of_injective _ (counter_injective n), Set.ncard_coe_finset,
      Finset.card_range]
  · intro raw' v
    rw [accepts_random_replicate, accepts_sequential_iff, ha]

/-- Numbers are padded and never cut off, and digits of other scripts are none. -/
theorem accepts_iff_counter_three :
    accepts ⟨.method .sequential, "SEQUENTIAL(###)", some "###"⟩ "007" ∧
      ¬ accepts ⟨.method .sequential, "SEQUENTIAL(###)", some "###"⟩ "7" ∧
      ¬ accepts ⟨.method .random, "RANDOM(###)", some "###"⟩ "٠٠٧" ∧
      {v | accepts ⟨.method .sequential, "SEQUENTIAL(###)", some "###"⟩ v}.ncard = 1000 := by
  obtain ⟨hcounter, -, hcard, hrandom⟩ :=
    accepts_iff_counter (n := 3) (a := "###") "SEQUENTIAL(###)" (by decide) rfl
  refine ⟨?_, ?_, ?_, hcard⟩
  · exact (hcounter "007").2 ⟨7, by decide, fun k hk => counter_injective 3 hk.2.symm⟩
  · intro h
    obtain ⟨k, ⟨hk, hv⟩, -⟩ := (hcounter "7").1 h
    have hlength := length_counter (by decide) hk
    rw [← hv] at hlength
    exact absurd hlength (by decide)
  · intro h
    exact absurd ((hrandom "RANDOM(###)" "٠٠٧").1 h) (by decide)

end Segment

end IdPattern
