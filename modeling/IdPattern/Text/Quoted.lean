import IdPattern.Text.Characters

/-!
# Quoted text

A text shown between double quotes, so that its ends and every character in it can be told. The
quote and the backslash get a backslash, four controls have letters of their own, and a character
that is not printable, or that would join the one before it, is written as its code point:
`\u{301}`. All others stand for themselves.

Code points are written and read in base sixteen. Written digits are small letters without leading
zeros; capital letters are read as well. The digits that are written for a number are read as that
number (`hexNumber?_hexDigits`), and what is read as a number contains nothing but digits.
-/

namespace IdPattern

/-! ### Hexadecimal digits -/

/-- A number in small hexadecimal digits, without leading zeros. -/
def hexDigits (n : Nat) : List Char := Nat.toDigits 16 n

def hexValue? (c : Char) : Option Nat :=
  if c.isDigit then some (c.toNat - '0'.toNat)
  else if 'a' ≤ c && c ≤ 'f' then some (c.toNat - 'a'.toNat + 10)
  else if 'A' ≤ c && c ≤ 'F' then some (c.toNat - 'A'.toNat + 10)
  else none

/-- The number that a list of hexadecimal digits stands for. -/
def hexNumber? (ds : List Char) : Option Nat :=
  ds.foldlM (fun n c => (hexValue? c).map (16 * n + ·)) 0

def charOfCode? (n : Nat) : Option Char :=
  if n.isValidChar then some (Char.ofNat n) else none

theorem hexValue?_digitChar {d : Nat} (h : d < 16) : hexValue? d.digitChar = some d := by
  have hall : ∀ d : Fin 16, hexValue? (Nat.digitChar d) = some d.val := by decide
  exact hall ⟨d, h⟩

/-- The digits that are written for a number are read as this number. -/
@[simp] theorem hexNumber?_hexDigits (n : Nat) : hexNumber? (hexDigits n) = some n := by
  induction n using Nat.strongRecOn with
  | _ n ih =>
    by_cases hn : n < 16
    · simp [hexDigits, Nat.toDigits_of_lt_base hn, hexNumber?, hexValue?_digitChar hn]
    · have hlast : n % 16 < 16 := Nat.mod_lt n (by decide)
      have hfront := ih (n / 16) (by omega)
      rw [hexNumber?, hexDigits] at hfront
      rw [hexDigits, Nat.toDigits_of_base_le (by decide) (by omega), hexNumber?, List.foldlM_append,
        hfront]
      simp [hexValue?_digitChar hlast, Nat.div_add_mod]

theorem exists_digitChar_of_mem_hexDigits {n : Nat} {c : Char} (h : c ∈ hexDigits n) :
    ∃ d < 16, c = d.digitChar := by
  induction n using Nat.strongRecOn with
  | _ n ih =>
    by_cases hn : n < 16
    · rw [hexDigits, Nat.toDigits_of_lt_base hn] at h
      exact ⟨n, hn, List.mem_singleton.1 h⟩
    · rw [hexDigits, Nat.toDigits_of_base_le (by decide) (by omega)] at h
      rcases List.mem_append.1 h with hfront | hlast
      · exact ih (n / 16) (by omega) hfront
      · exact ⟨n % 16, Nat.mod_lt n (by decide), List.mem_singleton.1 hlast⟩

/-- A character that is no digit is not written for any number. -/
theorem not_mem_hexDigits {n : Nat} {c : Char} (hc : ∀ d : Fin 16, Nat.digitChar d ≠ c) :
    c ∉ hexDigits n := by
  intro h
  obtain ⟨d, hd, rfl⟩ := exists_digitChar_of_mem_hexDigits h
  exact hc ⟨d, hd⟩ rfl

/-- A character is found again by its code point. -/
@[simp] theorem charOfCode?_toNat (c : Char) : charOfCode? c.toNat = some c := by
  have hvalid : c.toNat.isValidChar := c.valid
  rw [charOfCode?, if_pos hvalid, Char.ofNat_toNat]

/-- What is read as a number, after the digits of `m`, consists of digits. -/
theorem hexValue?_ne_none_of_hexNumber? {ds : List Char} {m n : Nat}
    (h : ds.foldlM (fun n c => (hexValue? c).map (16 * n + ·)) m = some n) :
    ∀ c ∈ ds, hexValue? c ≠ none := by
  induction ds generalizing m with
  | nil => simp
  | cons d ds ih =>
    intro c hc
    rw [List.foldlM_cons] at h
    obtain ⟨k, hk, hds⟩ := Option.bind_eq_some_iff.1 h
    rcases List.mem_cons.1 hc with rfl | hc
    · intro hnone
      simp [hnone] at hk
    · exact ih hds c hc

/-! ### Quotes -/

def quotedChar (c : Char) : List Char :=
  match c with
  | '"' => ['\\', '"']
  | '\\' => ['\\', '\\']
  | '\t' => ['\\', 't']
  | '\n' => ['\\', 'n']
  | '\r' => ['\\', 'r']
  | '\x00' => ['\\', '0']
  | c =>
    if isPrintable c && !isExtending c then [c]
    else ['\\', 'u', '{'] ++ hexDigits c.toNat ++ ['}']

def quoted (s : String) : String :=
  String.ofList ('"' :: (s.toList.flatMap quotedChar ++ ['"']))

end IdPattern
