import Mathlib.Data.List.TakeWhile
import IdPattern.Pattern.Grammar

/-!
# Runs of characters

Words, names and blanks are runs of characters of one sort, and they are taken as far as they go. A
run ends where the text does, or before a character of another sort.

A blank text in front of another one changes nothing but the place where that one begins: the
leading blanks grow by it and the text after them stays. Every text is either blank or splits
into blanks, a first character that is none, and the rest (`isBlankText_or_split`); this is the
case split that the readers of tokens and segments go by.
-/

namespace IdPattern

variable {p : Char → Bool} {w cs rest : List Char}

/-- A run is taken as a whole, and nothing of what follows it. -/
theorem takeWhile_run (hcs : ∀ c ∈ cs, p c) (hrest : ∀ c ∈ rest.head?, p c = false) :
    (cs ++ rest).takeWhile p = cs := by
  rw [List.takeWhile_append_of_pos hcs]
  cases rest with
  | nil => simp
  | cons c rest => simp [hrest c rfl]

/-- After a run the text goes on with what follows it. -/
theorem dropWhile_run (hcs : ∀ c ∈ cs, p c) (hrest : ∀ c ∈ rest.head?, p c = false) :
    (cs ++ rest).dropWhile p = rest := by
  rw [List.dropWhile_append_of_pos hcs]
  cases rest with
  | nil => simp
  | cons c rest => simp [hrest c rfl]

theorem head?_dropWhile (p : Char → Bool) (cs : List Char) :
    ∀ c ∈ (cs.dropWhile p).head?, p c = false := by
  intro c hc
  have hnot := List.head?_dropWhile_not p cs
  rw [hc] at hnot
  simpa using hnot

/-! ## Blanks -/

instance : DecidablePred IsBlankText :=
  fun _ => decidable_of_iff _ List.all_eq_true

@[simp] theorem isBlankText_nil : IsBlankText [] := by
  intro c hc
  cases hc

@[simp] theorem isBlankText_leadingBlanks (cs : List Char) : IsBlankText (leadingBlanks cs) :=
  fun _ => List.mem_takeWhile_imp

/-- Blanks before a text are leading blanks, with those the text begins with itself. -/
theorem IsBlankText.leadingBlanks_append (h : IsBlankText w) (cs : List Char) :
    leadingBlanks (w ++ cs) = w ++ leadingBlanks cs :=
  List.takeWhile_append_of_pos h

/-- Blanks before a text are passed over. -/
theorem IsBlankText.afterBlanks_append (h : IsBlankText w) (cs : List Char) :
    afterBlanks (w ++ cs) = afterBlanks cs :=
  List.dropWhile_append_of_pos h

theorem IsBlankText.append (hw : IsBlankText w) (hcs : IsBlankText cs) : IsBlankText (w ++ cs) := by
  intro c hc
  rcases List.mem_append.1 hc with h | h
  · exact hw c h
  · exact hcs c h

/-- Nothing is left after the blanks of a blank text, and only of a blank text. -/
@[simp] theorem afterBlanks_eq_nil_iff : afterBlanks cs = [] ↔ IsBlankText cs :=
  List.dropWhile_eq_nil_iff

/-- A text is blank, or its first character that is not blank can be pointed at. -/
theorem isBlankText_or_split (cs : List Char) :
    IsBlankText cs ∨ ∃ w c ds, IsBlankText w ∧ isBlank c = false ∧ cs = w ++ c :: ds := by
  cases h : afterBlanks cs with
  | nil => exact .inl (afterBlanks_eq_nil_iff.1 h)
  | cons c ds =>
    refine .inr ⟨leadingBlanks cs, c, ds, isBlankText_leadingBlanks cs, ?_, ?_⟩
    · have hc := List.head?_dropWhile_not isBlank cs
      rw [show cs.dropWhile isBlank = c :: ds from h] at hc
      simpa using hc
    · rw [← h, leadingBlanks_append_afterBlanks]

end IdPattern
