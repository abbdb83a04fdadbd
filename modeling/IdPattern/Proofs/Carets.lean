import IdPattern.Proofs.FaultSpans
import IdPattern.Report

/-!
# Where the caret of a fault stands

The report shows an expression at fault on a line of its own, and a caret on the next one. The caret
is meant to stand below the first character of the fault, so there should be as many spaces before it
as there are characters before the fault. But the report counts bytes: the indentation is the `size`
of the text before the fault.

A character takes one byte if it is one of ASCII and more if it is not. So the caret stands in the
right column if and only if all characters before the fault are of ASCII, and too far to the right in
every other report (`caret_below_iff`).
-/

namespace IdPattern

/-! ## Characters of one byte -/

/-- The characters of one byte are those of ASCII. -/
theorem utf8Size_eq_one_iff {c : Char} : c.utf8Size = 1 ↔ c.toNat < 0x80 := by
  rw [Char.utf8Size_eq_one_iff, UInt32.le_iff_toNat_le]
  exact Nat.lt_succ_iff.symm

/-- A text has at least as many bytes as characters. -/
theorem length_le_size (cs : List Char) : cs.length ≤ size cs := by
  induction cs with
  | nil => exact Nat.le_refl 0
  | cons c cs ih =>
    have hc := c.utf8Size_pos
    rw [List.length_cons, size_cons]
    omega

/-- Characters and bytes are equally many only in texts of ASCII. -/
theorem size_eq_length_iff {cs : List Char} :
    size cs = cs.length ↔ ∀ c ∈ cs, c.toNat < 0x80 := by
  induction cs with
  | nil => simp
  | cons c cs ih =>
    have hc := c.utf8Size_pos
    have hcs := length_le_size cs
    -- neither side can make up for the other, as a character has never less than one byte
    have hsplit : size (c :: cs) = (c :: cs).length ↔ c.utf8Size = 1 ∧ size cs = cs.length := by
      rw [List.length_cons, size_cons]
      omega
    rw [hsplit, ih, utf8Size_eq_one_iff, List.forall_mem_cons]

namespace Report

/-! ## Lines of the report -/

def indentation (line : String) : Nat := (line.toList.takeWhile (· == ' ')).length

def caretLine (e : ParseError) : String := indent e ++ "^ " ++ e.cause.message

@[simp] theorem toList_caretLine (e : ParseError) :
    (caretLine e).toList =
      List.replicate e.offset ' ' ++ '^' :: ' ' :: e.cause.message.toList := by
  simp [caretLine, indent]

/-- The caret stands behind as many spaces as there are bytes before the fault. -/
@[simp] theorem indentation_caretLine (e : ParseError) : indentation (caretLine e) = e.offset := by
  have hspaces : ∀ c ∈ List.replicate e.offset ' ', (c == ' ') = true := by
    intro c hc
    rw [List.eq_of_mem_replicate hc]
    rfl
  have hcaret : ('^' :: ' ' :: e.cause.message.toList).takeWhile (· == ' ') = [] := rfl
  rw [indentation, toList_caretLine, List.takeWhile_append_of_pos hspaces, hcaret, List.append_nil,
    List.length_replicate]

/-- An expression at fault is shown with the line of its caret below. -/
theorem expressionLines_of_error {expression : String} {e : ParseError}
    (h : Pattern.parse expression = .error e) :
    expressionLines expression = [expression, caretLine e] := by
  rw [expressionLines, h]
  rfl

/-- The lines of each expression stand together in the report. -/
theorem exists_lines_eq {expressions : List String} {expression : String}
    (h : expression ∈ expressions) :
    ∃ earlier later, lines expressions = earlier ++ expressionLines expression ++ later := by
  obtain ⟨front, back, rfl⟩ := List.append_of_mem h
  -- before it stand the lines of the sample, and those of the expressions in front of it
  exact ⟨s!"Compile time pattern {sample.expression}" :: patternLines sample ++
      valuesLine sample sampleValues :: front.flatMap expressionLines,
    back.flatMap expressionLines, by simp [lines]⟩

/-! ## The column of the caret -/

/-- **The caret stands below the fault if and only if there is nothing but ASCII before it.** An
expression at fault is shown on a line, and the next line has the caret and the cause. There are as
many spaces before the caret as bytes before the fault: never too few, and as many as there are
characters only if each of them is of ASCII. -/
theorem caret_below_iff {expressions : List String} {expression : String} {e : ParseError}
    (hmem : expression ∈ expressions) (h : Pattern.parse expression = .error e) :
    ∃ (cut : Cut) (line : String) (earlier later : List String),
      cut.text = expression.toList ∧ e.span = cut.span 0 ∧ cut.Shows e.cause ∧
      lines expressions = earlier ++ [expression, line] ++ later ∧
      line.toList =
        List.replicate (indentation line) ' ' ++ '^' :: ' ' :: e.cause.message.toList ∧
      indentation line = size cut.before ∧ cut.before.length ≤ indentation line ∧
      (indentation line = cut.before.length ↔ ∀ c ∈ cut.before, c.toNat < 0x80) := by
  obtain ⟨cut, htext, hspan, hshows⟩ := Pattern.exists_cut_of_parse h
  obtain ⟨earlier, later, hlines⟩ := exists_lines_eq hmem
  rw [expressionLines_of_error h] at hlines
  have hoffset : e.offset = size cut.before := by
    rw [ParseError.offset, hspan]
    exact Nat.zero_add _
  have hindentation : indentation (caretLine e) = size cut.before := by
    rw [indentation_caretLine, hoffset]
  refine ⟨cut, caretLine e, earlier, later, htext, hspan, hshows, hlines, ?_, hindentation, ?_, ?_⟩
  · rw [indentation_caretLine]
    exact toList_caretLine e
  · rw [hindentation]
    exact length_le_size cut.before
  · rw [hindentation]
    exact size_eq_length_iff

/-- A character of two bytes at the fault itself does no harm. -/
theorem caret_below_iff_umlaut :
    "\"a\" ä" ∈ ["SEQUENTIAL(#)", "\"a\" ä"] ∧
      Pattern.parse "\"a\" ä" = .error ⟨⟨4, 6⟩, .unexpectedToken 'ä'⟩ ∧
      ∃ line earlier later,
        lines ["SEQUENTIAL(#)", "\"a\" ä"] = earlier ++ ["\"a\" ä", line] ++ later ∧
          indentation line = 4 := by
  have hmem : "\"a\" ä" ∈ ["SEQUENTIAL(#)", "\"a\" ä"] := by simp
  have h : Pattern.parse "\"a\" ä" = .error ⟨⟨4, 6⟩, .unexpectedToken 'ä'⟩ :=
    Run.result_eq_error_iff.2 (by decide +kernel)
  obtain ⟨cut, line, earlier, later, -, hspan, -, hlines, -, hindentation, -⟩ :=
    caret_below_iff hmem h
  obtain ⟨hstart, -⟩ : size cut.before = 4 ∧ size cut.before + size cut.inside = 6 := by
    simpa [Cut.span, Span.over] using hspan.symm
  exact ⟨hmem, h, line, earlier, later, hlines, hindentation.trans hstart⟩

/-- Not every caret stands below its fault: an `ä` between the quotes of a text moves it one column
to the right. -/
theorem caret_not_below :
    Pattern.parse "\"ä\" x" = .error ⟨⟨5, 6⟩, .unexpectedToken 'x'⟩ ∧
      expressionLines "\"ä\" x" = ["\"ä\" x", "     ^ unexpected token 'x'"] ∧
      ¬ ∀ expression e, '\n' ∉ expression.toList → '\r' ∉ expression.toList →
        Pattern.parse expression = .error e →
        ∀ before after, expression.toList = before ++ after → size before = e.offset →
          ∃ line, expressionLines expression = [expression, line] ∧
            indentation line = before.length := by
  have hparse : Pattern.parse "\"ä\" x" = .error ⟨⟨5, 6⟩, .unexpectedToken 'x'⟩ :=
    Run.result_eq_error_iff.2 (by decide +kernel)
  have hlines := expressionLines_of_error hparse
  have hcaret : caretLine ⟨⟨5, 6⟩, .unexpectedToken 'x'⟩ = "     ^ unexpected token 'x'" := by
    decide
  rw [hcaret] at hlines
  refine ⟨hparse, hlines, fun h => ?_⟩
  -- four characters stand before the `x`
  obtain ⟨line, hline, hcolumn⟩ :=
    h _ _ (by decide) (by decide) hparse ['"', 'ä', '"', ' '] ['x'] (by decide) (by decide)
  rw [hlines] at hline
  cases hline
  exact absurd hcolumn (by decide)

end Report

end IdPattern
