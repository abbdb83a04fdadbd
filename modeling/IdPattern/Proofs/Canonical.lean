import IdPattern.Proofs.Grammar

/-!
# Canonical expressions

The expression of a pattern joins the raw texts of its segments by `+`. It reads as that pattern
exactly if the pattern has a segment and each of its segments is a written one
(`Pattern.parse_expression_eq_ok_iff`). A pattern built by hand may hold anything: a raw text such
as `"A" + "B"` reads well, but never as one segment, so no other way to cut the expression into
segments can make up for it.
-/

namespace IdPattern

/-! ## What a written text says about its segments -/

theorem Writes.ne_nil {gs : List Segment} {cs : List Char} (h : Writes gs cs) : gs ≠ [] := by
  cases h <;> simp

/-- Only written segments are written by a text. -/
theorem Writes.written {gs : List Segment} {cs : List Char} (h : Writes gs cs) :
    ∀ g ∈ gs, g.Written := by
  induction h with
  | last _ hg _ => simpa using hg
  | join _ hg _ _ ih =>
    intro g hmem
    rcases List.mem_cons.1 hmem with rfl | hmem
    · exact hg
    · exact ih g hmem

theorem Writes.append_left {w cs : List Char} {gs : List Segment} (hw : IsBlankText w)
    (h : Writes gs cs) : Writes gs (w ++ cs) := by
  cases h with
  | last hb hg ha =>
    simp only [← List.append_assoc]
    exact .last (hw.append hb) hg ha
  | join hb hg ha hrest =>
    simp only [← List.append_assoc]
    exact .join (hw.append hb) hg ha hrest

/-! ## Segments alone -/

/-- The raw text of a written segment writes this segment alone. -/
theorem Segment.Written.writes {g : Segment} (h : g.Written) : Writes [g] g.rawText.toList := by
  simpa using Writes.last isBlankText_nil h isBlankText_nil

/-- A segment is a written one if its raw text reads as this segment alone. -/
theorem Segment.written_iff_parse {g : Segment} :
    g.Written ↔ Pattern.parse g.rawText = .ok ⟨[g]⟩ := by
  rw [Pattern.parse_eq_ok_iff]
  constructor
  · intro h
    exact h.writes
  · intro h
    exact h.written g (by simp)

/-! ## Joined segments -/

namespace Pattern

/-- The first raw text is followed by the joiner and the expression of the others. -/
theorem expression_cons (g : Segment) {gs : List Segment} (hne : gs ≠ []) :
    expression ⟨g :: gs⟩ = g.rawText ++ " + " ++ expression ⟨gs⟩ :=
  String.intercalate_cons_of_ne_nil (by simpa using hne)

/-- The expression of written segments writes these segments. -/
theorem writes_expression {gs : List Segment} (hne : gs ≠ []) (h : ∀ g ∈ gs, g.Written) :
    Writes gs (expression ⟨gs⟩).toList := by
  induction gs with
  | nil => exact absurd rfl hne
  | cons g gs ih =>
    have hg : g.Written := h g (by simp)
    by_cases hgs : gs = []
    · subst hgs
      simpa [expression] using hg.writes
    · -- one space of the joiner stands after this segment, the other before the next
      have hspace : IsBlankText [' '] := by decide
      have hrest := ih hgs fun g' hg' => h g' (List.mem_cons_of_mem _ hg')
      have hwrites := Writes.join isBlankText_nil hg hspace (hrest.append_left hspace)
      simpa [expression_cons g hgs] using hwrites

/-- The expression of a pattern is read as this pattern exactly if there are segments and all are
written ones. -/
theorem parse_expression_eq_ok_iff {p : Pattern} :
    parse p.expression = .ok p ↔ p.segments ≠ [] ∧ ∀ g ∈ p.segments, g.Written := by
  rw [parse_eq_ok_iff]
  constructor
  · intro h
    exact ⟨h.ne_nil, h.written⟩
  · rintro ⟨hne, h⟩
    exact writes_expression hne h

/-- **Reading the canonical expression again.** A pattern that was read is given back by its
expression, and each of its segments by its raw text. A pattern built by hand is given back exactly
if it has a segment and each of its segments is given back by its raw text. -/
theorem parse_expression_iff :
    (∀ s p, parse s = .ok p →
      (∀ g ∈ p.segments, parse g.rawText = .ok ⟨[g]⟩) ∧ parse p.expression = .ok p) ∧
    ∀ gs : List Segment, parse (expression ⟨gs⟩) = .ok ⟨gs⟩ ↔
      gs ≠ [] ∧ ∀ g ∈ gs, parse g.rawText = .ok ⟨[g]⟩ := by
  constructor
  · intro s p hp
    have hwrites := parse_eq_ok_iff.1 hp
    constructor
    · intro g hg
      exact Segment.written_iff_parse.1 (hwrites.written g hg)
    · exact parse_expression_eq_ok_iff.2 ⟨hwrites.ne_nil, hwrites.written⟩
  · intro gs
    simp only [parse_expression_eq_ok_iff, Segment.written_iff_parse]

/-- The operator inside a segment joins nothing, whether the segment was read or built by hand. -/
theorem parse_expression_iff_inner_plus :
    parse "\"+\"+CURRENT_DATE( + )" =
        .ok ⟨[⟨.text, "\"+\"", some "+"⟩,
          ⟨.method .currentDate, "CURRENT_DATE( + )", some " + "⟩]⟩ ∧
      parse "\"+\" + CURRENT_DATE( + )" =
        .ok ⟨[⟨.text, "\"+\"", some "+"⟩,
          ⟨.method .currentDate, "CURRENT_DATE( + )", some " + "⟩]⟩ ∧
      parse (expression ⟨[⟨.text, "\"A\" + \"B\"", some "A"⟩]⟩) ≠
        .ok ⟨[⟨.text, "\"A\" + \"B\"", some "A"⟩]⟩ := by
  obtain ⟨hread, hbuilt⟩ := parse_expression_iff
  have hs : parse "\"+\"+CURRENT_DATE( + )" =
      .ok ⟨[⟨.text, "\"+\"", some "+"⟩,
        ⟨.method .currentDate, "CURRENT_DATE( + )", some " + "⟩]⟩ :=
    Run.result_eq_ok_iff.2 (by decide +kernel)
  refine ⟨hs, (hread _ _ hs).2, fun h => ?_⟩
  have halone := ((hbuilt _).1 h).2 _ (List.mem_singleton.2 rfl)
  have htwo : parse "\"A\" + \"B\"" =
      .ok ⟨[⟨.text, "\"A\"", some "A"⟩, ⟨.text, "\"B\"", some "B"⟩]⟩ :=
    Run.result_eq_ok_iff.2 (by decide +kernel)
  simp [htwo] at halone

end Pattern

end IdPattern
