import IdPattern.Proofs.Steps

/-!
# Reading accepts exactly the grammar

`Writes` says which texts write a list of segments, and `Pattern.parse` reads them. The two agree on
every text.

* **Completeness** (`Run.ofCursor_of_writes`): a text that writes `gs` is read as `gs` wherever it
  stands, and what comes after it is left to `Run.afterSegment`. Induction on the derivation, with
  one step of reading for each segment and each `+`.
* **Soundness** (`Run.writes_of_ofCursor`): a run without fault has a derivation behind it.
  Induction along the expression.
* **Uniqueness** comes from the two: reading is a function, so no text writes two lists of segments.
-/

namespace IdPattern

namespace Run

/-- What happens after a segment was completed. -/
def afterSegment (q : Cursor) : Run :=
  match q.joint with
  | .error e => ⟨[], some e⟩
  | .ok none => ⟨[], none⟩
  | .ok (some j) => ofCursor ⟨j.span, .trailingJoinOperator⟩ j.after

def afterAll (gs : List Segment) (r : Run) : Run := ⟨gs ++ r.completed, r.fault?⟩

/-- A run is a segment and what happens after it. -/
theorem ofCursor_eq (ifBlank : ParseError) (p : Cursor) :
    ofCursor ifBlank p =
      match p.segment with
      | .error e => ⟨[], some e⟩
      | .ok none => ⟨[], some ifBlank⟩
      | .ok (some (g, q)) => (afterSegment q).after g := by
  rw [ofCursor, Cursor.segment]
  -- `ofCursor` keeps its matches for the proof that it ends, so they are split and not rewritten
  split
  · next hf => rw [hf]
  · next hf => rw [hf]
  · next f hf =>
    rw [hf]
    dsimp only
    split
    · next hg =>
      rw [hg]
      rfl
    · next g q hg =>
      rw [hg]
      dsimp only [Except.map, afterSegment, Cursor.joint]
      split
      · next hj =>
        rw [hj]
        rfl
      · next hj =>
        rw [hj]
        rfl
      · next j hj =>
        rw [hj]
        dsimp only
        split <;> rfl

/-! ## Completeness -/

/-- Blanks before an expression only move its place. -/
theorem ofCursor_append {w : List Char} (h : IsBlankText w) (ifBlank : ParseError) (o : Nat)
    (cs : List Char) : ofCursor ifBlank ⟨o, w ++ cs⟩ = ofCursor ifBlank ⟨o + size w, cs⟩ := by
  rw [ofCursor_eq, ofCursor_eq ifBlank ⟨o + size w, cs⟩, Cursor.segment_append h]

/-- Where only blanks are left, the fault is the one that the caller names. -/
theorem ofCursor_of_blank {p : Cursor} (h : IsBlankText p.rest) (b : ParseError) :
    ofCursor b p = ⟨[], some b⟩ := by
  rw [ofCursor_eq, Cursor.segment_eq_none_iff.2 h]

/-- Blanks after a segment only move the place after them. -/
theorem afterSegment_append {w : List Char} (h : IsBlankText w) (o : Nat) (cs : List Char) :
    afterSegment ⟨o, w ++ cs⟩ = afterSegment ⟨o + size w, cs⟩ := by
  rw [afterSegment, afterSegment, Cursor.joint_append h]

theorem afterSegment_of_blank {w : List Char} (h : IsBlankText w) (o : Nat) :
    afterSegment ⟨o, w⟩ = ⟨[], none⟩ := by
  rw [afterSegment, Cursor.joint_eq_none_iff.2 h]

/-- After an operator a segment must follow, or the operator is at fault. -/
theorem afterSegment_plus (o : Nat) (cs : List Char) :
    afterSegment ⟨o, '+' :: cs⟩ =
      ofCursor ⟨.over o ['+'], .trailingJoinOperator⟩ ⟨o + size ['+'], cs⟩ := by
  rw [afterSegment, Cursor.joint_plus]

/-- A written segment is completed first, and the reading goes on after it. -/
theorem ofCursor_of_written {g : Segment} (hg : g.Written) (ifBlank : ParseError) (o : Nat)
    (rest : List Char) :
    ofCursor ifBlank ⟨o, g.rawText.toList ++ rest⟩ =
      (afterSegment ⟨o + size g.rawText.toList, rest⟩).after g := by
  rw [ofCursor_eq, Cursor.segment_of_written hg]

/-- A written text is read as its segments, at any place and before any rest. -/
theorem ofCursor_of_writes {gs : List Segment} {cs : List Char} (h : Writes gs cs)
    (ifBlank : ParseError) (o : Nat) (rest : List Char) :
    ofCursor ifBlank ⟨o, cs ++ rest⟩ = (afterSegment ⟨o + size cs, rest⟩).afterAll gs := by
  induction h generalizing ifBlank o with
  | @last before after g hb hg ha =>
    simp only [List.append_assoc]
    rw [ofCursor_append hb, ofCursor_of_written hg, afterSegment_append ha]
    simp only [size_append, Nat.add_assoc]
    rfl
  | @join before after cs g gs hb hg ha _ ih =>
    simp only [List.append_assoc, List.cons_append]
    rw [ofCursor_append hb, ofCursor_of_written hg, afterSegment_append ha, afterSegment_plus, ih]
    simp only [size_append, size_cons, size_nil, Nat.add_assoc, Nat.zero_add]
    rfl

/-! ## Soundness -/

/-- If a run is without fault, the text writes the segments that were completed. -/
theorem writes_of_ofCursor {gs : List Segment} {ifBlank : ParseError} {p : Cursor}
    (h : ofCursor ifBlank p = ⟨gs, none⟩) : Writes gs p.rest := by
  induction p using Cursor.joint_induction generalizing ifBlank gs with
  | step p ih =>
    rw [ofCursor_eq] at h
    split at h
    · simp at h
    · simp at h
    · next g q hg =>
      obtain ⟨hwritten, before, hb, hp, -⟩ := Cursor.written_of_segment hg
      rw [hp]
      unfold afterSegment at h
      split at h
      · simp [after] at h
      · next hj =>
        obtain rfl : [g] = gs := by simpa [after] using h
        exact .last hb hwritten (Cursor.joint_eq_none_iff.1 hj)
      · next j hj =>
        -- the segments after the operator are those of a shorter run without fault
        generalize hr : ofCursor ⟨j.span, .trailingJoinOperator⟩ j.after = r at h
        obtain ⟨hs, fault?⟩ := r
        obtain ⟨rfl, rfl⟩ : g :: hs = gs ∧ fault? = none := by simpa [after] using h
        have hrest := ih g q j hg hj hr
        obtain ⟨after, rest, ha, hq, rfl⟩ := Cursor.exists_plus_of_joint hj
        rw [hq, ← List.append_assoc]
        exact .join hb hwritten ha hrest

/-- A run is without fault exactly on the texts that write its segments. -/
theorem ofCursor_eq_iff {gs : List Segment} {ifBlank : ParseError} {p : Cursor} :
    ofCursor ifBlank p = ⟨gs, none⟩ ↔ Writes gs p.rest := by
  constructor
  · intro h
    exact writes_of_ofCursor h
  · intro h
    have hrun := ofCursor_of_writes h ifBlank p.offset []
    rw [List.append_nil, afterSegment_of_blank isBlankText_nil] at hrun
    simpa [afterAll] using hrun

/-- A run comes to a pattern exactly if it completed its segments without fault. -/
theorem result_eq_ok_iff {r : Run} {p : Pattern} : r.result = .ok p ↔ r = ⟨p.segments, none⟩ := by
  obtain ⟨gs, fault?⟩ := r
  cases fault? with
  | none =>
    constructor
    · rintro ⟨⟩
      rfl
    · rintro ⟨⟩
      rfl
  | some e => simp [result]

theorem result_eq_error_iff {r : Run} {e : ParseError} :
    r.result = .error e ↔ r.fault? = some e := by
  obtain ⟨gs, fault?⟩ := r
  cases fault? <;> simp [result]

end Run

namespace Pattern

/-- A pattern is read off the texts that write its segments. -/
theorem parse_eq_ok_iff {s : String} {p : Pattern} :
    parse s = .ok p ↔ Writes p.segments s.toList := by
  rw [parse, Run.result_eq_ok_iff]
  exact Run.ofCursor_eq_iff

/-! ## The grammar decides, and decides in one way -/

/-- **Reading accepts exactly the grammar**: a pattern is read off a text if and only if the text
writes its segments, and no text writes two different lists of segments. -/
theorem parse_iff_writes (s : String) :
    (∀ gs, parse s = .ok ⟨gs⟩ ↔ Writes gs s.toList) ∧
      ∀ gs hs, Writes gs s.toList → Writes hs s.toList → gs = hs := by
  constructor
  · intro gs
    exact parse_eq_ok_iff
  · intro gs hs hgs hhs
    have h₁ : parse s = .ok ⟨gs⟩ := parse_eq_ok_iff.2 hgs
    have h₂ : parse s = .ok ⟨hs⟩ := parse_eq_ok_iff.2 hhs
    simpa [h₁] using h₂

/-- Quotes, parentheses and a `+` inside a text separate nothing. -/
theorem parse_iff_writes_nested :
    Writes [⟨.text, "\"\\\" + RANDOM(X)\"", some "\" + RANDOM(X)"⟩] "\"\\\" + RANDOM(X)\" ".toList ∧
      ∀ hs, Writes hs "\"\\\" + RANDOM(X)\" ".toList →
        hs = [⟨.text, "\"\\\" + RANDOM(X)\"", some "\" + RANDOM(X)"⟩] := by
  obtain ⟨hiff, hunique⟩ := parse_iff_writes "\"\\\" + RANDOM(X)\" "
  have hparse : parse "\"\\\" + RANDOM(X)\" " =
      .ok ⟨[⟨.text, "\"\\\" + RANDOM(X)\"", some "\" + RANDOM(X)"⟩]⟩ :=
    Run.result_eq_ok_iff.2 (by decide +kernel)
  have hwrites := (hiff _).1 hparse
  exact ⟨hwrites, fun hs h => hunique _ _ h hwrites⟩

end Pattern

end IdPattern
