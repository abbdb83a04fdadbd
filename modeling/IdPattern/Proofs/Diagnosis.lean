import IdPattern.Proofs.Faults

/-!
# Where reading stops first

Two places of a text can be diagnosed from what stands there alone.

* **The first segment** (`Pattern.parse_first_segment`): the text from its first character on that
  is not blank either follows a rule of `SegmentFault`, and then this is the fault of the whole
  text, or it begins with a written segment, which is completed. The rules need no order among
  them: what one of them asks for excludes the others, so only one fault can be found.
* **After an expression** (`Pattern.parse_append_stray`): whatever was read before, a token that is
  no `+` is a fault where it begins. Only a quote looks further, for the quote that closes it.

Both places are reached by a lemma about runs that leaves the rest of the text open, so neither
proof goes along the expression again.
-/

namespace IdPattern

/-! ## The first segment -/

/-- A text that does not begin with a blank begins with a segment or is at fault there. -/
theorem segmentFault_or_written {c : Char} (hc : isBlank c = false) (cs : List Char) (o : Nat) :
    (∃ e : ParseError, e.Marks SegmentFault o (c :: cs)) ∨
      ∃ g rest, Segment.Written g ∧ c :: cs = g.rawText.toList ++ rest := by
  cases h : Cursor.segment ⟨o, c :: cs⟩ with
  | error e => exact .inl ⟨e, Cursor.marks_of_segment_cons hc h⟩
  | ok x? =>
    cases x? with
    | none =>
      have hblank : IsBlankText (c :: cs) := Cursor.segment_eq_none_iff.1 h
      simp [hblank c List.mem_cons_self] at hc
    | some x =>
      obtain ⟨hg, w, hw, hrest, -⟩ := Cursor.written_of_segment h
      -- blanks before the segment would begin with `c`
      cases w with
      | nil => exact .inr ⟨x.1, x.2.rest, hg, hrest⟩
      | cons d w =>
        obtain ⟨rfl, -⟩ := List.cons.inj hrest
        simp [hw c List.mem_cons_self] at hc

namespace Run

/-- A fault by the rules, at the first character that is no blank, ends the run at once. -/
theorem ofString_of_marks {w s : String} {e : ParseError} (hw : IsBlankText w.toList)
    (h : e.Marks SegmentFault w.utf8ByteSize s.toList) : ofString (w ++ s) = ⟨[], some e⟩ := by
  obtain ⟨cut, hcut, htext, hspan⟩ := h
  have hfails : Fails [] (cut.prepend w.toList) e.cause := .segment (.first hw) hcut
  apply ofString_eq_iff.2
  refine .inr ⟨_, hfails, ?_, ?_⟩
  · rw [Cut.text_prepend, htext, String.toList_append]
  · rw [hspan, Cut.span_prepend, Nat.zero_add, size_toList]

/-- A written segment at the first character that is no blank is completed. -/
theorem head?_completed_of_written {w s : String} {g : Segment} {rest : List Char}
    (hw : IsBlankText w.toList) (hg : g.Written) (hs : s.toList = g.rawText.toList ++ rest) :
    (ofString (w ++ s)).completed.head? = some g := by
  unfold ofString Cursor.ofString
  rw [String.toList_append, hs, ofCursor_append hw, ofCursor_of_written hg]
  rfl

end Run

namespace Pattern

/-- **A bad first segment is diagnosed exactly.** Let blanks `w` stand before a text `s` that begins
with none. A fault is found before any segment is completed exactly if it follows a rule of
`SegmentFault` in `s`: a quote is never closed, a name is that of no method, the parenthesis after
the name of a method is missing or never closed, an argument is missing, not wanted or leaves its
alphabet, or some other character stands there. In all other cases `s` begins with a written
segment, and this one is completed. -/
theorem parse_first_segment {w s : String} {c : Char} {cs : List Char} (hw : IsBlankText w.toList)
    (hs : s.toList = c :: cs) (hc : isBlank c = false) :
    (∀ e, e.Marks SegmentFault w.utf8ByteSize s.toList ↔
      parse (w ++ s) = .error e ∧ (Run.ofString (w ++ s)).completed = []) ∧
    ((∀ e, ¬ ParseError.Marks e SegmentFault w.utf8ByteSize s.toList) →
      ∃ g rest, Segment.Written g ∧ s.toList = g.rawText.toList ++ rest ∧
        (Run.ofString (w ++ s)).completed.head? = some g) := by
  have hcases := segmentFault_or_written hc cs w.utf8ByteSize
  rw [← hs] at hcases
  constructor
  · intro e
    constructor
    · intro h
      rw [parse, Run.ofString_of_marks hw h]
      exact ⟨rfl, rfl⟩
    · rintro ⟨he, hempty⟩
      rcases hcases with ⟨e', h⟩ | ⟨g, rest, hg, hrest⟩
      · -- the text has a fault by the rules, and no other one can be reported
        rw [parse, Run.ofString_of_marks hw h] at he
        cases he
        exact h
      · have hcompleted := Run.head?_completed_of_written hw hg hrest
        rw [hempty] at hcompleted
        cases hcompleted
  · intro hnone
    obtain ⟨g, rest, hg, hrest⟩ := hcases.resolve_left (not_exists.2 hnone)
    exact ⟨g, rest, hg, hrest, Run.head?_completed_of_written hw hg hrest⟩

/-- A parenthesis that is missing counts before a character that is not allowed, and the wide blank
takes three bytes, the `é` two. -/
theorem parse_first_segment_random :
    parse ("\u3000" ++ "RANDOM(#é") = .error ⟨⟨3, 13⟩, .unterminatedMethod (.method .random)⟩ ∧
      parse ("\u3000" ++ "RANDOM(#é)") =
        .error ⟨⟨11, 13⟩, .invalidArgumentCharacter (.method .random) 'é'⟩ ∧
      (Run.ofString ("\u3000" ++ "RANDOM(#)é")).completed.head? =
        some ⟨.method .random, "RANDOM(#)", some "#"⟩ := by
  have hw : IsBlankText "\u3000".toList := by decide
  have hends : ∀ cs, EndsName ('(' :: cs) := by
    rintro cs d ⟨⟩
    rfl
  refine ⟨?_, ?_, ?_⟩
  · obtain ⟨hfault, -⟩ := parse_first_segment (s := "RANDOM(#é") hw rfl (by decide)
    have hcall := CallFault.unclosed (m := .random) (a := ['#', 'é']) (by decide)
    exact ((hfault _).1 ⟨_, .call (hends _) rfl hcall, rfl, rfl⟩).1
  · obtain ⟨hfault, -⟩ := parse_first_segment (s := "RANDOM(#é)") hw rfl (by decide)
    have hcharacter : ArgumentFault .random ⟨['(', '#'], ['é'], [')']⟩
        (.invalidArgumentCharacter (.method .random) 'é') :=
      .character (a := ['#']) (b := []) rfl (by simp) (by decide)
    have hcall := @CallFault.argument .random ['#', 'é'] [] _ _ (by decide) rfl hcharacter
    exact ((hfault _).1 ⟨_, .call (hends _) rfl hcall, rfl, rfl⟩).1
  · obtain ⟨hfault, hcompleted⟩ := parse_first_segment (s := "RANDOM(#)é") hw rfl (by decide)
    have hrun : Run.ofString ("\u3000" ++ "RANDOM(#)é") =
        ⟨[⟨.method .random, "RANDOM(#)", some "#"⟩], some ⟨⟨12, 14⟩, .unexpectedToken 'é'⟩⟩ := by
      decide +kernel
    have hnone : ∀ e : ParseError, ¬ e.Marks SegmentFault 3 "RANDOM(#)é".toList := by
      intro e h
      have hempty := ((hfault e).1 h).2
      rw [hrun] at hempty
      cases hempty
    obtain ⟨g, rest, -, -, hg⟩ := hcompleted hnone
    rw [hg, ← hg, hrun]
    rfl

end Pattern

/-! ## After an expression -/

/-- An expression is read to its end, whatever follows it. -/
theorem Run.ofString_append_of_parse {e : String} {p : Pattern} (hp : Pattern.parse e = .ok p)
    (r : String) :
    ofString (e ++ r) =
      (afterSegment ⟨e.utf8ByteSize, r.toList⟩).afterAll p.segments := by
  unfold ofString Cursor.ofString
  rw [String.toList_append, ofCursor_of_writes (Pattern.parse_eq_ok_iff.1 hp), Nat.zero_add,
    size_toList]

namespace Pattern

/-- Where no operator can be read, an expression that has come to its end is at fault. -/
theorem parse_append_of_joint {e r : String} {p : Pattern} {err : ParseError}
    (hp : parse e = .ok p) (hr : Cursor.joint ⟨e.utf8ByteSize, r.toList⟩ = .error err) :
    parse (e ++ r) = .error err := by
  rw [parse, Run.ofString_append_of_parse hp, Run.afterSegment, hr]
  rfl

/-- **What follows an expression without a `+` is a fault right there.** A name is reported as far
as it goes and any other character alone, but for a quote that is never closed, which is reported to
the end of the text. -/
theorem parse_append_stray {e r : String} {p : Pattern} {c : Char} {cs : List Char}
    (hp : parse e = .ok p) (hr : r.toList = c :: cs) (hb : isBlank c = false) (hj : c ≠ '+') :
    (c = '"' → ¬ QuotesEscaped cs →
      parse (e ++ r) =
        .error ⟨⟨e.utf8ByteSize, e.utf8ByteSize + 1⟩, .unexpectedToken '"'⟩) ∧
    (c = '"' → QuotesEscaped cs →
      parse (e ++ r) =
        .error ⟨⟨e.utf8ByteSize, e.utf8ByteSize + r.utf8ByteSize⟩, .unterminatedText⟩) ∧
    (isNameChar c →
      parse (e ++ r) =
        .error ⟨.over e.utf8ByteSize (r.toList.takeWhile isNameChar), .unexpectedToken c⟩) ∧
    (c ≠ '"' → isNameChar c = false →
      parse (e ++ r) =
        .error ⟨⟨e.utf8ByteSize, e.utf8ByteSize + c.utf8Size⟩, .unexpectedToken c⟩) := by
  refine ⟨?_, ?_, ?_, ?_⟩
  · rintro rfl hclosed
    apply parse_append_of_joint hp
    rw [← splitQuoted_eq_none_iff, ← ne_eq, Option.ne_none_iff_exists'] at hclosed
    obtain ⟨x, hx⟩ := hclosed
    rw [hr, Cursor.joint_quote, hx]
    rfl
  · rintro rfl hopen
    apply parse_append_of_joint hp
    rw [hr, Cursor.joint_quote, splitQuoted_eq_none_iff.2 hopen, ← hr, size_toList]
  · intro hn
    apply parse_append_of_joint hp
    rw [hr, Cursor.joint_name hn, List.takeWhile_cons_of_pos hn]
  · intro hq hn
    apply parse_append_of_joint hp
    rw [hr, Cursor.joint_stray hb hj hq hn]
    rfl

/-- A second segment right after a blank is a fault by its name, and after a backslash a quote does
not close. -/
theorem parse_append_stray_name :
    parse ("\"é\" " ++ "RANDOM(#)") = .error ⟨⟨5, 11⟩, .unexpectedToken 'R'⟩ ∧
      parse ("\"é\" " ++ "\"\\\"é") = .error ⟨⟨5, 10⟩, .unterminatedText⟩ ∧
      parse ("\"é\" " ++ "\"\\\"\"é") = .error ⟨⟨5, 6⟩, .unexpectedToken '"'⟩ ∧
      parse ("\"é\" " ++ "é") = .error ⟨⟨5, 7⟩, .unexpectedToken 'é'⟩ := by
  have hp : parse "\"é\" " = .ok ⟨[⟨.text, "\"é\"", some "é"⟩]⟩ :=
    Run.result_eq_ok_iff.2 (by decide +kernel)
  refine ⟨?_, ?_, ?_, ?_⟩
  · exact (parse_append_stray hp rfl (by decide) (by decide)).2.2.1 rfl
  · have hopen : QuotesEscaped ['\\', '"', 'é'] := splitQuoted_eq_none_iff.1 rfl
    exact (parse_append_stray (r := "\"\\\"é") hp rfl (by decide) (by decide)).2.1 rfl hopen
  · have hclosed : ¬ QuotesEscaped ['\\', '"', '"', 'é'] := by
      rw [← splitQuoted_eq_none_iff]
      decide
    exact (parse_append_stray (r := "\"\\\"\"é") hp rfl (by decide) (by decide)).1 rfl hclosed
  · exact (parse_append_stray (r := "é") hp rfl (by decide) (by decide)).2.2.2 (by decide) rfl

end Pattern

end IdPattern
