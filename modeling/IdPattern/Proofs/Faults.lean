import IdPattern.Pattern.Faults
import IdPattern.Proofs.Grammar

/-!
# Reading fails exactly by the grammar of faults

`Fails` says which texts are at fault, where, and after which segments. A run with a fault is one of
these or ends in blanks (`Run.ofString_eq_iff`).

At each level of the grammar, from the argument of a method outwards, there are two statements: a
fault that is reported is one of the grammar (`marks_of_...`), and a fault of the grammar is
reported (`..._of_argumentFault` and so on). The first go by the cases of the reader, the second by
the rules. For whole texts the first is an induction along the expression; the second is none, since
the text before the fault is read by `Run.ofCursor_of_writes`.
-/

namespace IdPattern

/-! ## Names -/

theorem endsName_dropWhile (cs : List Char) : EndsName (cs.dropWhile isNameChar) :=
  head?_dropWhile isNameChar cs

/-! ## Arguments -/

/-- Only one method takes no argument. -/
theorem Method.argument_eq_absent_iff {m : Method} : m.argument = .absent ↔ m = .orgUnitCode := by
  cases m <;> simp [argument]

/-- An empty argument is a fault of every other method. -/
theorem Method.fault?_nil {m : Method} (hne : m ≠ .orgUnitCode) (group : Nat) :
    m.fault? group [] = some ⟨.over group ['(', ')'], .emptyMethodArgument (.method m)⟩ := by
  cases m with
  | orgUnitCode => exact absurd rfl hne
  | sequential | random | currentDate => rfl

/-- What is found wrong with an argument is wrong by the grammar. -/
theorem Method.marks_of_fault? {m : Method} {group : Nat} {a : List Char} {e : ParseError}
    (h : m.fault? group a = some e) : e.Marks (ArgumentFault m) group ('(' :: (a ++ [')'])) := by
  by_cases hm : m = .orgUnitCode
  · subst hm
    cases a with
    | nil => cases h
    | cons c a =>
      cases h
      exact ⟨_, .surplus (List.cons_ne_nil c a), by simp, rfl⟩
  cases a with
  | nil =>
    rw [fault?_nil hm] at h
    cases h
    exact ⟨_, .empty hm, rfl, rfl⟩
  | cons d a =>
    unfold fault? at h
    cases harg : m.argument with
    | absent => exact absurd (argument_eq_absent_iff.1 harg) hm
    | free => simp [harg] at h
    | «over» alphabet =>
      simp only [harg] at h
      split at h
      · simp at h
      · next c b hdrop =>
        cases h
        have hc := List.head?_dropWhile_not (· ∈ alphabet) (d :: a)
        have hsplit := List.takeWhile_append_dropWhile (p := (· ∈ alphabet)) (l := d :: a)
        rw [hdrop] at hc hsplit
        refine ⟨_, .character (b := b) harg ?_ (by simpa using hc), ?_, rfl⟩
        · intro x hx
          simpa using List.mem_takeWhile_imp hx
        · simpa using congrArg ('(' :: · ++ [')']) hsplit

/-- What is wrong with an argument by the grammar is found. -/
theorem Method.fault?_of_argumentFault {m : Method} {cut : Cut} {k : Cause} {a : List Char}
    (h : ArgumentFault m cut k) (htext : cut.text = '(' :: (a ++ [')'])) (group : Nat) :
    m.fault? group a = some ⟨cut.span group, k⟩ := by
  cases h with
  | empty hne =>
    obtain rfl : a = [] := by simpa using htext.symm
    exact fault?_nil hne group
  | @surplus a' hne =>
    obtain rfl : a' = a := by simpa using htext
    cases a' with
    | nil => exact absurd rfl hne
    | cons c a => rfl
  | @character _ alphabet good b c harg hgood hc =>
    obtain rfl : good ++ c :: b = a := by
      have happend : good ++ c :: b ++ [')'] = a ++ [')'] := by simpa using htext
      exact List.append_cancel_right happend
    have hpos : ∀ d ∈ good, decide (d ∈ alphabet) = true := by simpa using hgood
    have hdrop : (good ++ c :: b).dropWhile (· ∈ alphabet) = c :: b := by
      rw [List.dropWhile_append_of_pos hpos]
      simp [hc]
    have htake : (good ++ c :: b).takeWhile (· ∈ alphabet) = good := by
      rw [List.takeWhile_append_of_pos hpos]
      simp [hc]
    -- `fault?` wants to see that the argument is not empty
    obtain ⟨d, ds, hds⟩ : ∃ d ds, good ++ c :: b = d :: ds := by
      cases good <;> simp
    unfold fault?
    simp only [harg]
    rw [hds] at hdrop htake ⊢
    simp only [hdrop, htake]
    rfl

/-! ## Calls -/

namespace Cursor

/-- Where no parenthesis follows the name, the blanks after it decide. -/
theorem call_of_not_open {p : Cursor} (h : ∀ ds, p.rest ≠ '(' :: ds) (m : Method) (start : Nat)
    (name : List Char) :
    p.call m start name =
      match p.skipBlanks.rest with
      | [] => .error ⟨⟨start, p.stop⟩, .unterminatedMethod (.method m)⟩
      | c :: _ => .error ⟨p.skipBlanks.spanOf c, .unexpectedToken c⟩ := by
  cases hr : p.skipBlanks.rest with
  | nil | cons =>
    unfold call
    simp only [hr]

/-- What is found wrong with a call is wrong by the grammar. -/
theorem marks_of_call {m : Method} {start : Nat} {cs : List Char} {e : ParseError}
    (h : call ⟨start + size m.name.toList, cs⟩ m start m.name.toList = .error e) :
    e.Marks (CallFault m) start (m.name.toList ++ cs) := by
  by_cases hopen : ∃ ds, cs = '(' :: ds
  · obtain ⟨ds, rfl⟩ := hopen
    unfold call at h
    simp only at h
    split at h
    · next hs =>
      cases h
      refine ⟨_, .unclosed (splitArgument_eq_none_iff.1 hs), by simp, ?_⟩
      simp [Span.over, Nat.add_assoc]
    · next a rest hs =>
      split at h
      · next e' hf =>
        cases h
        obtain ⟨rfl, ha⟩ := splitArgument_eq_some_iff.1 hs
        obtain ⟨cut, hcut, htext, hspan⟩ := Method.marks_of_fault? hf
        exact ⟨(cut.append rest).prepend m.name.toList, .argument ha htext hcut, by simp [htext],
          by simpa using hspan⟩
      · simp at h
  · rw [call_of_not_open (by simpa using hopen)] at h
    rcases isBlankText_or_split cs with hcs | ⟨w, c, ds, hw, hc, rfl⟩
    · rw [show (skipBlanks ⟨_, cs⟩).rest = [] from afterBlanks_eq_nil_iff.2 hcs] at h
      cases h
      refine ⟨_, .missing hcs, by simp, ?_⟩
      simp [Span.over, Nat.add_assoc]
    · rw [skipBlanks_append hw, skipBlanks_cons hc] at h
      cases h
      refine ⟨⟨m.name.toList ++ w, [c], ds⟩, .elsewhere hw hc ?_, by simp, ?_⟩
      · rintro rfl rfl
        exact hopen ⟨ds, rfl⟩
      · simp [spanOf, Nat.add_assoc]

/-- What is wrong with a call by the grammar is found. -/
theorem call_of_callFault {m : Method} {cut : Cut} {k : Cause} {cs : List Char}
    (h : CallFault m cut k) (htext : cut.text = m.name.toList ++ cs) (start : Nat) :
    call ⟨start + size m.name.toList, cs⟩ m start m.name.toList = .error ⟨cut.span start, k⟩ := by
  cases h with
  | @elsewhere w after c hw hc hopen =>
    obtain rfl : w ++ c :: after = cs := by simpa using htext
    have hcall : ∀ ds, w ++ c :: after ≠ '(' :: ds := by
      intro ds heq
      cases w with
      | nil => exact hopen rfl (List.cons.inj heq).1
      | cons d w =>
        obtain ⟨rfl, -⟩ := List.cons.inj heq
        exact absurd (hw '(' List.mem_cons_self) (by decide)
    rw [call_of_not_open hcall, skipBlanks_append hw, skipBlanks_cons hc]
    simp [spanOf, Nat.add_assoc]
  | @missing w hw =>
    obtain rfl : w = cs := by simpa using htext
    have hcall : ∀ ds, w ≠ '(' :: ds := by
      rintro ds rfl
      exact absurd (hw '(' List.mem_cons_self) (by decide)
    rw [call_of_not_open hcall, show (skipBlanks ⟨_, w⟩).rest = [] from afterBlanks_eq_nil_iff.2 hw]
    simp [Span.over, Nat.add_assoc]
  | @unclosed a ha =>
    obtain rfl : '(' :: a = cs := by simpa using htext
    simp only [call, splitArgument_eq_none_iff.2 ha]
    simp [Span.over, Nat.add_assoc]
  | @argument a after cut k ha hgroup hcut =>
    obtain rfl : '(' :: (a ++ ')' :: after) = cs := by simpa [hgroup] using htext
    have hs : splitArgument (a ++ ')' :: after) = some (a, after) :=
      splitArgument_eq_some_iff.2 ⟨rfl, ha⟩
    simp only [call, hs, Method.fault?_of_argumentFault hcut hgroup]
    simp

/-! ## Segments -/

/-- What is found wrong at a character that is no blank is wrong by the grammar. -/
theorem marks_of_segment_cons {c : Char} (hc : isBlank c = false) {o : Nat} {cs : List Char}
    {e : ParseError} (h : segment ⟨o, c :: cs⟩ = .error e) :
    e.Marks SegmentFault o (c :: cs) := by
  by_cases hq : c = '"'
  · subst hq
    rw [segment_quote] at h
    cases hs : splitQuoted cs with
    | none =>
      rw [hs] at h
      cases h
      exact ⟨_, .unclosedText (splitQuoted_eq_none_iff.1 hs), by simp, rfl⟩
    | some x => simp [hs] at h
  by_cases hn : isNameChar c = true
  · rw [segment_name hn] at h
    have hall : ∀ d ∈ cs.takeWhile isNameChar, isNameChar d := fun _ => List.mem_takeWhile_imp
    have hcs : c :: cs = (c :: cs.takeWhile isNameChar) ++ cs.dropWhile isNameChar := by
      rw [List.cons_append, List.takeWhile_append_dropWhile]
    dsimp only at h
    cases hm : Method.ofName? (String.ofList (c :: cs.takeWhile isNameChar)) with
    | none =>
      rw [hm] at h
      cases h
      refine ⟨_, .unknownName hn hall (endsName_dropWhile cs) ?_, by simp, rfl⟩
      intro m hname
      rw [← hname, String.ofList_toList, Method.ofName?_name] at hm
      cases hm
    | some m =>
      rw [hm] at h
      have hname : c :: cs.takeWhile isNameChar = m.name.toList := by
        rw [Method.name_of_ofName? hm, String.toList_ofList]
      rw [hname] at h hcs
      cases hcall : call ⟨o + size m.name.toList, cs.dropWhile isNameChar⟩ m o m.name.toList with
      | error e' =>
        simp only [hcall, Except.map, Except.error.injEq] at h
        subst h
        obtain ⟨cut, hcut, htext, hspan⟩ := marks_of_call hcall
        exact ⟨cut, .call (endsName_dropWhile cs) htext hcut, by rw [htext, hcs], hspan⟩
      | ok x => simp [hcall, Except.map] at h
  · rw [segment_other hc hq (by simpa using hn)] at h
    cases h
    exact ⟨_, .stray hc hq (by simpa using hn), rfl, rfl⟩

/-- The fault of a segment stands after blanks. -/
theorem marks_of_segment {p : Cursor} {e : ParseError} (h : p.segment = .error e) :
    ∃ w cs, IsBlankText w ∧ p.rest = w ++ cs ∧ e.Marks SegmentFault (p.offset + size w) cs := by
  obtain ⟨o, cs⟩ := p
  rcases isBlankText_or_split cs with hcs | ⟨w, c, ds, hw, hc, rfl⟩
  · have hnone : segment ⟨o, cs⟩ = .ok none := segment_eq_none_iff.2 hcs
    simp [hnone] at h
  · rw [segment_append hw] at h
    exact ⟨w, c :: ds, hw, rfl, marks_of_segment_cons hc h⟩

/-- What is wrong where a segment is wanted is found. -/
theorem segment_of_segmentFault {cut : Cut} {k : Cause} (h : SegmentFault cut k) (o : Nat) :
    segment ⟨o, cut.text⟩ = .error ⟨cut.span o, k⟩ := by
  cases h with
  | @stray c after hc hq hn =>
    simpa using segment_other hc hq hn o after
  | @unclosedText content hcontent =>
    simp [segment_quote, splitQuoted_eq_none_iff.2 hcontent, Span.over]
  | @unknownName c cs after hc hcs hafter hm =>
    have hof : Method.ofName? (String.ofList (c :: cs)) = none := by
      rw [Option.eq_none_iff_forall_ne_some]
      intro m hm'
      exact hm m (by rw [Method.name_of_ofName? hm', String.toList_ofList])
    simp only [Cut.text, List.nil_append, List.cons_append, segment_name hc,
      takeWhile_name_append hcs hafter, hof]
    rfl
  | @call m rest _ _ hrest htext hcut =>
    obtain ⟨c, cs, hname, hc, hcs⟩ := m.exists_head_name
    have hof : Method.ofName? (String.ofList (c :: cs)) = some m := by
      rw [← hname, String.ofList_toList, Method.ofName?_name]
    have hcall := call_of_callFault hcut htext o
    rw [htext]
    rw [hname] at hcall ⊢
    simp only [List.cons_append, segment_name hc, takeWhile_name_append hcs hrest,
      dropWhile_name_append hcs hrest, hof, hcall, Except.map]

/-! ## Operators -/

theorem marks_of_joint_cons {c : Char} (hc : isBlank c = false) {o : Nat} {cs : List Char}
    {e : ParseError} (h : joint ⟨o, c :: cs⟩ = .error e) : e.Marks JointFault o (c :: cs) := by
  by_cases hj : c = '+'
  · subst hj
    simp [joint_plus] at h
  by_cases hq : c = '"'
  · subst hq
    rw [joint_quote] at h
    cases hs : splitQuoted cs with
    | none =>
      rw [hs] at h
      cases h
      exact ⟨_, .unclosedText (splitQuoted_eq_none_iff.1 hs), by simp, rfl⟩
    | some x =>
      obtain ⟨content, rest⟩ := x
      rw [hs] at h
      cases h
      obtain ⟨rfl, hcontent⟩ := splitQuoted_eq_some_iff.1 hs
      exact ⟨⟨[], ['"'], content ++ '"' :: rest⟩,
        .text hcontent.quotesEscaped hcontent.getLast?_ne, rfl, rfl⟩
  by_cases hn : isNameChar c = true
  · rw [joint_name hn] at h
    cases h
    have hall : ∀ d ∈ cs.takeWhile isNameChar, isNameChar d := fun _ => List.mem_takeWhile_imp
    exact ⟨_, .name hn hall (endsName_dropWhile cs),
      by simp [List.takeWhile_append_dropWhile], rfl⟩
  · rw [joint_stray hc hj hq (by simpa using hn)] at h
    cases h
    exact ⟨_, .stray hc hj hq (by simpa using hn), rfl, rfl⟩

/-- The fault of an operator stands after blanks. -/
theorem marks_of_joint {q : Cursor} {e : ParseError} (h : q.joint = .error e) :
    ∃ w cs, IsBlankText w ∧ q.rest = w ++ cs ∧ e.Marks JointFault (q.offset + size w) cs := by
  obtain ⟨o, cs⟩ := q
  rcases isBlankText_or_split cs with hcs | ⟨w, c, ds, hw, hc, rfl⟩
  · have hnone : joint ⟨o, cs⟩ = .ok none := joint_eq_none_iff.2 hcs
    simp [hnone] at h
  · rw [joint_append hw] at h
    exact ⟨w, c :: ds, hw, rfl, marks_of_joint_cons hc h⟩

/-- What is wrong after a segment is found. -/
theorem joint_of_jointFault {cut : Cut} {k : Cause} (h : JointFault cut k) (o : Nat) :
    joint ⟨o, cut.text⟩ = .error ⟨cut.span o, k⟩ := by
  cases h with
  | @stray c after hb hj hq hn => simpa using joint_stray hb hj hq hn o after
  | @text content after hquotes hlast =>
    have hs : splitQuoted (content ++ '"' :: after) = some (content, after) :=
      splitQuoted_of_append ⟨hquotes, hlast⟩ rfl
    simp [joint_quote, hs]
  | @unclosedText content hcontent =>
    simp [joint_quote, splitQuoted_eq_none_iff.2 hcontent, Span.over]
  | @name c cs after hc hcs hafter =>
    simp [joint_name hc, takeWhile_name_append hcs hafter]

end Cursor

/-! ## Whole texts -/

namespace Run

/-- A text that fails is read up to its fault, at any place. -/
theorem ofCursor_of_fails {gs : List Segment} {cut : Cut} {k : Cause} (h : Fails gs cut k)
    (ifBlank : ParseError) (o : Nat) :
    ofCursor ifBlank ⟨o, cut.text⟩ = ⟨gs, some ⟨cut.span o, k⟩⟩ := by
  cases h with
  | segment hu hcut =>
    rw [Cut.text_prepend, Cut.span_prepend]
    cases hu with
    | first hw => rw [ofCursor_append hw, ofCursor_eq, Cursor.segment_of_segmentFault hcut]
    | @next _ u w hu hw =>
      rw [List.append_assoc, ofCursor_of_writes hu, List.cons_append, afterSegment_plus,
        ofCursor_append hw, ofCursor_eq, Cursor.segment_of_segmentFault hcut]
      simp [afterAll, Nat.add_assoc]
  | joint hu hcut =>
    rw [Cut.text_prepend, Cut.span_prepend, ofCursor_of_writes hu, afterSegment,
      Cursor.joint_of_jointFault hcut]
    simp [afterAll]
  | @trailing u w hu hw =>
    have htext : (Cut.mk u ['+'] w).text = u ++ '+' :: w := by simp
    rw [htext, ofCursor_of_writes hu, afterSegment_plus, ofCursor_of_blank hw]
    simp [afterAll]

end Run

/-- What was written before a text that fails counts among its segments. -/
theorem Fails.join {gs : List Segment} {cut : Cut} {k : Cause} {before after : List Char}
    {g : Segment} (hb : IsBlankText before) (hg : g.Written) (ha : IsBlankText after)
    (h : Fails gs cut k) :
    Fails (g :: gs) (cut.prepend (before ++ g.rawText.toList ++ after ++ ['+'])) k := by
  cases h with
  | @segment u cut _ hu hcut =>
    cases hu with
    | first hw =>
      have hfails := Fails.segment (.next (.last hb hg ha) hw) hcut
      simpa using hfails
    | next hu hw =>
      have hfails := Fails.segment (.next (.join hb hg ha hu) hw) hcut
      simpa using hfails
  | joint hu hcut =>
    have hfails := Fails.joint (.join hb hg ha hu) hcut
    simpa using hfails
  | trailing hu hw =>
    have hfails := Fails.trailing (.join hb hg ha hu) hw
    simpa using hfails

namespace Run

/-- A run with a fault ended in blanks where a segment was wanted, or in a text that fails. -/
theorem marks_of_ofCursor {gs : List Segment} {ifBlank e : ParseError} {p : Cursor}
    (h : ofCursor ifBlank p = ⟨gs, some e⟩) :
    (IsBlankText p.rest ∧ gs = [] ∧ e = ifBlank) ∨ e.Marks (Fails gs) p.offset p.rest := by
  induction p using Cursor.joint_induction generalizing ifBlank gs with
  | step p ih =>
    rw [ofCursor_eq] at h
    split at h
    · next hs =>
      cases h
      obtain ⟨w, cs, hw, hp, cut, hcut, htext, hspan⟩ := Cursor.marks_of_segment hs
      exact .inr ⟨_, .segment (.first hw) hcut, by simp [hp, htext], by simp [hspan]⟩
    · next hs =>
      cases h
      exact .inl ⟨Cursor.segment_eq_none_iff.1 hs, rfl, rfl⟩
    · next g q hg =>
      obtain ⟨hwritten, before, hb, hp, hoff⟩ := Cursor.written_of_segment hg
      unfold afterSegment at h
      split at h
      · next hj =>
        cases h
        obtain ⟨w, cs, hw, hq, cut, hcut, htext, hspan⟩ := Cursor.marks_of_joint hj
        exact .inr ⟨_, .joint (.last hb hwritten hw) hcut, by simp [hp, hq, htext],
          by simp [hspan, hoff, Nat.add_assoc]⟩
      · cases h
      · next j hj =>
        -- the fault after the operator is that of a shorter run
        generalize hr : ofCursor ⟨j.span, .trailingJoinOperator⟩ j.after = r at h
        obtain ⟨hs, fault?⟩ := r
        obtain ⟨rfl, rfl⟩ : g :: hs = gs ∧ fault? = some e := by simpa [after] using h
        have hrest := ih g q j hg hj hr
        obtain ⟨after, rest, ha, hq, rfl⟩ := Cursor.exists_plus_of_joint hj
        right
        rcases hrest with ⟨hblank, rfl, rfl⟩ | ⟨cut, hcut, htext, hspan⟩
        · exact ⟨_, .trailing (.last hb hwritten ha) hblank, by simp [hp, hq],
            by simp [hoff, Nat.add_assoc]⟩
        · exact ⟨_, hcut.join hb hwritten ha, by simp [hp, hq, htext],
            by simp [hspan, hoff, Nat.add_assoc]⟩

/-- **Reading fails exactly by the grammar of faults**: the segments that are completed, the span
and the cause are those of the grammar, and a text of blanks has a fault of its own. -/
theorem ofString_eq_iff {s : String} {gs : List Segment} {e : ParseError} :
    ofString s = ⟨gs, some e⟩ ↔
      (IsBlankText s.toList ∧ gs = [] ∧ e = ⟨⟨0, s.utf8ByteSize⟩, .emptyExpression⟩) ∨
        e.Marks (Fails gs) 0 s.toList := by
  have hstop : (Cursor.ofString s).stop = s.utf8ByteSize := by
    simp [Cursor.ofString, size_toList]
  rw [ofString, hstop]
  constructor
  · exact marks_of_ofCursor
  · rintro (⟨hs, rfl, rfl⟩ | ⟨cut, hcut, htext, hspan⟩)
    · exact ofCursor_of_blank hs _
    · have hrun := ofCursor_of_fails hcut ⟨⟨0, s.utf8ByteSize⟩, .emptyExpression⟩ 0
      rw [htext, ← hspan] at hrun
      exact hrun

end Run

end IdPattern
