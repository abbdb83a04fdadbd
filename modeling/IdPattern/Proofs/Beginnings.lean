import Mathlib.Data.Nat.Find
import IdPattern.Pattern.Log
import IdPattern.Proofs.FaultSpans

/-!
# A text and its beginnings

Reading goes from left to right, and two laws say what that means.

* **Final faults** (`Pattern.parse_append_of_isFinal`): once a token has come to its end, a fault
  that it causes does not depend on what follows. On the grammar of faults this is plain, since
  `Cut.append` changes nothing that a rule asks for, but for names, which more letters could
  lengthen, and for what was never closed.
* **The longest reading** (`Pattern.log_eq_longest`): the segments that a run completes, with or
  without a fault, are those of the longest beginning of the text that reads as a pattern. A longer
  beginning cannot add a segment that the run does not complete, for it is read the same way.
-/

namespace IdPattern

/-! ## Final faults -/

/-- A fault that the end of the text has no part in. A name that ends where the text ends could go
on. -/
def Cut.IsSettled (cut : Cut) : Cause → Prop
  | .emptyMethodArgument _ | .invalidArgumentCharacter .. | .unexpectedMethodArgument _ => True
  | .unexpectedToken _ => cut.after ≠ [] ∨ BeginsName cut.inside
  | .emptyExpression | .unterminatedText | .unterminatedMethod _ | .trailingJoinOperator => False

@[simp] theorem Cut.isSettled_prepend {cut : Cut} {u : List Char} {k : Cause} :
    (cut.prepend u).IsSettled k ↔ cut.IsSettled k := by
  cases k <;> exact Iff.rfl

/-- What a text goes on with shows in its first character, if it has one. -/
theorem EndsName.append {cs : List Char} (h : EndsName cs) (hne : cs ≠ []) (t : List Char) :
    EndsName (cs ++ t) := by
  cases cs with
  | nil => exact absurd rfl hne
  | cons c cs => exact h

/-- A settled fault of a call is one of every longer text. -/
theorem CallFault.append {m : Method} {cut : Cut} {k : Cause} (h : CallFault m cut k)
    (hk : cut.IsSettled k) (t : List Char) : CallFault m (cut.append t) k := by
  cases h with
  | elsewhere hw hc hopen => exact .elsewhere hw hc hopen
  | missing hw => exact hk.elim
  | unclosed ha => exact hk.elim
  | argument ha htext hcut =>
    rw [Cut.append_prepend, Cut.append_append]
    exact .argument ha htext hcut

/-- Whatever is wrong with a call and cannot be mended by a longer text, there is something after
the name. -/
theorem CallFault.rest_ne_nil {m : Method} {cut : Cut} {k : Cause} {rest : List Char}
    (h : CallFault m cut k) (hk : cut.IsSettled k) (htext : cut.text = m.name.toList ++ rest) :
    rest ≠ [] := by
  rintro rfl
  cases h with
  | elsewhere hw hc hopen => simp at htext
  | missing hw => exact hk.elim
  | unclosed ha => exact hk.elim
  | argument ha hgroup hcut => simp [hgroup] at htext

/-- Behind a name, its letters would go on. -/
theorem not_beginsName_of_all {c : Char} {cs : List Char} (hc : isNameChar c)
    (hcs : ∀ d ∈ cs, isNameChar d) : ¬ BeginsName (c :: cs) := by
  intro h
  have hlast := List.getLast?_eq_some_getLast (List.cons_ne_nil c cs)
  have hname : isNameChar ((c :: cs).getLast (List.cons_ne_nil c cs)) := by
    rcases List.mem_cons.1 (List.getLast_mem (List.cons_ne_nil c cs)) with heq | hmem
    · rw [heq]
      exact hc
    · exact hcs _ hmem
  simp [h _ hlast] at hname

/-- A settled fault where a segment is wanted is one of every longer text. -/
theorem SegmentFault.append {cut : Cut} {k : Cause} (h : SegmentFault cut k)
    (hk : cut.IsSettled k) (t : List Char) : SegmentFault (cut.append t) k := by
  cases h with
  | stray hb hq hn => exact .stray hb hq hn
  | unclosedText hcontent => exact hk.elim
  | unknownName hc hcs hafter hm =>
    have hne := hk.resolve_right (not_beginsName_of_all hc hcs)
    exact .unknownName hc hcs (hafter.append hne t) hm
  | call hrest htext hcut =>
    have hne := hcut.rest_ne_nil hk htext
    exact .call (hrest.append hne t) (by simp [htext]) (hcut.append hk t)

theorem JointFault.append {cut : Cut} {k : Cause} (h : JointFault cut k) (hk : cut.IsSettled k)
    (t : List Char) : JointFault (cut.append t) k := by
  cases h with
  | stray hb hj hq hn => exact .stray hb hj hq hn
  | @text content after hquotes hlast =>
    have hfault : JointFault ⟨[], ['"'], content ++ '"' :: (after ++ t)⟩ (.unexpectedToken '"') :=
      .text hquotes hlast
    simpa using hfault
  | unclosedText hcontent => exact hk.elim
  | name hc hcs hafter =>
    have hne := hk.resolve_right (not_beginsName_of_all hc hcs)
    exact .name hc hcs (hafter.append hne t)

/-- A settled fault is one of every longer text. -/
theorem Fails.append {gs : List Segment} {cut : Cut} {k : Cause} (h : Fails gs cut k)
    (hk : cut.IsSettled k) (t : List Char) : Fails gs (cut.append t) k := by
  cases h with
  | segment hu hcut => exact .segment hu (hcut.append (Cut.isSettled_prepend.1 hk) t)
  | joint hu hcut => exact .joint hu (hcut.append (Cut.isSettled_prepend.1 hk) t)
  | trailing hu hw => exact hk.elim

/-- A fault of the text `s` that does not depend on the end of the text. -/
def ParseError.IsFinal (e : ParseError) (s : String) : Prop :=
  match e.cause with
  | .emptyMethodArgument _ | .invalidArgumentCharacter .. | .unexpectedMethodArgument _ => True
  | .unexpectedToken _ => e.span.stop < s.utf8ByteSize ∨ BeginsName s.toList
  | .emptyExpression | .unterminatedText | .unterminatedMethod _ | .trailingJoinOperator => False

theorem BeginsName.of_append {u v : List Char} (h : BeginsName (u ++ v)) : BeginsName v := by
  intro c hc
  exact h c (by simp [List.getLast?_append, Option.mem_def.1 hc])

/-- A final fault is settled. The end of its span tells whether anything follows it. -/
theorem ParseError.IsFinal.isSettled {e : ParseError} {s : String} (h : e.IsFinal s) {cut : Cut}
    (htext : cut.text = s.toList) (hspan : e.span = cut.span 0) : cut.IsSettled e.cause := by
  obtain ⟨span, k⟩ := e
  cases k with
  | emptyMethodArgument | invalidArgumentCharacter | unexpectedMethodArgument => trivial
  | emptyExpression | unterminatedText | unterminatedMethod | trailingJoinOperator => exact h
  | unexpectedToken c =>
    by_cases hafter : cut.after = []
    · right
      rcases h with hlt | hlast
      · -- the span would end where the text does
        obtain rfl : span = cut.span 0 := hspan
        have hsize : (cut.span 0).stop = s.utf8ByteSize := by
          rw [← size_toList, ← htext, Cut.text, hafter]
          simp [Cut.span]
        exact absurd hsize (Nat.ne_of_lt hlt)
      · rw [← htext, Cut.text, hafter, List.append_nil] at hlast
        exact hlast.of_append
    · exact .inl hafter

/-- **A fault before the end of the text is final**: whatever follows, it is found at the same place
and for the same cause. -/
theorem Pattern.parse_append_of_isFinal {s : String} {e : ParseError} (h : parse s = .error e)
    (hfinal : e.IsFinal s) (t : String) : parse (s ++ t) = .error e := by
  rw [parse, Run.result_eq_error_iff] at h ⊢
  generalize hrun : Run.ofString s = r at h
  obtain ⟨gs, fault?⟩ := r
  obtain rfl : fault? = some e := h
  rcases Run.ofString_eq_iff.1 hrun with ⟨-, -, rfl⟩ | ⟨cut, hcut, htext, hspan⟩
  · exact hfinal.elim
  · have hfails := hcut.append (hfinal.isSettled htext hspan) t.toList
    have hlonger : Run.ofString (s ++ t) = ⟨gs, some e⟩ :=
      Run.ofString_eq_iff.2 (.inr ⟨_, hfails, by simp [htext], hspan⟩)
    rw [hlonger]

/-- The letters after `UNKNOWN` are settled by the blank, and those after `RANDOM` by the digit. -/
theorem Pattern.parse_append_of_isFinal_names :
    parse ("\"é\" + UNKNOWN " ++ "(#)") = .error ⟨⟨7, 14⟩, .unexpectedToken 'U'⟩ ∧
      parse ("RANDOM(#S)" ++ " + \"") =
        .error ⟨⟨8, 9⟩, .invalidArgumentCharacter (.method .random) 'S'⟩ := by
  have hname : parse "\"é\" + UNKNOWN " = .error ⟨⟨7, 14⟩, .unexpectedToken 'U'⟩ :=
    Run.result_eq_error_iff.2 (by decide +kernel)
  have hargument : parse "RANDOM(#S)" =
      .error ⟨⟨8, 9⟩, .invalidArgumentCharacter (.method .random) 'S'⟩ :=
    Run.result_eq_error_iff.2 (by decide +kernel)
  constructor
  · exact parse_append_of_isFinal hname (.inl (by decide)) "(#)"
  · exact parse_append_of_isFinal hargument trivial " + \""

/-! ## The longest reading -/

/-- Blanks after the last segment belong to the text that writes it. -/
theorem Writes.append_blank {gs : List Segment} {u w : List Char} (h : Writes gs u)
    (hw : IsBlankText w) : Writes gs (u ++ w) := by
  induction h with
  | @last before after g hb hg ha =>
    rw [List.append_assoc]
    exact .last hb hg (ha.append hw)
  | @join before after rest g gs hb hg ha _ ih =>
    rw [List.append_assoc, List.cons_append]
    exact .join hb hg ha ih

/-- Two expressions with an operator between them write the segments of both. -/
theorem Writes.append_plus {gs hs : List Segment} {u v : List Char} (h : Writes gs u)
    (h' : Writes hs v) : Writes (gs ++ hs) (u ++ '+' :: v) := by
  induction h with
  | last hb hg ha => exact .join hb hg ha h'
  | join hb hg ha _ ih =>
    rw [List.append_assoc, List.cons_append]
    exact .join hb hg ha ih

namespace Run

/-- The first segment that a run completes is written at the beginning of the text. -/
theorem exists_writes_of_completed {b : ParseError} {p : Cursor}
    (h : (ofCursor b p).completed ≠ []) : ∃ g u rest, p.rest = u ++ rest ∧ Writes [g] u := by
  rw [ofCursor_eq] at h
  split at h
  · exact absurd rfl h
  · exact absurd rfl h
  · next g q hg =>
    obtain ⟨hwritten, w, hw, hp, -⟩ := Cursor.written_of_segment hg
    refine ⟨g, w ++ g.rawText.toList, q.rest, hp, ?_⟩
    simpa using Writes.last hw hwritten isBlankText_nil

/-- One more segment after a segment takes an operator before it. -/
theorem exists_plus_of_completed {q : Cursor} (h : (afterSegment q).completed ≠ []) :
    ∃ g w u rest, q.rest = w ++ '+' :: (u ++ rest) ∧ IsBlankText w ∧ Writes [g] u := by
  unfold afterSegment at h
  split at h
  · exact absurd rfl h
  · exact absurd rfl h
  · next j hj =>
    obtain ⟨w, cs, hw, hq, rfl⟩ := Cursor.exists_plus_of_joint hj
    obtain ⟨g, u, rest, hcs, hu⟩ := exists_writes_of_completed h
    dsimp only at hcs
    exact ⟨g, w, u, rest, by rw [hq, hcs], hw, hu⟩

/-- A run completes the segments that the longest readable beginning of the text writes. -/
theorem completed_of_longest {gs : List Segment} {u rest : List Char} (hu : Writes gs u)
    (hmax : ∀ v hs, v <+: u ++ rest → Writes hs v → v.length ≤ u.length) (b : ParseError)
    (o : Nat) : (ofCursor b ⟨o, u ++ rest⟩).completed = gs := by
  rw [ofCursor_of_writes hu]
  have hnone : (afterSegment ⟨o + size u, rest⟩).completed = [] := by
    -- one more segment would be written by a longer beginning
    by_contra hne
    obtain ⟨g, w, v, rest', hrest, hw, hv⟩ := exists_plus_of_completed hne
    dsimp only at hrest
    have hlonger := (hu.append_blank hw).append_plus hv
    have hle := hmax _ _ ⟨rest', by simp [hrest]⟩ hlonger
    simp only [List.length_append, List.length_cons] at hle
    omega
  simp [afterAll, hnone]

end Run

/-- Of the beginnings of a text that write segments, if there are any, one is the longest. -/
theorem exists_longest_writes {cs u : List Char} {gs : List Segment} (hu : u <+: cs)
    (hwrites : Writes gs u) :
    ∃ v hs, v <+: cs ∧ Writes hs v ∧ ∀ x ks, x <+: cs → Writes ks x → x.length ≤ v.length := by
  classical
  let P : Nat → Prop := fun n => ∃ hs, Writes hs (cs.take n)
  have hP : ∀ x ks, x <+: cs → Writes ks x → x.length ≤ cs.length ∧ P x.length := by
    intro x ks hx hks
    rw [List.prefix_iff_eq_take.1 hx] at hks
    exact ⟨hx.length_le, ks, hks⟩
  obtain ⟨hle, hPu⟩ := hP u gs hu hwrites
  obtain ⟨hs, hhs⟩ := Nat.findGreatest_spec hle hPu
  refine ⟨_, hs, List.take_prefix _ cs, hhs, ?_⟩
  intro x ks hx hks
  obtain ⟨hxle, hPx⟩ := hP x ks hx hks
  rw [List.length_take]
  exact Nat.le_min.2 ⟨Nat.le_findGreatest hxle hPx, hxle⟩

namespace Pattern

/-- The segments `gs` are those of the longest beginning of `s` that reads as a pattern. There are
none if no beginning does. -/
def IsLongestReading (s : String) (gs : List Segment) : Prop :=
  (gs = [] ∧ ∀ e p, e.toList <+: s.toList → parse e ≠ .ok p) ∨
    ∃ e, e.toList <+: s.toList ∧ parse e = .ok ⟨gs⟩ ∧
      ∀ e' p, e'.toList <+: s.toList → parse e' = .ok p → e'.length ≤ e.length

/-- Whatever the longest beginning is, its segments are the completed ones. -/
theorem IsLongestReading.eq_completed {s : String} {gs : List Segment}
    (h : IsLongestReading s gs) : gs = (Run.ofString s).completed := by
  rcases h with ⟨rfl, hnone⟩ | ⟨e, ⟨rest, he⟩, hread, hmax⟩
  · by_contra hne
    obtain ⟨g, u, rest, hu, hg⟩ := Run.exists_writes_of_completed (Ne.symm hne)
    refine hnone (String.ofList u) ⟨[g]⟩ ?_ (parse_eq_ok_iff.2 (by simpa using hg))
    simpa using ⟨rest, hu.symm⟩
  · have hmax' : ∀ v hs, v <+: e.toList ++ rest → Writes hs v → v.length ≤ e.toList.length := by
      intro v hs hv hhs
      have hle := hmax (String.ofList v) ⟨hs⟩ (by simpa [← he] using hv)
        (parse_eq_ok_iff.2 (by simpa using hhs))
      rw [String.length_toList]
      simpa using hle
    have hrun := Run.completed_of_longest (parse_eq_ok_iff.1 hread) hmax'
    rw [he] at hrun
    exact (hrun _ 0).symm

/-- Every text has a longest reading, which may be empty. -/
theorem exists_isLongestReading (s : String) : ∃ gs, IsLongestReading s gs := by
  by_cases h : ∃ e p, e.toList <+: s.toList ∧ parse e = .ok p
  · obtain ⟨e, p, he, hp⟩ := h
    obtain ⟨v, gs, hv, hgs, hmax⟩ := exists_longest_writes he (parse_eq_ok_iff.1 hp)
    have hread : parse (String.ofList v) = .ok ⟨gs⟩ := parse_eq_ok_iff.2 (by simpa using hgs)
    refine ⟨gs, .inr ⟨String.ofList v, by simpa using hv, hread, ?_⟩⟩
    intro e' p' he' hp'
    have hle := hmax _ _ he' (parse_eq_ok_iff.1 hp')
    rw [String.length_toList] at hle
    simpa using hle
  · exact ⟨[], .inl ⟨rfl, fun e p he hp => h ⟨e, p, he, hp⟩⟩⟩

/-- **The log tells the longest reading**: it traces the segments of the longest beginning of the
text that reads as a pattern, in order, and notes the fault of the whole text last if it has one. -/
theorem log_eq_longest (s : String) :
    ∃ gs, (∀ hs, IsLongestReading s hs ↔ hs = gs) ∧
      (log s).map (fun entry => (entry.level, entry.text)) =
        gs.map (fun g => ("TRACE", s!"{g.kind.name} segment {g.rawText}")) ++
          match parse s with
          | .ok _ => []
          | .error e => [("DEBUG", s!"failed to parse pattern {quoted s}: {e.message}")] := by
  refine ⟨(Run.ofString s).completed, ?_, ?_⟩
  · obtain ⟨gs, hgs⟩ := exists_isLongestReading s
    intro hs
    constructor
    · exact IsLongestReading.eq_completed
    · rintro rfl
      rwa [← hgs.eq_completed]
  · unfold log parse
    generalize Run.ofString s = r
    obtain ⟨gs, fault?⟩ := r
    rw [List.map_append, List.map_map]
    cases fault? <;> rfl

end Pattern

end IdPattern
