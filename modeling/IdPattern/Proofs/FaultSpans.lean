import IdPattern.Proofs.Faults

/-!
# What the span of a fault points at

A fault names its cause and a span of bytes. `Cut.Shows` tells for each cause what stands in the
span, and what around it. Every fault that is reported shows this (`Fails.shows`), and its span is a
part of the text that begins and ends between two characters (`Pattern.parse_error_shows`).

The statements about the rules of the grammar allow any text before the part that a rule is about,
so each follows from the one about the next inner rule. Only where a whole name is reported does it
matter what stands before: no character that the name could begin earlier with.
-/

namespace IdPattern

/-- A text at the end of which a name can begin: it does not end in a character of a name. -/
def BeginsName (cs : List Char) : Prop := ∀ c ∈ cs.getLast?, isNameChar c = false

/-- What stands in the part of a text that a fault concerns, and around it. -/
def Cut.Shows (cut : Cut) : Cause → Prop
  | .emptyExpression => cut.before = [] ∧ IsBlankText cut.inside ∧ cut.after = []
  | .unexpectedToken c => isBlank c = false ∧
      (cut.inside = [c] ∨
        cut.inside.head? = some c ∧ (∀ d ∈ cut.inside, isNameChar d) ∧ BeginsName cut.before ∧
          EndsName cut.after)
  | .unterminatedText =>
      ∃ content, cut.inside = '"' :: content ∧ QuotesEscaped content ∧ cut.after = []
  | .unterminatedMethod k =>
      ∃ m rest, k = .method m ∧ cut.inside = m.name.toList ++ rest ∧ cut.after = [] ∧
        (IsBlankText rest ∨ ∃ a, rest = '(' :: a ∧ ')' ∉ a)
  | .emptyMethodArgument k =>
      ∃ m ∈ [Method.sequential, .random, .currentDate], k = .method m ∧
        m.name.toList <:+ cut.before ∧ cut.inside = ['(', ')']
  | .invalidArgumentCharacter k c =>
      ∃ m alphabet a, k = .method m ∧
        (m = .sequential ∧ alphabet = ['#'] ∨ m = .random ∧ alphabet = ['#', 'X', 'x']) ∧
        m.name.toList ++ '(' :: a <:+ cut.before ∧ (∀ d ∈ a, d ∈ alphabet) ∧
        cut.inside = [c] ∧ c ∉ alphabet
  | .unexpectedMethodArgument k =>
      ∃ a, k = .method .orgUnitCode ∧ Method.orgUnitCode.name.toList <:+ cut.before ∧
        cut.inside = '(' :: (a ++ [')']) ∧ a ≠ [] ∧ ')' ∉ a
  | .trailingJoinOperator =>
      (∃ gs, Writes gs cut.before) ∧ cut.inside = ['+'] ∧ IsBlankText cut.after

/-! ## The text before a fault -/

/-- Blanks keep a name from going on. -/
theorem BeginsName.append_blank {u w : List Char} (hu : BeginsName u) (hw : IsBlankText w) :
    BeginsName (u ++ w) := by
  intro c hc
  rw [List.getLast?_append] at hc
  cases hlast : w.getLast? with
  | none => exact hu c (by simpa [hlast] using hc)
  | some d =>
    obtain rfl : d = c := by simpa [hlast] using hc
    have hblank : isBlank d := hw d (List.mem_of_getLast? hlast)
    by_contra hname
    simp [isBlank_of_isNameChar (by simpa using hname)] at hblank

theorem beginsName_concat {u : List Char} {c : Char} (hc : isNameChar c = false) :
    BeginsName (u ++ [c]) := by
  intro d hd
  obtain rfl : c = d := by simpa using hd
  exact hc

/-- A segment ends in a quote or a parenthesis. -/
theorem Segment.Written.beginsName {g : Segment} (hg : g.Written) (u : List Char) :
    BeginsName (u ++ g.rawText.toList) := by
  rcases Segment.written_iff.1 hg with ⟨content, -, rfl⟩ | ⟨m, a, -, -, rfl⟩
  · have h := beginsName_concat (u := u ++ '"' :: content) (c := '"') (by decide)
    simpa [toList_rawText_ofContent] using h
  · have h := beginsName_concat (u := u ++ m.name.toList ++ '(' :: a) (c := ')') (by decide)
    simpa [toList_rawText_ofCall] using h

/-- A name can begin after segments, too. -/
theorem Writes.beginsName {gs : List Segment} {u : List Char} (h : Writes gs u) (v : List Char) :
    BeginsName (v ++ u) := by
  induction h generalizing v with
  | @last before after g hb hg ha =>
    have h := (hg.beginsName (v ++ before)).append_blank ha
    simpa using h
  | @join before after rest g gs hb hg ha hrest ih =>
    have h := ih (v ++ before ++ g.rawText.toList ++ after ++ ['+'])
    simpa using h

/-- Where a segment is wanted a name can begin. -/
theorem Awaits.beginsName {gs : List Segment} {u : List Char} (h : Awaits gs u) : BeginsName u := by
  cases h with
  | first hw =>
    have hnil : BeginsName [] := by
      intro c hc
      cases hc
    simpa using hnil.append_blank hw
  | @next _ u w hu hw =>
    have h := (beginsName_concat (u := u) (c := '+') (by decide)).append_blank hw
    simpa using h

/-! ## The rules of the grammar -/

/-- The fault of an argument shows what it says in the call, behind the name of the method. -/
theorem ArgumentFault.shows {m : Method} {cut : Cut} {k : Cause} {a : List Char}
    (h : ArgumentFault m cut k) (htext : cut.text = '(' :: (a ++ [')'])) (ha : ')' ∉ a)
    (u after : List Char) : ((cut.append after).prepend (u ++ m.name.toList)).Shows k := by
  cases h with
  | empty hne =>
    refine ⟨m, ?_, rfl, ⟨u, by simp⟩, rfl⟩
    cases m with
    | orgUnitCode => exact absurd rfl hne
    | sequential | random | currentDate => decide
  | @surplus a' hne =>
    obtain rfl : a' = a := by simpa using htext
    exact ⟨a', rfl, ⟨u, by simp⟩, rfl, hne, ha⟩
  | @character _ alphabet good b c harg hgood hc =>
    refine ⟨m, alphabet, good, rfl, ?_, ⟨u, by simp⟩, hgood, rfl, hc⟩
    cases m <;> cases harg <;> decide

/-- The fault of a call shows what it says behind any text. -/
theorem CallFault.shows {m : Method} {cut : Cut} {k : Cause} (h : CallFault m cut k)
    (u : List Char) : (cut.prepend u).Shows k := by
  cases h with
  | elsewhere hw hc hopen => exact ⟨hc, .inl rfl⟩
  | missing hw => exact ⟨m, _, rfl, rfl, rfl, .inl hw⟩
  | unclosed ha => exact ⟨m, _, rfl, rfl, rfl, .inr ⟨_, rfl, ha⟩⟩
  | @argument a after cut k ha htext hcut =>
    have hshows := hcut.shows htext ha u after
    simpa using hshows

/-- A whole name is shown, if it could not begin earlier nor go on. -/
theorem Cut.shows_name {u cs after : List Char} {c : Char} (hu : BeginsName u)
    (hc : isNameChar c) (hcs : ∀ d ∈ cs, isNameChar d) (hafter : EndsName after) :
    ((⟨[], c :: cs, after⟩ : Cut).prepend u).Shows (.unexpectedToken c) := by
  refine ⟨isBlank_of_isNameChar hc, .inr ⟨rfl, ?_, by simpa using hu, hafter⟩⟩
  simpa [hc] using hcs

theorem SegmentFault.shows {cut : Cut} {k : Cause} (h : SegmentFault cut k) {u : List Char}
    (hu : BeginsName u) : (cut.prepend u).Shows k := by
  cases h with
  | stray hb hq hn => exact ⟨hb, .inl rfl⟩
  | unclosedText hcontent => exact ⟨_, rfl, hcontent, rfl⟩
  | unknownName hc hcs hafter hm => exact Cut.shows_name hu hc hcs hafter
  | call hrest htext hcut => exact hcut.shows u

theorem JointFault.shows {cut : Cut} {k : Cause} (h : JointFault cut k) {u : List Char}
    (hu : BeginsName u) : (cut.prepend u).Shows k := by
  cases h with
  | stray hb hj hq hn => exact ⟨hb, .inl rfl⟩
  | text hquotes hlast => exact ⟨by decide, .inl rfl⟩
  | unclosedText hcontent => exact ⟨_, rfl, hcontent, rfl⟩
  | name hc hcs hafter => exact Cut.shows_name hu hc hcs hafter

/-- **Every fault of the grammar shows what it says.** -/
theorem Fails.shows {gs : List Segment} {cut : Cut} {k : Cause} (h : Fails gs cut k) :
    cut.Shows k := by
  cases h with
  | segment hu hcut => exact hcut.shows hu.beginsName
  | joint hu hcut => exact hcut.shows (by simpa using hu.beginsName [])
  | trailing hu hw => exact ⟨⟨gs, hu⟩, rfl, hw⟩

/-! ## Spans as parts of a text -/

/-- The bytes of the beginning of a text end between two characters. -/
theorem isValid_of_append {s : String} {cs ds : List Char} (h : cs ++ ds = s.toList) :
    String.Pos.Raw.IsValid s ⟨size cs⟩ := by
  rw [String.Pos.Raw.isValid_iff_exists_append]
  refine ⟨String.ofList cs, String.ofList ds, ?_, ?_⟩
  · rw [← String.ofList_append, h, String.ofList_toList]
  · rw [String.rawEndPos, ← size_toList, String.toList_ofList]

/-- Only an expression of no characters at all has a fault in no characters at all. -/
theorem Cut.Shows.inside_ne_nil {cut : Cut} {k : Cause} (h : cut.Shows k) (hne : cut.text ≠ []) :
    cut.inside ≠ [] := by
  intro hnil
  cases k with
  | emptyExpression => exact hne (by simp [text, h.1, hnil, h.2.2])
  | unexpectedToken c => simp [Shows, hnil] at h
  | unterminatedText => simp [Shows, hnil] at h
  | unterminatedMethod k =>
    obtain ⟨m, rest, -, hinside, -⟩ := h
    obtain ⟨c, cs, hname, -⟩ := m.exists_head_name
    simp [hnil, hname] at hinside
  | emptyMethodArgument k => simp [Shows, hnil] at h
  | invalidArgumentCharacter k c => simp [Shows, hnil] at h
  | unexpectedMethodArgument k => simp [Shows, hnil] at h
  | trailingJoinOperator => simp [Shows, hnil] at h

namespace Pattern

/-- Every fault is found in some part of the text, and shows what it says. -/
theorem exists_cut_of_parse {s : String} {e : ParseError} (h : parse s = .error e) :
    ∃ cut : Cut, cut.text = s.toList ∧ e.span = cut.span 0 ∧ cut.Shows e.cause := by
  rw [parse, Run.result_eq_error_iff] at h
  generalize hrun : Run.ofString s = r at h
  obtain ⟨gs, fault?⟩ := r
  obtain rfl : fault? = some e := h
  rcases Run.ofString_eq_iff.1 hrun with ⟨hs, -, rfl⟩ | ⟨cut, hcut, htext, hspan⟩
  · refine ⟨⟨[], s.toList, []⟩, by simp, ?_, rfl, hs, rfl⟩
    simp [Span.over, size_toList]
  · exact ⟨cut, htext, hspan, hcut.shows⟩

/-- A blank text is at fault as a whole. -/
theorem parse_of_blank {s : String} (h : IsBlankText s.toList) :
    parse s = .error ⟨⟨0, s.utf8ByteSize⟩, .emptyExpression⟩ := by
  rw [parse, Run.ofString_eq_iff.2 (.inl ⟨h, rfl, rfl⟩)]
  rfl

/-- **Every fault has a well formed span and shows what it says**: the span lies in the text, begins
and ends between two characters, and is not empty unless the text is. The fault of an empty
expression is that of the blank texts, and concerns all of such a text. -/
theorem parse_error_shows (s : String) :
    (∀ a b k, parse s = .error ⟨⟨a, b⟩, k⟩ →
      (a ≤ b ∧ b ≤ s.utf8ByteSize ∧ String.Pos.Raw.IsValid s ⟨a⟩ ∧ String.Pos.Raw.IsValid s ⟨b⟩ ∧
        (s ≠ "" → a < b)) ∧
      ∃ cut : Cut, cut.text = s.toList ∧ cut.span 0 = ⟨a, b⟩ ∧ cut.Shows k) ∧
    ∀ a b, parse s = .error ⟨⟨a, b⟩, .emptyExpression⟩ ↔
      IsBlankText s.toList ∧ a = 0 ∧ b = s.utf8ByteSize := by
  constructor
  · intro a b k h
    obtain ⟨cut, htext, hspan, hshows⟩ := exists_cut_of_parse h
    refine ⟨?_, cut, htext, hspan.symm, hshows⟩
    obtain ⟨rfl, rfl⟩ : a = size cut.before ∧ b = size cut.before + size cut.inside := by
      simpa [Cut.span, Span.over] using hspan
    have hsize : size cut.before + size cut.inside + size cut.after = s.utf8ByteSize := by
      rw [← size_toList, ← htext, Cut.text, size_append, size_append]
    refine ⟨Nat.le_add_right .., by omega, ?_, ?_, fun hne => ?_⟩
    · have hstart : cut.before ++ (cut.inside ++ cut.after) = s.toList := by
        rw [← htext, Cut.text, List.append_assoc]
      exact isValid_of_append hstart
    · rw [← size_append]
      exact isValid_of_append htext
    · have hinside : cut.inside ≠ [] := hshows.inside_ne_nil (by simpa [htext] using hne)
      have hpos : 0 < size cut.inside := size_pos hinside
      omega
  · intro a b
    constructor
    · intro h
      obtain ⟨cut, htext, hspan, hbefore, hblank, hafter⟩ := exists_cut_of_parse h
      rw [Cut.text, hbefore, hafter, List.nil_append, List.append_nil] at htext
      rw [htext] at hblank
      refine ⟨hblank, ?_⟩
      simpa [Cut.span, Span.over, hbefore, htext, size_toList] using hspan
    · rintro ⟨hs, rfl, rfl⟩
      exact parse_of_blank hs

/-- A name that is no method is reported whole, and the `ä` before it counts two bytes. -/
theorem parse_error_shows_name :
    parse "\"ä\"+UNKNOWN_é" = .error ⟨⟨5, 13⟩, .unexpectedToken 'U'⟩ ∧
      String.Pos.Raw.IsValid "\"ä\"+UNKNOWN_é" ⟨13⟩ ∧
      (∃ cut : Cut, cut.text = "\"ä\"+UNKNOWN_é".toList ∧ cut.span 0 = ⟨5, 13⟩ ∧
        cut.Shows (.unexpectedToken 'U')) ∧
      parse "\u3000\t" = .error ⟨⟨0, 4⟩, .emptyExpression⟩ := by
  obtain ⟨hfault, -⟩ := parse_error_shows "\"ä\"+UNKNOWN_é"
  have h : parse "\"ä\"+UNKNOWN_é" = .error ⟨⟨5, 13⟩, .unexpectedToken 'U'⟩ :=
    Run.result_eq_error_iff.2 (by decide +kernel)
  obtain ⟨⟨-, -, -, hvalid, -⟩, hcut⟩ := hfault _ _ _ h
  have hblank := (parse_error_shows "\u3000\t").2 0 4
  exact ⟨h, hvalid, hcut, hblank.2 ⟨by decide, rfl, by decide⟩⟩

end Pattern

end IdPattern
