import IdPattern.Proofs.Runs
import IdPattern.Proofs.Written

/-!
# Single steps of reading

Reading an expression alternates two steps: `Cursor.segment` reads a segment, `Cursor.joint` the
operator after it. Both skip blanks, and both come with equations that go by the first character
after the blanks, so no later proof looks into the reading of tokens.

What a step does when it succeeds is told by the grammar. A segment is read off a place exactly if
it is a written one and its raw text stands there after blanks (`Cursor.segment_of_written`,
`Cursor.written_of_segment`), and an operator exactly if a `+` stands there after blanks.
-/

namespace IdPattern

/-! ## Tokens -/

/-- No character of a name is a blank. -/
theorem isBlank_of_isNameChar {c : Char} (h : isNameChar c) : isBlank c = false := by
  rw [isNameChar, Bool.or_eq_true, beq_iff_eq] at h
  rcases h with hupper | rfl
  · have hletter : 65 ≤ c.toNat ∧ c.toNat ≤ 90 := of_decide_eq_true hupper
    simp [isBlank]
    omega
  · decide

theorem ne_of_isNameChar {c d : Char} (hc : isNameChar c) (hd : isNameChar d = false) : c ≠ d := by
  rintro rfl
  simp [hc] at hd

/-- Where a name begins, it is read to its end. -/
theorem Token.read?_name {c : Char} (hc : isNameChar c) (cs : List Char) :
    read? c cs = some (.name c (cs.takeWhile isNameChar), cs.dropWhile isNameChar) := by
  have hne : ∀ d, isNameChar d = false → c ≠ d := fun d => ne_of_isNameChar hc
  simp [read?, hc, hne '"' (by decide), hne '+' (by decide), hne '(' (by decide),
    hne ')' (by decide)]

/-- A name goes as far as its characters do. -/
theorem takeWhile_name_append {cs rest : List Char} (hcs : ∀ d ∈ cs, isNameChar d)
    (hrest : ∀ d ∈ rest.head?, isNameChar d = false) :
    (cs ++ rest).takeWhile isNameChar = cs :=
  takeWhile_run hcs hrest

theorem dropWhile_name_append {cs rest : List Char} (hcs : ∀ d ∈ cs, isNameChar d)
    (hrest : ∀ d ∈ rest.head?, isNameChar d = false) :
    (cs ++ rest).dropWhile isNameChar = rest :=
  dropWhile_run hcs hrest

/-- The name of a method is one token. -/
theorem Method.exists_head_name (m : Method) :
    ∃ c cs, m.name.toList = c :: cs ∧ isNameChar c ∧ ∀ d ∈ cs, isNameChar d := by
  have hall : m.name.toList.all isNameChar := by
    cases m <;> rfl
  rw [List.all_eq_true] at hall
  cases hname : m.name.toList with
  | nil => cases m <;> cases hname
  | cons c cs =>
    rw [hname] at hall
    exact ⟨c, cs, rfl, hall c List.mem_cons_self, fun d hd => hall d (List.mem_cons_of_mem c hd)⟩

namespace Cursor

variable {w : List Char}

/-- Blanks before a text only move the place after them. -/
theorem skipBlanks_append (h : IsBlankText w) (o : Nat) (cs : List Char) :
    skipBlanks ⟨o, w ++ cs⟩ = skipBlanks ⟨o + size w, cs⟩ := by
  simp [skipBlanks, h.leadingBlanks_append, h.afterBlanks_append, Nat.add_assoc]

/-- Where no blank stands nothing is skipped. -/
theorem skipBlanks_cons {c : Char} (hc : isBlank c = false) (o : Nat) (cs : List Char) :
    skipBlanks ⟨o, c :: cs⟩ = ⟨o, c :: cs⟩ := by
  simp [skipBlanks, leadingBlanks, afterBlanks, hc]

theorem skipBlanks_of_rest {p : Cursor} {c : Char} {cs : List Char} (hw : IsBlankText w)
    (hc : isBlank c = false) (hrest : p.rest = w ++ c :: cs) :
    p.skipBlanks = ⟨p.offset + size w, c :: cs⟩ := by
  obtain ⟨o, ds⟩ := p
  obtain rfl : ds = w ++ c :: cs := hrest
  rw [skipBlanks_append hw, skipBlanks_cons hc]

/-- There is a token left, or a fault, exactly if there is a character left that is not blank. -/
@[simp] theorem next_eq_none_iff {p : Cursor} : p.next = .ok none ↔ IsBlankText p.rest := by
  rw [← afterBlanks_eq_nil_iff]
  constructor
  · intro h
    unfold next at h
    simp only at h
    split at h
    · next hrest => exact hrest
    · split at h <;> simp at h
  · intro h
    simp [next, skipBlanks, h]

theorem next_append (h : IsBlankText w) (o : Nat) (cs : List Char) :
    next ⟨o, w ++ cs⟩ = next ⟨o + size w, cs⟩ := by
  unfold next
  rw [skipBlanks_append h]

/-- At a character that is no blank the next token is the one that is read there. -/
theorem next_cons {c : Char} (hc : isBlank c = false) (o : Nat) (cs : List Char) :
    next ⟨o, c :: cs⟩ =
      match Token.read? c cs with
      | none => .error ⟨⟨o, o + size (c :: cs)⟩, .unterminatedText⟩
      | some (t, rest) => .ok (some ⟨t, .over o t.lexeme, ⟨o + size t.lexeme, rest⟩⟩) := by
  unfold next
  rw [skipBlanks_cons hc]
  rfl

/-! ## Reading a segment -/

/-- Reads the segment that begins after blanks. There is nothing to read if only blanks are left. -/
def segment (p : Cursor) : Except ParseError (Option (Segment × Cursor)) :=
  match p.next with
  | .error e => .error e
  | .ok none => .ok none
  | .ok (some f) => f.segment.map some

/-- There is nothing to read exactly if only blanks are left. -/
@[simp] theorem segment_eq_none_iff {p : Cursor} : p.segment = .ok none ↔ IsBlankText p.rest := by
  rw [← next_eq_none_iff, segment]
  cases p.next with
  | error e => simp
  | ok f? =>
    cases f? with
    | none => simp
    | some f => cases hf : f.segment <;> simp [hf, Except.map]

/-- Blanks before a segment only move its place. -/
theorem segment_append (h : IsBlankText w) (o : Nat) (cs : List Char) :
    segment ⟨o, w ++ cs⟩ = segment ⟨o + size w, cs⟩ := by
  rw [segment, segment, next_append h]

/-- A quote begins a text, which ends at the next quote that is not escaped. -/
theorem segment_quote (o : Nat) (cs : List Char) :
    segment ⟨o, '"' :: cs⟩ =
      match splitQuoted cs with
      | none => .error ⟨⟨o, o + size ('"' :: cs)⟩, .unterminatedText⟩
      | some (content, rest) =>
        .ok (some (.ofContent content, ⟨o + size ('"' :: (content ++ ['"'])), rest⟩)) := by
  rw [segment, next_cons (by decide)]
  cases h : splitQuoted cs with
  | none => simp [Token.read?, h]
  | some x => simp [Token.read?, h, Found.segment, Segment.ofContent, Except.map]

/-- A name begins a call, if there is a method of this name. -/
theorem segment_name {c : Char} (hc : isNameChar c) (o : Nat) (cs : List Char) :
    segment ⟨o, c :: cs⟩ =
      let name := c :: cs.takeWhile isNameChar
      match Method.ofName? (String.ofList name) with
      | none => .error ⟨.over o name, .unexpectedToken c⟩
      | some m => (call ⟨o + size name, cs.dropWhile isNameChar⟩ m o name).map some := by
  rw [segment, next_cons (isBlank_of_isNameChar hc), Token.read?_name hc]
  dsimp only [Found.segment, Token.lexeme]
  cases Method.ofName? (String.ofList (c :: cs.takeWhile isNameChar)) with
  | none => rfl
  | some m => rfl

/-- Any other character cannot begin a segment. -/
theorem segment_other {c : Char} (hb : isBlank c = false) (hq : c ≠ '"')
    (hn : isNameChar c = false) (o : Nat) (cs : List Char) :
    segment ⟨o, c :: cs⟩ = .error ⟨.over o [c], .unexpectedToken c⟩ := by
  rw [segment, next_cons hb, Token.read?, if_neg hq]
  by_cases hj : c = '+'
  · subst hj
    rfl
  rw [if_neg hj]
  by_cases ho : c = '('
  · subst ho
    rfl
  rw [if_neg ho]
  by_cases hc : c = ')'
  · subst hc
    rfl
  rw [if_neg hc, hn]
  rfl

/-! ### What is written is read -/

/-- The call of a method with an argument that it takes is read as this call. -/
theorem call_group {m : Method} {a : List Char} (ha : m.Takes a) (hp : ')' ∉ a) (o start : Nat)
    (rest : List Char) :
    call ⟨o, '(' :: (a ++ ')' :: rest)⟩ m start m.name.toList =
      .ok (.ofCall m a, ⟨o + size ('(' :: (a ++ [')'])), rest⟩) := by
  have hs : splitArgument (a ++ ')' :: rest) = some (a, rest) :=
    splitArgument_eq_some_iff.2 ⟨rfl, hp⟩
  have hf : m.fault? o a = none := Method.fault?_eq_none_iff.2 ha
  have hraw : String.ofList (m.name.toList ++ '(' :: (a ++ [')'])) =
      (Segment.ofCall m a).rawText := by
    rw [← Segment.toList_rawText_ofCall, String.ofList_toList]
  simp only [call, hs, hf, hraw]
  rfl

/-- The raw text of a written segment is read as this segment, whatever comes after it. -/
theorem segment_of_written {g : Segment} (hg : g.Written) (o : Nat) (rest : List Char) :
    segment ⟨o, g.rawText.toList ++ rest⟩ =
      .ok (some (g, ⟨o + size g.rawText.toList, rest⟩)) := by
  rcases Segment.written_iff.1 hg with ⟨content, hc, rfl⟩ | ⟨m, a, ha, hp, rfl⟩
  · rw [Segment.toList_rawText_ofContent]
    have hs : splitQuoted (content ++ '"' :: rest) = some (content, rest) :=
      splitQuoted_of_append hc rfl
    simp only [List.cons_append, List.append_assoc, List.nil_append, segment_quote, hs]
  · rw [Segment.toList_rawText_ofCall]
    obtain ⟨c, cs, hname, hc, hcs⟩ := m.exists_head_name
    -- the parenthesis is no name character, so the name token ends right before it
    have hopen : ∀ d ∈ ('(' :: (a ++ ')' :: rest)).head?, isNameChar d = false := by
      rintro d ⟨⟩
      rfl
    have htake := takeWhile_name_append hcs hopen
    have hdrop := dropWhile_name_append hcs hopen
    have hof : Method.ofName? (String.ofList (c :: cs)) = some m := by
      rw [← hname, String.ofList_toList, Method.ofName?_name]
    have hcall := call_group ha hp (o + size (c :: cs)) o rest
    rw [hname] at hcall ⊢
    simp only [List.cons_append, List.append_assoc, List.nil_append, segment_name hc, htake, hdrop,
      hof, hcall, Except.map]
    simp [Nat.add_assoc]

/-! ### What is read is written -/

/-- If a call is read, a parenthesis follows the name at once, then an argument that the method
takes, and then the first closing parenthesis. -/
theorem eq_ofCall_of_call {p q : Cursor} {m : Method} {start : Nat} {g : Segment}
    (h : p.call m start m.name.toList = .ok (g, q)) :
    ∃ a, m.Takes a ∧ ')' ∉ a ∧ g = .ofCall m a ∧ p.rest = '(' :: (a ++ ')' :: q.rest) ∧
      q.offset = p.offset + size ('(' :: (a ++ [')'])) := by
  unfold call at h
  simp only at h
  split at h
  · next cs hp =>
    split at h
    · simp at h
    · next a rest hs =>
      split at h
      · simp at h
      · next hf =>
        obtain ⟨rfl, ha⟩ := splitArgument_eq_some_iff.1 hs
        simp only [Except.ok.injEq, Prod.mk.injEq] at h
        obtain ⟨rfl, rfl⟩ := h
        refine ⟨a, Method.fault?_eq_none_iff.1 hf, ha, ?_, hp, rfl⟩
        simp [Segment.ofCall, ← String.toList_inj]
  · split at h <;> simp at h

/-- A segment that is read at a quote is a written one. -/
theorem written_of_segment_quote {o : Nat} {cs : List Char} {q : Cursor} {g : Segment}
    (h : segment ⟨o, '"' :: cs⟩ = .ok (some (g, q))) :
    g.Written ∧ '"' :: cs = g.rawText.toList ++ q.rest ∧
      q.offset = o + size g.rawText.toList := by
  rw [segment_quote] at h
  split at h
  · simp at h
  · next content rest hs =>
    obtain ⟨rfl, hcontent⟩ := splitQuoted_eq_some_iff.1 hs
    simp only [Except.ok.injEq, Option.some.injEq, Prod.mk.injEq] at h
    obtain ⟨rfl, rfl⟩ := h
    rw [Segment.toList_rawText_ofContent]
    exact ⟨Segment.written_iff.2 (.inl ⟨content, hcontent, rfl⟩), by simp, rfl⟩

/-- A segment that is read at a name is a written one. -/
theorem written_of_segment_name {c : Char} (hc : isNameChar c) {o : Nat} {cs : List Char}
    {q : Cursor} {g : Segment} (h : segment ⟨o, c :: cs⟩ = .ok (some (g, q))) :
    g.Written ∧ c :: cs = g.rawText.toList ++ q.rest ∧ q.offset = o + size g.rawText.toList := by
  rw [segment_name hc] at h
  dsimp only at h
  split at h
  · simp at h
  · next m hm =>
    have hname : c :: cs.takeWhile isNameChar = m.name.toList := by
      rw [Method.name_of_ofName? hm, String.toList_ofList]
    rw [hname] at h
    cases hcall : call ⟨o + size m.name.toList, cs.dropWhile isNameChar⟩ m o m.name.toList with
    | error e => simp [hcall, Except.map] at h
    | ok x =>
      simp only [hcall, Except.map, Except.ok.injEq, Option.some.injEq] at h
      subst h
      obtain ⟨a, ha, hp, rfl, hrest, hoff⟩ := eq_ofCall_of_call hcall
      dsimp only at hrest
      rw [Segment.toList_rawText_ofCall]
      refine ⟨Segment.written_iff.2 (.inr ⟨m, a, ha, hp, rfl⟩), ?_, ?_⟩
      · calc c :: cs = (c :: cs.takeWhile isNameChar) ++ cs.dropWhile isNameChar := by
              rw [List.cons_append, List.takeWhile_append_dropWhile]
          _ = m.name.toList ++ '(' :: (a ++ [')']) ++ q.rest := by
              rw [hname, hrest]
              simp
      · rw [hoff, size_append, Nat.add_assoc]

/-- A segment that was read is a written one, and its raw text stood after blanks. -/
theorem written_of_segment {p q : Cursor} {g : Segment} (h : p.segment = .ok (some (g, q))) :
    g.Written ∧ ∃ w, IsBlankText w ∧ p.rest = w ++ g.rawText.toList ++ q.rest ∧
      q.offset = p.offset + size w + size g.rawText.toList := by
  obtain ⟨o, cs⟩ := p
  rcases isBlankText_or_split cs with hcs | ⟨w, c, ds, hw, hc, rfl⟩
  · have hnone : segment ⟨o, cs⟩ = .ok none := segment_eq_none_iff.2 hcs
    simp [hnone] at h
  rw [segment_append hw] at h
  have hwritten : g.Written ∧ c :: ds = g.rawText.toList ++ q.rest ∧
      q.offset = o + size w + size g.rawText.toList := by
    by_cases hq : c = '"'
    · subst hq
      exact written_of_segment_quote h
    by_cases hn : isNameChar c = true
    · exact written_of_segment_name hn h
    · rw [segment_other hc hq (by simpa using hn)] at h
      simp at h
  obtain ⟨hg, hrest, hoff⟩ := hwritten
  exact ⟨hg, w, hw, by rw [hrest, List.append_assoc], hoff⟩

/-! ## Reading an operator -/

/-- Reads the operator that stands after blanks. There is nothing to read if only blanks are left,
and any other token is a fault. -/
def joint (q : Cursor) : Except ParseError (Option Found) :=
  match q.next with
  | .error e => .error e
  | .ok none => .ok none
  | .ok (some j) => if j.token = .join then .ok (some j) else .error j.unexpected

/-- An expression can end exactly where only blanks are left. -/
@[simp] theorem joint_eq_none_iff {q : Cursor} : q.joint = .ok none ↔ IsBlankText q.rest := by
  rw [← next_eq_none_iff, joint]
  cases q.next with
  | error e => simp
  | ok j? =>
    cases j? with
    | none => simp
    | some j => by_cases hj : j.token = .join <;> simp [hj]

theorem joint_append (h : IsBlankText w) (o : Nat) (cs : List Char) :
    joint ⟨o, w ++ cs⟩ = joint ⟨o + size w, cs⟩ := by
  rw [joint, joint, next_append h]

/-- The operator is read at a `+`. -/
@[simp] theorem joint_plus (o : Nat) (cs : List Char) :
    joint ⟨o, '+' :: cs⟩ = .ok (some ⟨.join, .over o ['+'], ⟨o + size ['+'], cs⟩⟩) := by
  rw [joint, next_cons (by decide)]
  rfl

/-- Any other token than the operator is a fault. -/
theorem joint_other {c : Char} (hb : isBlank c = false) (hj : c ≠ '+') (o : Nat)
    (cs : List Char) :
    joint ⟨o, c :: cs⟩ =
      match Token.read? c cs with
      | none => .error ⟨⟨o, o + size (c :: cs)⟩, .unterminatedText⟩
      | some (t, rest) =>
        .error (Found.unexpected ⟨t, .over o t.lexeme, ⟨o + size t.lexeme, rest⟩⟩) := by
  rw [joint, next_cons hb]
  cases h : Token.read? c cs with
  | none => rfl
  | some x =>
    obtain ⟨t, rest⟩ := x
    have ht : t ≠ .join := by
      rintro rfl
      have hc := Token.lexeme_append_of_read? h
      simp only [Token.lexeme, List.singleton_append, List.cons.injEq] at hc
      exact hj hc.1.symm
    exact if_neg ht

/-- At a quote the fault is the quote alone, or all the rest if it is never closed. -/
theorem joint_quote (o : Nat) (cs : List Char) :
    joint ⟨o, '"' :: cs⟩ =
      match splitQuoted cs with
      | none => .error ⟨⟨o, o + size ('"' :: cs)⟩, .unterminatedText⟩
      | some _ => .error ⟨.over o ['"'], .unexpectedToken '"'⟩ := by
  rw [joint_other (by decide) (by decide)]
  cases h : splitQuoted cs with
  | none => simp [Token.read?, h]
  | some x => simp [Token.read?, h, Found.unexpected]

/-- A name is at fault as a whole. -/
theorem joint_name {c : Char} (hc : isNameChar c) (o : Nat) (cs : List Char) :
    joint ⟨o, c :: cs⟩ =
      .error ⟨.over o (c :: cs.takeWhile isNameChar), .unexpectedToken c⟩ := by
  have hj : c ≠ '+' := ne_of_isNameChar hc (by decide)
  rw [joint_other (isBlank_of_isNameChar hc) hj, Token.read?_name hc]
  rfl

/-- Any other character is a fault by itself. -/
theorem joint_stray {c : Char} (hb : isBlank c = false) (hj : c ≠ '+') (hq : c ≠ '"')
    (hn : isNameChar c = false) (o : Nat) (cs : List Char) :
    joint ⟨o, c :: cs⟩ = .error ⟨.over o [c], .unexpectedToken c⟩ := by
  rw [joint_other hb hj, Token.read?, if_neg hq, if_neg hj]
  by_cases ho : c = '('
  · subst ho
    rfl
  rw [if_neg ho]
  by_cases hc : c = ')'
  · subst hc
    rfl
  rw [if_neg hc, hn]
  rfl

/-- An operator that was read is a `+` that stood after blanks. -/
theorem exists_plus_of_joint {q : Cursor} {j : Found} (h : q.joint = .ok (some j)) :
    ∃ w rest, IsBlankText w ∧ q.rest = w ++ '+' :: rest ∧
      j = ⟨.join, .over (q.offset + size w) ['+'], ⟨q.offset + size w + size ['+'], rest⟩⟩ := by
  obtain ⟨o, cs⟩ := q
  rcases isBlankText_or_split cs with hcs | ⟨w, c, ds, hw, hc, rfl⟩
  · have hnone : joint ⟨o, cs⟩ = .ok none := joint_eq_none_iff.2 hcs
    simp [hnone] at h
  rw [joint_append hw] at h
  by_cases hj : c = '+'
  · subst hj
    rw [joint_plus] at h
    exact ⟨w, ds, hw, rfl, by simpa using h.symm⟩
  · rw [joint_other hc hj] at h
    split at h <;> simp at h

/-! ## Induction along an expression -/

/-- A segment and an operator take characters off the text. -/
theorem length_rest_lt_of_joint {p q : Cursor} {g : Segment} {j : Found}
    (hg : p.segment = .ok (some (g, q))) (hj : q.joint = .ok (some j)) :
    j.after.rest.length < p.rest.length := by
  obtain ⟨-, w, -, hp, -⟩ := written_of_segment hg
  obtain ⟨v, rest, -, hq, rfl⟩ := exists_plus_of_joint hj
  rw [hp, hq]
  simp only [List.length_append, List.length_cons]
  omega

/-- To prove something of every place it may be assumed of the place after a segment and an
operator. -/
theorem joint_induction {motive : Cursor → Prop}
    (step : ∀ p, (∀ g q j, p.segment = .ok (some (g, q)) → q.joint = .ok (some j) →
      motive j.after) → motive p) (p : Cursor) : motive p := by
  induction hn : p.rest.length using Nat.strongRecOn generalizing p with
  | _ n ih =>
    apply step p
    intro g q j hg hj
    have hlt : j.after.rest.length < p.rest.length := length_rest_lt_of_joint hg hj
    rw [hn] at hlt
    exact ih j.after.rest.length hlt j.after rfl

end Cursor

end IdPattern
