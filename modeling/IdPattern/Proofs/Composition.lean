import IdPattern.Proofs.Grammar

/-!
# Reading is compositional at `+`

An expression and a `+`, or blanks alone, can be put before a text without changing how the text is
read: its segments follow those of the expression, and a fault in it is the same fault, moved by
the bytes that were put before.

Two facts make this up. Reading from a place further on gives the same answer further on
(`Run.ofCursor_shift`), since every span is reckoned from the offset of a place; this is a
simulation between two runs, one lemma for each step. And reading does not remember what it has
read, except for one thing: why a segment is wanted, which matters only if none comes
(`Run.ofCursor_congr`).
-/

namespace IdPattern

/-! ## Moving a place

`shift n` moves whatever a value says about places by `n` bytes. Segments say nothing about places.
-/

def Span.shift (n : Nat) (s : Span) : Span := ⟨s.start + n, s.stop + n⟩

def ParseError.shift (n : Nat) (e : ParseError) : ParseError := ⟨e.span.shift n, e.cause⟩

def Cursor.shift (n : Nat) (p : Cursor) : Cursor := ⟨p.offset + n, p.rest⟩

def Found.shift (n : Nat) (f : Found) : Found := ⟨f.token, f.span.shift n, f.after.shift n⟩

def Run.shift (n : Nat) (r : Run) : Run := ⟨r.completed, r.fault?.map (·.shift n)⟩

/-- Moves the answer of a reader: a fault, or a value whose places are moved by `f`. -/
def shiftAnswer (n : Nat) (f : α → α) : Except ParseError α → Except ParseError α
  | .error e => .error (e.shift n)
  | .ok a => .ok (f a)

@[simp] theorem shiftAnswer_error (n : Nat) (f : α → α) (e : ParseError) :
    shiftAnswer n f (.error e) = .error (e.shift n) := rfl

@[simp] theorem shiftAnswer_ok (n : Nat) (f : α → α) (a : α) :
    shiftAnswer n f (.ok a) = .ok (f a) := rfl

@[simp] theorem Cursor.rest_shift (n : Nat) (p : Cursor) : (p.shift n).rest = p.rest := rfl

@[simp] theorem Cursor.offset_shift (n : Nat) (p : Cursor) :
    (p.shift n).offset = p.offset + n := rfl

@[simp] theorem Cursor.shift_mk (n offset : Nat) (rest : List Char) :
    shift n ⟨offset, rest⟩ = ⟨offset + n, rest⟩ := rfl

@[simp] theorem Found.token_shift (n : Nat) (f : Found) : (f.shift n).token = f.token := rfl

/-- A text that begins later takes the same bytes further on. -/
theorem Span.over_shift (n o : Nat) (cs : List Char) :
    Span.over (o + n) cs = (Span.over o cs).shift n := by
  simp [Span.over, Span.shift, Nat.add_right_comm]

@[simp] theorem Cursor.stop_shift (n : Nat) (p : Cursor) : (p.shift n).stop = p.stop + n := by
  simp [Cursor.stop, Nat.add_right_comm]

@[simp] theorem Cursor.skipBlanks_shift (n : Nat) (p : Cursor) :
    (p.shift n).skipBlanks = p.skipBlanks.shift n := by
  simp [Cursor.skipBlanks, Nat.add_right_comm]

/-- An unexpected token is one wherever it stands. -/
@[simp] theorem Found.unexpected_shift (n : Nat) (f : Found) :
    (f.shift n).unexpected = f.unexpected.shift n := by
  obtain ⟨t, span, after⟩ := f
  cases t <;>
    simp [Found.unexpected, Found.shift, ParseError.shift, Span.shift, Span.over,
      Nat.add_right_comm]

/-- The tokens of a text are the same wherever it begins. -/
@[simp] theorem Cursor.next_shift (n : Nat) (p : Cursor) :
    (p.shift n).next = shiftAnswer n (Option.map (Found.shift n)) p.next := by
  unfold Cursor.next
  rw [Cursor.skipBlanks_shift]
  generalize p.skipBlanks = q
  obtain ⟨o, cs⟩ := q
  cases cs with
  | nil => rfl
  | cons c cs =>
    cases h : Token.read? c cs with
    | none =>
      simp only [Cursor.shift, Cursor.stop, h]
      simp [ParseError.shift, Span.shift, Nat.add_right_comm]
    | some x =>
      simp only [Cursor.shift, h, shiftAnswer, Option.map_some, Found.shift, Span.over_shift]
      rfl

/-- What is wrong with an argument does not depend on where it stands. -/
@[simp] theorem Method.fault?_shift (n : Nat) (m : Method) (group : Nat) (a : List Char) :
    m.fault? (group + n) a = (m.fault? group a).map (·.shift n) := by
  unfold Method.fault?
  cases m.argument with
  | absent => cases a <;> simp [ParseError.shift, Span.over_shift]
  | free => cases a <;> simp [ParseError.shift, Span.over_shift]
  | «over» alphabet =>
    cases a with
    | nil => simp [ParseError.shift, Span.over_shift]
    | cons c a =>
      simp only
      split <;> simp [ParseError.shift, ← Span.over_shift, Nat.add_right_comm]

/-- A call is read in the same way wherever it stands. -/
@[simp] theorem Cursor.call_shift (n : Nat) (p : Cursor) (m : Method) (start : Nat)
    (name : List Char) :
    (p.shift n).call m (start + n) name =
      shiftAnswer n (Prod.map id (Cursor.shift n)) (p.call m start name) := by
  unfold Cursor.call
  rw [Cursor.stop_shift, Cursor.skipBlanks_shift]
  simp only [Cursor.shift]
  split
  · next cs hp =>
    cases splitArgument cs with
    | none => rfl
    | some x =>
      obtain ⟨a, rest⟩ := x
      simp only [Method.fault?_shift]
      cases m.fault? p.offset a with
      | some e => rfl
      | none => simp [Nat.add_right_comm]
  · cases p.skipBlanks.rest with
    | nil => rfl
    | cons c cs => simp [ParseError.shift, Cursor.spanOf, Span.over_shift]

/-- A segment is read in the same way wherever it stands. -/
@[simp] theorem Found.segment_shift (n : Nat) (f : Found) :
    (f.shift n).segment = shiftAnswer n (Prod.map id (Cursor.shift n)) f.segment := by
  -- the fault of every token that begins no segment
  have hunexpected := f.unexpected_shift n
  obtain ⟨t, span, after⟩ := f
  unfold Found.segment
  cases t with
  | text content => rfl
  | name first others =>
    simp only [Found.shift]
    split
    · exact Cursor.call_shift n after _ span.start _
    · exact congrArg Except.error hunexpected
  | join | groupOpen | groupClose | unknown => exact congrArg Except.error hunexpected

@[simp] theorem Cursor.segment_shift (n : Nat) (p : Cursor) :
    (p.shift n).segment = shiftAnswer n (Option.map (Prod.map id (Cursor.shift n))) p.segment := by
  unfold Cursor.segment
  rw [Cursor.next_shift]
  cases p.next with
  | error e => rfl
  | ok f? =>
    cases f? with
    | none => rfl
    | some f =>
      simp only [shiftAnswer, Option.map_some, Found.segment_shift]
      cases f.segment <;> rfl

@[simp] theorem Cursor.joint_shift (n : Nat) (q : Cursor) :
    (q.shift n).joint = shiftAnswer n (Option.map (Found.shift n)) q.joint := by
  unfold Cursor.joint
  rw [Cursor.next_shift]
  cases q.next with
  | error e => rfl
  | ok j? =>
    cases j? with
    | none => rfl
    | some j =>
      simp only [shiftAnswer, Option.map_some, Found.unexpected_shift]
      by_cases hj : j.token = .join
      · simp [hj]
      · simp [hj]

namespace Run

/-- **Reading from a place further on** comes to the same segments, and to the same fault further
on. -/
theorem ofCursor_shift (n : Nat) (ifBlank : ParseError) (p : Cursor) :
    ofCursor (ifBlank.shift n) (p.shift n) = (ofCursor ifBlank p).shift n := by
  induction p using Cursor.joint_induction generalizing ifBlank with
  | step p ih =>
    rw [ofCursor_eq, ofCursor_eq ifBlank, Cursor.segment_shift]
    cases hs : p.segment with
    | error e => rfl
    | ok x? =>
      cases x? with
      | none => rfl
      | some x =>
        obtain ⟨g, q⟩ := x
        simp only [shiftAnswer, Option.map_some, Prod.map, id]
        unfold afterSegment
        rw [Cursor.joint_shift]
        cases hj : q.joint with
        | error e => rfl
        | ok j? =>
          cases j? with
          | none => rfl
          | some j =>
            -- the fault kept for the operator moves along with it
            have hrest := ih g q j hs hj ⟨j.span, .trailingJoinOperator⟩
            simp only [shiftAnswer, Option.map_some]
            exact congrArg (after g) hrest

/-- Why a segment is wanted matters only where none comes. -/
theorem ofCursor_congr {p : Cursor} (h : ¬ IsBlankText p.rest) (b b' : ParseError) :
    ofCursor b p = ofCursor b' p := by
  rw [ofCursor_eq, ofCursor_eq b']
  cases hs : p.segment with
  | error e => rfl
  | ok x? =>
    cases x? with
    | none => exact absurd (Cursor.segment_eq_none_iff.1 hs) h
    | some x => rfl

/-- Unless it is blank, a text is read at any place as it is read at the beginning. -/
theorem ofCursor_of_not_blank {cs : List Char} (h : ¬ IsBlankText cs) (b b' : ParseError)
    (o : Nat) : ofCursor b ⟨o, cs⟩ = (ofCursor b' ⟨0, cs⟩).shift o := by
  rw [← ofCursor_shift, ofCursor_congr (p := ⟨o, cs⟩) h b (b'.shift o)]
  simp

end Run

namespace Pattern

/-- What can stand before an expression: blanks alone, or an expression and a `+`. The list holds
the segments of that expression. -/
inductive Context : String → List Segment → Prop
  | blank {w : String} : IsBlankText w.toList → Context w []
  | join {t : String} {p : Pattern} : parse t = .ok p → Context (t ++ "+") p.segments

/-- An expression and a `+` are read as the segments of the expression; what follows is read as if
it stood alone, but for its place. -/
theorem ofString_join {t : String} {p : Pattern} (hp : parse t = .ok p) (s : String) :
    Run.ofString (t ++ "+" ++ s) =
      (Run.ofCursor ⟨.over t.utf8ByteSize ['+'], .trailingJoinOperator⟩
        ⟨(t ++ "+").utf8ByteSize, s.toList⟩).afterAll p.segments := by
  have hplus : (t ++ "+" ++ s).toList = t.toList ++ '+' :: s.toList := by simp
  unfold Run.ofString Cursor.ofString
  rw [hplus, Run.ofCursor_of_writes (parse_eq_ok_iff.1 hp), Run.afterSegment_plus, Nat.zero_add,
    size_toList, String.utf8ByteSize_append]
  rfl

/-- Behind a context a text is read as it is read alone, with the segments of the context first. -/
theorem ofString_append {t : String} {gs : List Segment} (ht : Context t gs) {s : String}
    (hs : ¬ IsBlankText s.toList) :
    Run.ofString (t ++ s) = ((Run.ofString s).shift t.utf8ByteSize).afterAll gs := by
  cases ht with
  | blank hw =>
    unfold Run.ofString Cursor.ofString
    rw [String.toList_append, Run.ofCursor_append hw, Run.ofCursor_of_not_blank hs, Nat.zero_add,
      size_toList]
    rfl
  | join hp =>
    rw [ofString_join hp, Run.ofCursor_of_not_blank hs]
    rfl

/-- **Reading is compositional at `+`.** -/
theorem parse_append_context :
    (∀ t gs s, Context t gs → ¬ IsBlankText s.toList →
      (∀ p, parse s = .ok p → parse (t ++ s) = .ok ⟨gs ++ p.segments⟩) ∧
      ∀ a b k, parse s = .error ⟨⟨a, b⟩, k⟩ →
        parse (t ++ s) = .error ⟨⟨a + t.utf8ByteSize, b + t.utf8ByteSize⟩, k⟩) ∧
    ∀ t p s, parse t = .ok p → IsBlankText s.toList →
      parse (t ++ "+" ++ s) = .error
        ⟨⟨(t ++ "+").utf8ByteSize - 1, (t ++ "+").utf8ByteSize⟩, .trailingJoinOperator⟩ := by
  constructor
  · intro t gs s ht hs
    have hrun := ofString_append ht hs
    constructor
    · intro p hp
      rw [parse, Run.result_eq_ok_iff] at hp
      rw [parse, hrun, hp]
      rfl
    · intro a b k he
      rw [parse, Run.result_eq_error_iff] at he
      rw [parse, hrun, Run.result_eq_error_iff, Run.afterAll, Run.shift, he]
      rfl
  · intro t p s hp hs
    have hplus : (t ++ "+").utf8ByteSize = t.utf8ByteSize + 1 := String.utf8ByteSize_append
    rw [parse, ofString_join hp, Run.ofCursor_of_blank hs, Run.result_eq_error_iff, hplus]
    rfl

/-- Bytes are counted, not characters: the span of `é` moves by six, two of them for `ä`. -/
theorem parse_append_context_umlaut :
    Context ("\"ä\" " ++ "+") [⟨.text, "\"ä\"", some "ä"⟩] ∧
      parse ("\"ä\" " ++ "+" ++ "RANDOM(#é)") =
        .error ⟨⟨14, 16⟩, .invalidArgumentCharacter (.method .random) 'é'⟩ ∧
      parse ("\"ä\" " ++ "+" ++ "ORG_UNIT_CODE()") =
        .ok ⟨[⟨.text, "\"ä\"", some "ä"⟩, ⟨.method .orgUnitCode, "ORG_UNIT_CODE()", none⟩]⟩ ∧
      parse ("\"ä\" " ++ "+" ++ " ") = .error ⟨⟨5, 6⟩, .trailingJoinOperator⟩ := by
  obtain ⟨hwanted, htrailing⟩ := parse_append_context
  have ht : parse "\"ä\" " = .ok ⟨[⟨.text, "\"ä\"", some "ä"⟩]⟩ :=
    Run.result_eq_ok_iff.2 (by decide +kernel)
  have hcontext := Context.join ht
  refine ⟨hcontext, ?_, ?_, ?_⟩
  · have hs : ¬ IsBlankText "RANDOM(#é)".toList := by decide
    have hfault : parse "RANDOM(#é)" =
        .error ⟨⟨8, 10⟩, .invalidArgumentCharacter (.method .random) 'é'⟩ :=
      Run.result_eq_error_iff.2 (by decide +kernel)
    exact (hwanted _ _ _ hcontext hs).2 8 10 _ hfault
  · have hs : ¬ IsBlankText "ORG_UNIT_CODE()".toList := by decide
    have hcall : parse "ORG_UNIT_CODE()" =
        .ok ⟨[⟨.method .orgUnitCode, "ORG_UNIT_CODE()", none⟩]⟩ :=
      Run.result_eq_ok_iff.2 (by decide +kernel)
    exact (hwanted _ _ _ hcontext hs).1 _ hcall
  · exact htrailing _ _ " " ht (by decide)

end Pattern

end IdPattern
