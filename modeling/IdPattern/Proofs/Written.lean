import Mathlib.Data.List.TakeWhile
import IdPattern.Pattern.Parser
import IdPattern.Proofs.Quotes

/-!
# Segments that can be written

`Segment.Written` lists five forms of segments. A reader knows two: a quoted text, and the call of a
method whose argument the method takes. `Segment.written_iff` says that these are the same segments,
so that a proof about reading treats the four methods alike and looks at `Method.Takes` only.
-/

namespace IdPattern

/-! ## Arguments -/

/-- An argument ends at the first closing parenthesis. -/
theorem splitArgument_eq_some_iff {cs argument rest : List Char} :
    splitArgument cs = some (argument, rest) ↔ cs = argument ++ ')' :: rest ∧ ')' ∉ argument := by
  constructor
  · intro h
    refine ⟨append_of_splitArgument h, ?_⟩
    intro hmem
    unfold splitArgument at h
    split at h
    · simp at h
    · simp only [Option.some.injEq, Prod.mk.injEq] at h
      rw [← h.1] at hmem
      simpa using List.mem_takeWhile_imp hmem
  · rintro ⟨rfl, h⟩
    have hne : ∀ c ∈ argument, (c != ')') = true := by
      intro c hc
      simpa using ne_of_mem_of_not_mem hc h
    simp [splitArgument, List.dropWhile_append_of_pos hne, List.takeWhile_append_of_pos hne]

/-- An argument has no end only where there is no closing parenthesis at all. -/
@[simp] theorem splitArgument_eq_none_iff {cs : List Char} :
    splitArgument cs = none ↔ ')' ∉ cs := by
  have hdrop : splitArgument cs = none ↔ cs.dropWhile (· != ')') = [] := by
    unfold splitArgument
    cases cs.dropWhile (· != ')') <;> simp
  rw [hdrop, List.dropWhile_eq_nil_iff]
  constructor
  · intro h hmem
    simpa using h _ hmem
  · rintro h c hc
    simpa using ne_of_mem_of_not_mem hc h

def Method.Takes (m : Method) (a : List Char) : Prop :=
  match m.argument with
  | .absent => a = []
  | .free => a ≠ []
  | .over alphabet => a ≠ [] ∧ ∀ c ∈ a, c ∈ alphabet

/-- There is a fault in an argument exactly if the method does not take it. -/
@[simp] theorem Method.fault?_eq_none_iff {m : Method} {group : Nat} {a : List Char} :
    m.fault? group a = none ↔ m.Takes a := by
  unfold fault? Takes
  cases m.argument with
  | absent => cases a <;> simp
  | free => cases a <;> simp
  | «over» alphabet =>
    cases a with
    | nil => simp
    | cons c a =>
      -- a fault is a character that is left when the alphabet is skipped
      have hnil := List.dropWhile_eq_nil_iff (l := c :: a) (p := (· ∈ alphabet))
      simp only [decide_eq_true_eq] at hnil
      simp only [ne_eq, reduceCtorEq, not_false_eq_true, true_and]
      rw [← hnil]
      split <;> simp [*]

/-! ## The two forms of a segment -/

namespace Segment

def ofContent (content : List Char) : Segment :=
  ⟨.text, String.ofList ('"' :: (content ++ ['"'])), some (String.ofList (unescape content))⟩

def ofCall (m : Method) (a : List Char) : Segment :=
  ⟨.method m, m.name ++ "(" ++ String.ofList a ++ ")", m.parameter? a⟩

@[simp] theorem toList_rawText_ofContent (content : List Char) :
    (ofContent content).rawText.toList = '"' :: (content ++ ['"']) := by
  simp [ofContent]

/-- The raw text of a call is the name of the method with the argument in parentheses. -/
@[simp] theorem toList_rawText_ofCall (m : Method) (a : List Char) :
    (ofCall m a).rawText.toList = m.name.toList ++ '(' :: (a ++ [')']) := by
  simp [ofCall]

/-- The five forms of the grammar are quoted texts and calls. -/
theorem written_iff {g : Segment} :
    g.Written ↔ (∃ content, IsContent content ∧ g = ofContent content) ∨
      ∃ m a, m.Takes a ∧ ')' ∉ a ∧ g = ofCall m a := by
  constructor
  · intro h
    cases h with
    | @text content hq hlast => exact .inl ⟨content, ⟨hq, hlast⟩, rfl⟩
    | @sequential format hne h =>
      refine .inr ⟨.sequential, format, ⟨hne, by simpa using h⟩, fun hp => ?_, rfl⟩
      exact absurd (h _ hp) (by decide)
    | @random format hne h =>
      refine .inr ⟨.random, format, ⟨hne, by simpa using h⟩, fun hp => ?_, rfl⟩
      exact absurd (h _ hp) (by decide)
    | orgUnitCode => exact .inr ⟨.orgUnitCode, [], rfl, by simp, rfl⟩
    | @currentDate format hne hp => exact .inr ⟨.currentDate, format, hne, hp, rfl⟩
  · rintro (⟨content, ⟨hq, hlast⟩, rfl⟩ | ⟨m, a, ha, hp, rfl⟩)
    · exact .text hq hlast
    · cases m with
      | sequential => exact .sequential ha.1 (by simpa using ha.2)
      | random => exact .random ha.1 (by simpa using ha.2)
      | orgUnitCode =>
        obtain rfl : a = [] := ha
        exact .orgUnitCode
      | currentDate => exact .currentDate ha hp

end Segment

end IdPattern
