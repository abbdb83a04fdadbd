import IdPattern.Embed.Constant
import IdPattern.Embed.Lexeme

/-!
# Reading constants

What a compiler makes of the constant of a pattern: the program text is cut into symbols, and these
are the fixed symbols of a block expression around calls with three arguments, one call for each
segment. A kind is given by its name, a text by a string literal in whatever way it is written, and
a parameter is `None` or `Some` of a text. The frame and the calls are spelled out here, and not
taken from what writes them.
-/

namespace IdPattern.Embed

/-- What follows given words and marks. -/
def expect? (words : List String) (ss : List Symbol) : Option (List Symbol) :=
  if (words.map Symbol.ofString).isPrefixOf ss then some (ss.drop words.length) else none

theorem expect?_eq_some_iff {words : List String} {ss rest : List Symbol} :
    expect? words ss = some rest ↔ ss = words.map Symbol.ofString ++ rest := by
  unfold expect?
  split
  · next h =>
    obtain ⟨after, rfl⟩ := List.isPrefixOf_iff_prefix.1 h
    simp [eq_comm]
  · next h =>
    simp only [reduceCtorEq, false_iff]
    rintro rfl
    exact h (List.isPrefixOf_iff_prefix.2 (List.prefix_append ..))

def openingWords : List String :=
  ["\x7b", "const", "SEGMENTS", ":", "&", "[", "textpattern", ":", ":", "Segment", "<", "'",
    "static", ">", "]", "=", "&", "["]

def closingWords : List String :=
  ["]", ";", "textpattern", ":", ":", "BorrowedTextPattern", ":", ":", "new", "(", "SEGMENTS", ")",
    "\x7d"]

def callWords : List String :=
  ["textpattern", ":", ":", "Segment", ":", ":", "new_const", "(", "textpattern", ":", ":",
    "SegmentKind", ":", ":"]

def kindOf? : List Symbol → Option (Kind × List Symbol)
  | s :: rest => (Kind.all.find? fun k => Symbol.ofString (variant k) = s).map (·, rest)
  | [] => none

def textOf? : List Symbol → Option (String × List Symbol)
  | ⟨.text value, _⟩ :: rest => some (String.ofList value, rest)
  | _ => none

def parameterOf? (ss : List Symbol) : Option (Option String × List Symbol) :=
  match expect? ["None"] ss with
  | some rest => some (none, rest)
  | none => do
    let ss ← expect? ["Some", "("] ss
    let (s, ss) ← textOf? ss
    let ss ← expect? [")"] ss
    return (some s, ss)

def segmentOf? (ss : List Symbol) : Option (Segment × List Symbol) := do
  let ss ← expect? callWords ss
  let (kind, ss) ← kindOf? ss
  let ss ← expect? [","] ss
  let (rawText, ss) ← textOf? ss
  let ss ← expect? [","] ss
  let (parameter?, ss) ← parameterOf? ss
  let ss ← expect? [")"] ss
  return (⟨kind, rawText, parameter?⟩, ss)

theorem length_of_expect? {words : List String} {ss rest : List Symbol}
    (h : expect? words ss = some rest) : ss.length = words.length + rest.length := by
  rw [expect?_eq_some_iff.1 h, List.length_append, List.length_map]

theorem length_of_kindOf? {ss rest : List Symbol} {k : Kind} (h : kindOf? ss = some (k, rest)) :
    ss.length = rest.length + 1 := by
  cases ss with
  | nil => cases h
  | cons s ss =>
    simp only [kindOf?, Option.map_eq_some_iff, Prod.mk.injEq] at h
    obtain ⟨-, -, -, rfl⟩ := h
    rfl

theorem length_of_textOf? {ss rest : List Symbol} {s : String} (h : textOf? ss = some (s, rest)) :
    ss.length = rest.length + 1 := by
  unfold textOf? at h
  split at h
  · cases h
    rfl
  · cases h

theorem length_of_parameterOf? {ss rest : List Symbol} {p? : Option String}
    (h : parameterOf? ss = some (p?, rest)) : rest.length < ss.length := by
  unfold parameterOf? at h
  split at h
  · next hnone =>
    cases h
    have := length_of_expect? hnone
    simp only [List.length_singleton] at this
    omega
  · simp only [Option.bind_eq_bind, Option.bind_eq_some_iff, Prod.exists] at h
    obtain ⟨s₁, h₁, s, s₂, h₂, s₃, h₃, h⟩ := h
    cases h
    have := length_of_expect? h₁
    have := length_of_textOf? h₂
    have := length_of_expect? h₃
    simp only [List.length_cons, List.length_nil] at *
    omega

/-- A segment takes at least one symbol. -/
theorem length_of_segmentOf? {ss rest : List Symbol} {g : Segment}
    (h : segmentOf? ss = some (g, rest)) : rest.length < ss.length := by
  simp only [segmentOf?, Option.bind_eq_bind, Option.bind_eq_some_iff, Prod.exists] at h
  obtain ⟨s₁, h₁, k, s₂, h₂, s₃, h₃, r, s₄, h₄, s₅, h₅, p, s₆, h₆, s₇, h₇, h⟩ := h
  cases h
  have := length_of_expect? h₁
  have := length_of_kindOf? h₂
  have := length_of_expect? h₃
  have := length_of_textOf? h₄
  have := length_of_expect? h₅
  have := length_of_parameterOf? h₆
  have := length_of_expect? h₇
  omega

/-- Reads the segments after the first one, each with a comma before it. -/
def furtherOf? (ss : List Symbol) : Option (List Segment × List Symbol) :=
  match _hc : expect? [","] ss with
  | none => some ([], ss)
  | some ss' =>
    match _hg : segmentOf? ss' with
    | none => none
    | some (g, rest) => (furtherOf? rest).map fun (gs, rest) => (g :: gs, rest)
termination_by ss.length
decreasing_by
  have := length_of_expect? _hc
  have := length_of_segmentOf? _hg
  omega

/-- Reads a list of segments, which ends before a bracket. -/
def segmentsOf? (ss : List Symbol) : Option (List Segment × List Symbol) :=
  match expect? ["]"] ss with
  | some _ => some ([], ss)
  | none => do
    let (g, ss) ← segmentOf? ss
    let (gs, ss) ← furtherOf? ss
    return (g :: gs, ss)

def patternOf? (ss : List Symbol) : Option Pattern := do
  let ss ← expect? openingWords ss
  let (gs, ss) ← segmentsOf? ss
  let ss ← expect? closingWords ss
  if ss = [] then return ⟨gs⟩ else none

/-- The pattern that a program text makes, if it is a constant of one. -/
def readConstant? (program : String) : Option Pattern :=
  (symbols? 0 program.toList).bind patternOf?

end IdPattern.Embed
