import Mathlib.Order.Bounds.Basic
import IdPattern.Proofs.Values

/-!
# The first misfit

`Pattern.misfit?` compares the counts and then looks for the first pair of a segment and a value
that do not fit. What it finds can be told without the search: the misfit is at the least place where
a pair does not fit, and there is none if all pairs do.

The search keeps the index of the pair it looks at. Two lemmas take the index out of every other
proof: a search that begins at a later index finds the same misfit later by as much
(`firstMisfit?_shift`), and a search along two lists, one after the other, is two searches, the
second of which begins where the first one ends (`firstMisfit?_append`). Together they say that
checking is compositional.
-/

namespace IdPattern

/-- The same failure where `n` more segments come first. Counts do not say where. -/
def ValueError.shift (n : Nat) : ValueError → ValueError
  | segmentCountMismatch expected actual => segmentCountMismatch expected actual
  | invalidValue index k => invalidValue (index + n) k

/-! ## Searching along pairs -/

section Search

variable {index n : Nat} {pair : Segment × String} {pairs others : List (Segment × String)}
  {e : ValueError}

theorem firstMisfit?_cons_of_accepts (h : pair.1.accepts pair.2) :
    firstMisfit? index (pair :: pairs) = firstMisfit? (index + 1) pairs :=
  if_pos h

theorem firstMisfit?_cons_of_not_accepts (h : ¬ pair.1.accepts pair.2) :
    firstMisfit? index (pair :: pairs) = some (.invalidValue index pair.1.kind) :=
  if_neg h

/-- The search counts on from the index that it is given. -/
theorem firstMisfit?_shift :
    firstMisfit? (index + n) pairs = (firstMisfit? index pairs).map (·.shift n) := by
  induction pairs generalizing index with
  | nil => rfl
  | cons pair pairs ih =>
    by_cases hpair : pair.1.accepts pair.2
    · rw [firstMisfit?_cons_of_accepts hpair, firstMisfit?_cons_of_accepts hpair,
        Nat.add_right_comm, ih]
    · rw [firstMisfit?_cons_of_not_accepts hpair, firstMisfit?_cons_of_not_accepts hpair]
      rfl

/-- The first misfit of two lists is that of the first, or else that of the second. -/
theorem firstMisfit?_append :
    firstMisfit? index (pairs ++ others) =
      (firstMisfit? index pairs).or (firstMisfit? (index + pairs.length) others) := by
  induction pairs generalizing index with
  | nil => rfl
  | cons pair pairs ih =>
    rw [List.cons_append]
    by_cases hpair : pair.1.accepts pair.2
    · rw [firstMisfit?_cons_of_accepts hpair, firstMisfit?_cons_of_accepts hpair, ih,
        List.length_cons, Nat.add_assoc, Nat.add_comm 1]
    · rw [firstMisfit?_cons_of_not_accepts hpair, firstMisfit?_cons_of_not_accepts hpair]
      rfl

/-- The places, counted from zero, of the pairs that do not fit. -/
def misfitPlaces (pairs : List (Segment × String)) : Set Nat :=
  {i | ∃ pair ∈ pairs[i]?, ¬ pair.1.accepts pair.2}

/-- A pair that does not fit, with pairs before it that do, has the least place. -/
theorem isLeast_misfitPlaces_append (hpairs : ∀ pair ∈ pairs, pair.1.accepts pair.2)
    (hpair : ¬ pair.1.accepts pair.2) :
    IsLeast (misfitPlaces (pairs ++ pair :: others)) pairs.length := by
  constructor
  · exact ⟨pair, by simp, hpair⟩
  · rintro i ⟨x, hx, hmisfit⟩
    by_contra hlt
    -- a misfit before this place would be among the pairs that fit
    rw [List.getElem?_append_left (Nat.lt_of_not_le hlt)] at hx
    exact hmisfit (hpairs x (List.mem_of_getElem? hx))

/-- A misfit that is found splits the list: all pairs before it fit. -/
theorem exists_append_of_firstMisfit? (h : firstMisfit? index pairs = some e) :
    ∃ before pair after, pairs = before ++ pair :: after ∧
      (∀ x ∈ before, x.1.accepts x.2) ∧ ¬ pair.1.accepts pair.2 ∧
        e = .invalidValue (index + before.length) pair.1.kind := by
  induction pairs generalizing index with
  | nil => cases h
  | cons pair pairs ih =>
    by_cases hpair : pair.1.accepts pair.2
    · rw [firstMisfit?_cons_of_accepts hpair] at h
      obtain ⟨before, x, after, rfl, hbefore, hx, rfl⟩ := ih h
      refine ⟨pair :: before, x, after, rfl, ?_, hx, ?_⟩
      · exact List.forall_mem_cons.2 ⟨hpair, hbefore⟩
      · rw [List.length_cons, Nat.add_assoc, Nat.add_comm 1]
    · rw [firstMisfit?_cons_of_not_accepts hpair] at h
      cases h
      exact ⟨[], pair, pairs, rfl, by simp, hpair, rfl⟩

end Search

/-- The misfit that is found is the one at the least place. -/
theorem firstMisfit?_eq_some_iff {pairs : List (Segment × String)} {e : ValueError} :
    firstMisfit? 0 pairs = some e ↔
      ∃ i pair, IsLeast (misfitPlaces pairs) i ∧ pairs[i]? = some pair ∧
        e = .invalidValue i pair.1.kind := by
  constructor
  · intro h
    obtain ⟨before, pair, after, rfl, hbefore, hpair, rfl⟩ := exists_append_of_firstMisfit? h
    refine ⟨before.length, pair, isLeast_misfitPlaces_append hbefore hpair, by simp, ?_⟩
    rw [Nat.zero_add]
  · rintro ⟨i, pair, hleast, hi, rfl⟩
    cases h : firstMisfit? 0 pairs with
    | none =>
      obtain ⟨x, hx, hmisfit⟩ := hleast.1
      exact absurd (firstMisfit?_eq_none_iff.1 h x (List.mem_of_getElem? hx)) hmisfit
    | some e =>
      obtain ⟨before, x, after, rfl, hbefore, hx, rfl⟩ := exists_append_of_firstMisfit? h
      -- there is only one least place
      obtain rfl := (isLeast_misfitPlaces_append hbefore hx).unique hleast
      obtain rfl : x = pair := by simpa using hi
      rw [Nat.zero_add]

/-! ## Lists of values -/

namespace Pattern

theorem misfit?_of_length_eq {p : Pattern} {values : List String}
    (h : p.segments.length = values.length) :
    p.misfit? values = firstMisfit? 0 (p.segments.zip values) :=
  if_pos h

/-- The count is wrong exactly if the failure says so. -/
theorem misfit?_eq_count_iff {p : Pattern} {values : List String} {expected actual : Nat} :
    p.misfit? values = some (.segmentCountMismatch expected actual) ↔
      p.segments.length ≠ values.length ∧ expected = p.segments.length ∧
        actual = values.length := by
  by_cases h : p.segments.length = values.length
  · rw [misfit?_of_length_eq h]
    refine iff_of_false ?_ (fun hne => hne.1 h)
    intro hmisfit
    obtain ⟨i, pair, -, -, he⟩ := firstMisfit?_eq_some_iff.1 hmisfit
    cases he
  · have hmisfit : p.misfit? values =
        some (.segmentCountMismatch p.segments.length values.length) := if_neg h
    rw [hmisfit]
    constructor
    · rintro ⟨⟩
      exact ⟨h, rfl, rfl⟩
    · rintro ⟨-, rfl, rfl⟩
      rfl

/-- Of two patterns one after the other, the failure of the second is moved by the segments of the
first. -/
theorem misfit?_append {p q : Pattern} {values others : List String}
    (hp : p.segments.length = values.length) (hq : q.segments.length = others.length) :
    misfit? ⟨p.segments ++ q.segments⟩ (values ++ others) =
      (p.misfit? values).or ((q.misfit? others).map (·.shift p.segments.length)) := by
  have hlength : (p.segments ++ q.segments).length = (values ++ others).length := by
    rw [List.length_append, List.length_append, hp, hq]
  have hzip : (p.segments.zip values).length = p.segments.length := by
    rw [List.length_zip, ← hp, Nat.min_self]
  rw [misfit?_of_length_eq hlength, misfit?_of_length_eq hp, misfit?_of_length_eq hq,
    List.zip_append hp, firstMisfit?_append, firstMisfit?_shift, hzip]

/-- **The first misfit is reported, and checking is compositional.** Other counts are a failure
whatever the values are. With the same counts the failure is at the least place at which a value does
not fit its segment. Of two lists of segments one after the other, the second is looked at only if
the first has no failure. -/
theorem misfit?_first (p : Pattern) (values : List String) :
    (∀ expected actual, p.misfit? values = some (.segmentCountMismatch expected actual) ↔
      p.segments.length ≠ values.length ∧ expected = p.segments.length ∧
        actual = values.length) ∧
    (p.segments.length = values.length →
      (p.misfit? values = none ↔ ∀ pair ∈ p.segments.zip values, pair.1.accepts pair.2) ∧
      ∀ index k, p.misfit? values = some (.invalidValue index k) ↔
        IsLeast (misfitPlaces (p.segments.zip values)) index ∧
          ∃ g, p.segments[index]? = some g ∧ g.kind = k) ∧
    ∀ (q : Pattern) (others : List String),
      p.segments.length = values.length → q.segments.length = others.length →
      misfit? ⟨p.segments ++ q.segments⟩ (values ++ others) =
        match p.misfit? values with
        | some e => some e
        | none => (q.misfit? others).map (·.shift p.segments.length) := by
  refine ⟨?_, ?_, ?_⟩
  · intro expected actual
    exact misfit?_eq_count_iff
  · intro h
    rw [misfit?_of_length_eq h]
    refine ⟨firstMisfit?_eq_none_iff, ?_⟩
    intro index k
    rw [firstMisfit?_eq_some_iff]
    constructor
    · rintro ⟨i, ⟨g, v⟩, hleast, hi, he⟩
      cases he
      exact ⟨hleast, g, (List.getElem?_zip_eq_some.1 hi).1, rfl⟩
    · rintro ⟨hleast, g, hg, rfl⟩
      obtain ⟨pair, hpair, -⟩ := hleast.1
      have hsegment := (List.getElem?_zip_eq_some.1 hpair).1
      obtain rfl : g = pair.1 := Option.some.inj (hg.symm.trans hsegment)
      exact ⟨index, pair, hleast, hpair, rfl⟩
  · intro q others hp hq
    rw [misfit?_append hp hq]
    cases p.misfit? values <;> rfl

/-- The text comes first in the longer pattern, so the small letter is counted one place later. -/
theorem misfit?_first_later :
    let p : Pattern := ⟨[⟨.text, "\"é\"", some "é"⟩]⟩
    let q : Pattern := ⟨[⟨.method .sequential, "SEQUENTIAL(#)", some "#"⟩,
      ⟨.method .random, "RANDOM(X)", some "X"⟩]⟩
    IsLeast (misfitPlaces (q.segments.zip ["0", "a"])) 1 ∧
      misfit? ⟨p.segments ++ q.segments⟩ (["é"] ++ ["0", "a"]) =
        some (.invalidValue 2 (.method .random)) ∧
      misfit? ⟨p.segments ++ q.segments⟩ (["e"] ++ ["0", "a"]) = some (.invalidValue 0 .text) := by
  intro p q
  have hfits : p.misfit? ["é"] = none := by decide
  have hmisfit : q.misfit? ["0", "a"] = some (.invalidValue 1 (.method .random)) := by decide
  have htext : p.misfit? ["e"] = some (.invalidValue 0 .text) := by decide
  refine ⟨?_, ?_, ?_⟩
  · exact (((misfit?_first q ["0", "a"]).2.1 rfl).2 1 (.method .random)).1 hmisfit |>.1
  · rw [(misfit?_first p ["é"]).2.2 q ["0", "a"] rfl rfl, hfits, hmisfit]
    rfl
  · rw [(misfit?_first p ["e"]).2.2 q ["0", "a"] rfl rfl, htext]

end Pattern

end IdPattern
