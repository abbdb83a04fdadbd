import IdPattern.Text.Span

/-!
# Slices of a text

A span names a part of a text only if it is not inverted, ends within the text, and has both its
ends between two characters. `Span.slice?` is that part, or nothing: a position inside of a
character belongs to no part.
-/

namespace IdPattern

/-- The text before and after a number of bytes, if they end between two characters. -/
def splitAt? (n : Nat) : List Char → Option (List Char × List Char)
  | [] => if n = 0 then some ([], []) else none
  | c :: cs =>
    if n = 0 then some ([], c :: cs)
    else if n < c.utf8Size then none
    else (splitAt? (n - c.utf8Size) cs).map fun (before, after) => (c :: before, after)

@[simp] theorem splitAt?_zero (cs : List Char) : splitAt? 0 cs = some ([], cs) := by
  cases cs <;> simp [splitAt?]

/-- The boundary between two parts is found by the size of the first. -/
@[simp] theorem splitAt?_size_append (before after : List Char) :
    splitAt? (size before) (before ++ after) = some (before, after) := by
  induction before with
  | nil => exact splitAt?_zero after
  | cons c before ih =>
    have hne : size (c :: before) ≠ 0 := Nat.ne_of_gt (size_pos (List.cons_ne_nil c before))
    have hle : ¬ size (c :: before) < c.utf8Size := Nat.not_lt.2 (Nat.le_add_right _ _)
    have hsub : size (c :: before) - c.utf8Size = size before := Nat.add_sub_cancel_left ..
    rw [List.cons_append, splitAt?, if_neg hne, if_neg hle, hsub, ih]
    rfl

/-- A position that splits a text stands between two characters. -/
theorem append_of_splitAt? {n : Nat} {cs before after : List Char}
    (h : splitAt? n cs = some (before, after)) : cs = before ++ after ∧ n = size before := by
  induction cs generalizing n before with
  | nil =>
    unfold splitAt? at h
    split at h
    · next hn =>
      cases h
      exact ⟨rfl, hn⟩
    · cases h
  | cons c cs ih =>
    unfold splitAt? at h
    split at h
    · next hn =>
      cases h
      exact ⟨rfl, hn⟩
    · split at h
      · cases h
      · next hle =>
        simp only [Option.map_eq_some_iff, Prod.exists, Prod.mk.injEq] at h
        obtain ⟨before', after', h', rfl, rfl⟩ := h
        obtain ⟨rfl, hn⟩ := ih h'
        refine ⟨rfl, ?_⟩
        rw [size_cons]
        omega

theorem splitAt?_eq_some_iff {n : Nat} {cs before after : List Char} :
    splitAt? n cs = some (before, after) ↔ cs = before ++ after ∧ n = size before := by
  constructor
  · exact append_of_splitAt?
  · rintro ⟨rfl, rfl⟩
    exact splitAt?_size_append before after

/-- A position divides a text in one way only. -/
theorem append_inj_of_size {before after before' after' : List Char}
    (h : before ++ after = before' ++ after') (hsize : size before = size before') :
    before = before' ∧ after = after' := by
  have hsplit := splitAt?_size_append before after
  rw [h, hsize, splitAt?_size_append] at hsplit
  cases hsplit
  exact ⟨rfl, rfl⟩

namespace Span

/-- The part of a text that a span names. -/
def slice? (span : Span) (cs : List Char) : Option (List Char) :=
  (splitAt? span.stop cs).bind fun (front, _) => (splitAt? span.start front).map Prod.snd

/-- A span names a part exactly if the part stands there, with its first byte at the start of the
span and as many bytes as the span has. -/
theorem slice?_eq_some_iff {span : Span} {cs inside : List Char} :
    span.slice? cs = some inside ↔
      ∃ before after, cs = before ++ inside ++ after ∧ span = .over (size before) inside := by
  obtain ⟨start, stop⟩ := span
  simp only [slice?, Option.bind_eq_some_iff, Option.map_eq_some_iff, Prod.exists,
    splitAt?_eq_some_iff, Span.over, mk.injEq]
  constructor
  · rintro ⟨front, after, ⟨rfl, rfl⟩, before, inside, ⟨rfl, rfl⟩, rfl⟩
    exact ⟨before, after, rfl, rfl, size_append before inside⟩
  · rintro ⟨before, after, rfl, rfl, rfl⟩
    exact ⟨before ++ inside, after, ⟨rfl, (size_append before inside).symm⟩, before, inside,
      ⟨rfl, rfl⟩, rfl⟩

theorem start_le_stop_of_slice? {span : Span} {cs inside : List Char}
    (h : span.slice? cs = some inside) : span.start ≤ span.stop := by
  obtain ⟨before, after, -, rfl⟩ := slice?_eq_some_iff.1 h
  exact Nat.le_add_right _ _

/-- Two parts that meet make up a part. -/
theorem slice?_append {a b c : Nat} {cs inside inside' : List Char}
    (h : slice? ⟨a, b⟩ cs = some inside) (h' : slice? ⟨b, c⟩ cs = some inside') :
    slice? ⟨a, c⟩ cs = some (inside ++ inside') := by
  obtain ⟨before, after, hcs, hspan⟩ := slice?_eq_some_iff.1 h
  obtain ⟨before', after', hcs', hspan'⟩ := slice?_eq_some_iff.1 h'
  simp only [Span.over, mk.injEq] at hspan hspan'
  obtain ⟨rfl, rfl⟩ := hspan
  obtain ⟨hmeet, rfl⟩ := hspan'
  rw [List.append_assoc] at hcs'
  obtain ⟨rfl, rfl⟩ := append_inj_of_size (hcs.symm.trans hcs') (by rw [size_append, hmeet])
  refine slice?_eq_some_iff.2 ⟨before, after', by rw [hcs]; simp, ?_⟩
  simp [Span.over, Nat.add_assoc]

/-- The three bytes of `aä` hold two characters, and no part ends within the second. -/
example : slice? ⟨1, 3⟩ ['a', 'ä'] = some ['ä'] ∧ slice? ⟨0, 2⟩ ['a', 'ä'] = none ∧
    slice? ⟨3, 1⟩ ['a', 'ä'] = none := by decide

end Span

end IdPattern
