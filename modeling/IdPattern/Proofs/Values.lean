import IdPattern.Pattern.Grammar
import IdPattern.Pattern.Values
import IdPattern.Proofs.Canonical

/-!
# The validator accepts exactly the language of a pattern

`Segment.accepts` checks a value by the parameter of a segment, whatever the parameter is, and a
format character that it does not know fits nothing. On the segments that can be written this never
happens: the alphabets that the reader allows in arguments are the ones that the validator knows.
So a value is accepted exactly if it belongs to the segment (`Segment.Written.accepts_iff`), and to
every written segment some value belongs (`Segment.Written.exists_accepts`).

A list of values fits a pattern if it fits segment by segment, which is an induction along the
search for the first misfit (`Pattern.misfit?_eq_none_iff`).
-/

namespace IdPattern

/-! ## Formats -/

theorem isDigit_iff {c : Char} : c.isDigit ↔ '0' ≤ c ∧ c ≤ '9' :=
  Bool.and_eq_true_iff.trans (and_congr decide_eq_true_iff decide_eq_true_iff)

theorem isUpper_iff {c : Char} : c.isUpper ↔ 'A' ≤ c ∧ c ≤ 'Z' :=
  decide_eq_true_iff

theorem isLower_iff {c : Char} : c.isLower ↔ 'a' ≤ c ∧ c ≤ 'z' :=
  Bool.and_eq_true_iff.trans (and_congr decide_eq_true_iff decide_eq_true_iff)

/-- The check of a character knows the three classes and no others. -/
@[simp] theorem drawn_iff {f c : Char} : drawn f c ↔ Drawn f c := by
  constructor
  · intro h
    unfold drawn at h
    split at h
    · exact .digit (isDigit_iff.1 h).1 (isDigit_iff.1 h).2
    · exact .capital (isUpper_iff.1 h).1 (isUpper_iff.1 h).2
    · exact .small (isLower_iff.1 h).1 (isLower_iff.1 h).2
    · cases h
  · intro h
    cases h with
    | digit hlow hhigh => exact isDigit_iff.2 ⟨hlow, hhigh⟩
    | capital hlow hhigh => exact isUpper_iff.2 ⟨hlow, hhigh⟩
    | small hlow hhigh => exact isLower_iff.2 ⟨hlow, hhigh⟩

@[simp] theorem drawnFrom_iff {fs cs : List Char} : drawnFrom fs cs ↔ List.Forall₂ Drawn fs cs := by
  induction fs generalizing cs with
  | nil => cases cs <;> simp [drawnFrom]
  | cons f fs ih =>
    cases cs with
    | nil => simp [drawnFrom]
    | cons c cs => rw [drawnFrom, Bool.and_eq_true, drawn_iff, ih, List.forall₂_cons]

/-- A format of digits alone asks for a number of digits. -/
theorem forall₂_drawn_digits {fs cs : List Char} (hfs : ∀ f ∈ fs, f = '#') :
    List.Forall₂ Drawn fs cs ↔ cs.length = fs.length ∧ ∀ c ∈ cs, '0' ≤ c ∧ c ≤ '9' := by
  induction fs generalizing cs with
  | nil => cases cs <;> simp
  | cons f fs ih =>
    obtain ⟨rfl, hrest⟩ := List.forall_mem_cons.1 hfs
    cases cs with
    | nil => simp
    | cons c cs =>
      have hc : Drawn '#' c ↔ '0' ≤ c ∧ c ≤ '9' := by
        rw [← drawn_iff, ← isDigit_iff]
        rfl
      rw [List.forall₂_cons, hc, ih hrest, List.forall_mem_cons, List.length_cons, List.length_cons,
        Nat.add_right_cancel_iff]
      exact and_left_comm

/-- Format characters and what is drawn for them are characters of ASCII. -/
theorem Drawn.utf8Size {f c : Char} (h : Drawn f c) : c.utf8Size = f.utf8Size := by
  have hascii : ∀ d : Char, c ≤ d → d.toNat ≤ 127 → c.utf8Size = 1 := by
    intro d hle hd
    rw [Char.utf8Size_eq_one_iff]
    exact Nat.le_trans hle hd
  cases h with
  | digit _ hhigh => exact hascii _ hhigh (by decide)
  | capital _ hhigh => exact hascii _ hhigh (by decide)
  | small _ hhigh => exact hascii _ hhigh (by decide)

/-- A drawn value takes as many bytes as its format. -/
theorem size_of_forall₂_drawn {fs cs : List Char} (h : List.Forall₂ Drawn fs cs) :
    size cs = size fs := by
  induction h with
  | nil => rfl
  | cons hdrawn _ ih => rw [size_cons, size_cons, hdrawn.utf8Size, ih]

/-- Choices that can be made one by one can be made for the whole list. -/
theorem exists_forall₂ {R : α → β → Prop} {as : List α} (h : ∀ a ∈ as, ∃ b, R a b) :
    ∃ bs, List.Forall₂ R as bs := by
  induction as with
  | nil => exact ⟨[], .nil⟩
  | cons a as ih =>
    obtain ⟨ha, has⟩ := List.forall_mem_cons.1 h
    obtain ⟨b, hb⟩ := ha
    obtain ⟨bs, hbs⟩ := ih has
    exact ⟨b :: bs, .cons hb hbs⟩

theorem exists_drawn {f : Char} (hf : f = '#' ∨ f = 'X' ∨ f = 'x') : ∃ c, Drawn f c := by
  rcases hf with rfl | rfl | rfl
  · exact ⟨'0', .digit (by decide) (by decide)⟩
  · exact ⟨'A', .capital (by decide) (by decide)⟩
  · exact ⟨'a', .small (by decide) (by decide)⟩

/-! ## Segments -/

namespace Segment

variable {raw a v : String}

@[simp] theorem inner_ofContent (content : List Char) : (ofContent content).inner = content := by
  simp [inner, toList_rawText_ofContent]

/-- A quoted text accepts exactly what it stands for. -/
@[simp] theorem accepts_ofContent {content : List Char} :
    (ofContent content).accepts v ↔ v.toList = unescape content := by
  have heq : (ofContent content).accepts v ↔ String.ofList (unescape content) = v := by
    simp [accepts, ofContent]
  rw [heq, ← String.toList_inj, String.toList_ofList, eq_comm]

/-- A counter accepts what a random value of the same format would. -/
theorem accepts_sequential (ha : ∀ c ∈ a.toList, c = '#') :
    accepts ⟨.method .sequential, raw, some a⟩ v ↔ List.Forall₂ Drawn a.toList v.toList := by
  rw [forall₂_drawn_digits ha]
  simp only [accepts, Option.getD_some, Bool.and_eq_true, beq_iff_eq, List.all_eq_true, isDigit_iff,
    String.length_toList]

theorem accepts_random :
    accepts ⟨.method .random, raw, some a⟩ v ↔ List.Forall₂ Drawn a.toList v.toList :=
  drawnFrom_iff

@[simp] theorem produces_ofContent {content : List Char} :
    (ofContent content).Produces v ↔ v.toList = unescape content := by
  have heq : (ofContent content).Produces v ↔ v.toList = unescape (ofContent content).inner :=
    Iff.rfl
  rw [heq, inner_ofContent]

/-- To a counter belongs what would belong to a random value of the same format. -/
theorem produces_sequential (ha : ∀ c ∈ a.toList, c = '#') :
    Produces ⟨.method .sequential, raw, some a⟩ v ↔ List.Forall₂ Drawn a.toList v.toList := by
  have hcount : a.toList.count '#' = a.toList.length :=
    List.count_eq_length.2 fun c hc => (ha c hc).symm
  rw [forall₂_drawn_digits ha, and_comm, ← hcount]
  exact Iff.rfl

/-- On a segment that can be written the validator decides the language. -/
theorem Written.accepts_iff {g : Segment} (hg : g.Written) (v : String) :
    g.accepts v ↔ g.Produces v := by
  cases hg with
  | @text content hq hlast =>
    exact accepts_ofContent.trans produces_ofContent.symm
  | @sequential format hne h =>
    have ha : ∀ c ∈ (String.ofList format).toList, c = '#' := by simpa using h
    exact (accepts_sequential ha).trans (produces_sequential ha).symm
  | random hne h => exact accepts_random
  | orgUnitCode | currentDate =>
    simp [accepts, Produces]

/-- The written segments with a generator have a format, and accept what can be drawn for it. -/
theorem Written.exists_format {g : Segment} (hg : g.Written) (hkind : g.kind.isGenerated) :
    ∃ a, g.parameter? = some a ∧ (∀ f ∈ a.toList, f = '#' ∨ f = 'X' ∨ f = 'x') ∧
      ∀ v, g.accepts v ↔ List.Forall₂ Drawn a.toList v.toList := by
  cases hg with
  | text | orgUnitCode | currentDate => cases hkind
  | @sequential format hne h =>
    have ha : ∀ c ∈ (String.ofList format).toList, c = '#' := by simpa using h
    exact ⟨_, rfl, fun f hf => .inl (ha f hf), fun v => accepts_sequential ha⟩
  | random hne h => exact ⟨_, rfl, by simpa using h, fun v => accepts_random⟩

/-- A generated value takes as many bytes as the format. -/
theorem Written.utf8ByteSize_of_accepts {g : Segment} (hg : g.Written)
    (hkind : g.kind.isGenerated) (h : g.accepts v) :
    ∃ a, g.parameter? = some a ∧ v.utf8ByteSize = a.utf8ByteSize := by
  obtain ⟨a, ha, -, haccepts⟩ := hg.exists_format hkind
  refine ⟨a, ha, ?_⟩
  rw [← size_toList, ← size_toList, size_of_forall₂_drawn ((haccepts v).1 h)]

/-- Every segment that can be written accepts some value. -/
theorem Written.exists_accepts {g : Segment} (hg : g.Written) : ∃ v, g.accepts v := by
  by_cases hkind : g.kind.isGenerated
  · obtain ⟨a, -, hformat, haccepts⟩ := hg.exists_format hkind
    obtain ⟨cs, hcs⟩ := exists_forall₂ fun f hf => exists_drawn (hformat f hf)
    exact ⟨String.ofList cs, (haccepts _).2 (by simpa using hcs)⟩
  · cases hg with
    | @text content hq hlast =>
      exact ⟨String.ofList (unescape content), accepts_ofContent.2 String.toList_ofList⟩
    | orgUnitCode | currentDate => exact ⟨"0", rfl⟩
    | sequential | random => exact absurd rfl hkind

end Segment

/-! ## Lists of values -/

/-- There is no misfit exactly if every pair fits. -/
theorem firstMisfit?_eq_none_iff {index : Nat} {pairs : List (Segment × String)} :
    firstMisfit? index pairs = none ↔ ∀ pair ∈ pairs, pair.1.accepts pair.2 := by
  induction pairs generalizing index with
  | nil => simp [firstMisfit?]
  | cons pair pairs ih =>
    rw [firstMisfit?, List.forall_mem_cons]
    by_cases hpair : pair.1.accepts pair.2
    · rw [if_pos hpair, ih, and_iff_right hpair]
    · simp [hpair]

namespace Pattern

/-- A list of values fits a pattern if there is one for each segment, which accepts it. -/
theorem misfit?_eq_none_iff {p : Pattern} {values : List String} :
    p.misfit? values = none ↔ List.Forall₂ (fun g v => g.accepts v) p.segments values := by
  rw [misfit?, List.forall₂_iff_zip]
  by_cases hlength : p.segments.length = values.length
  · rw [if_pos hlength, firstMisfit?_eq_none_iff, and_iff_right hlength]
    exact ⟨fun h _ _ hmem => h _ hmem, fun h pair hmem => h hmem⟩
  · simp [hlength]

/-- **Reader and validator agree on every format, and every pattern that was read has values.** A
list of values fits exactly if it has one value for each segment, which belongs to it. Some value
belongs to every segment, and those of a counter or a random draw have as many bytes as the format.
-/
theorem misfit?_eq_none_iff_produces {s : String} {p : Pattern} (hp : parse s = .ok p) :
    (∀ values, p.misfit? values = none ↔ List.Forall₂ Segment.Produces p.segments values) ∧
      (∃ values, p.misfit? values = none) ∧
      ∀ g ∈ p.segments,
        (∀ v, g.accepts v ↔ g.Produces v) ∧ (∃ v, g.Produces v) ∧
          ∀ v, g.kind.isGenerated → g.accepts v →
            ∃ a, g.parameter? = some a ∧ v.utf8ByteSize = a.utf8ByteSize := by
  have hwritten := (parse_eq_ok_iff.1 hp).written
  refine ⟨?_, ?_, ?_⟩
  · intro values
    rw [misfit?_eq_none_iff, List.forall₂_iff_zip, List.forall₂_iff_zip]
    have hpair : ∀ {g v}, (g, v) ∈ p.segments.zip values → (g.accepts v ↔ g.Produces v) :=
      fun hmem => (hwritten _ (List.of_mem_zip hmem).1).accepts_iff _
    exact and_congr_right fun _ =>
      ⟨fun h _ _ hmem => (hpair hmem).1 (h hmem), fun h _ _ hmem => (hpair hmem).2 (h hmem)⟩
  · obtain ⟨values, hvalues⟩ := exists_forall₂ fun g hg => (hwritten g hg).exists_accepts
    exact ⟨values, misfit?_eq_none_iff.2 hvalues⟩
  · intro g hg
    obtain ⟨v, hv⟩ := (hwritten g hg).exists_accepts
    refine ⟨(hwritten g hg).accepts_iff, ⟨v, ((hwritten g hg).accepts_iff v).1 hv⟩, ?_⟩
    intro v hkind hv
    exact (hwritten g hg).utf8ByteSize_of_accepts hkind hv

/-- The value of a text has its escapes resolved, and `é` is no letter to draw. -/
theorem misfit?_eq_none_iff_produces_escaped :
    ∃ p, parse "\"é\\\"\" + RANDOM(#Xx) + SEQUENTIAL(##)" = .ok p ∧
      p.misfit? ["é\"", "1Ab", "07"] = none ∧
      ¬ List.Forall₂ Segment.Produces p.segments ["é\\\"", "1Ab", "07"] ∧
      ¬ List.Forall₂ Segment.Produces p.segments ["é\"", "1Aé", "07"] := by
  have hp : parse "\"é\\\"\" + RANDOM(#Xx) + SEQUENTIAL(##)" =
      .ok ⟨[⟨.text, "\"é\\\"\"", some "é\""⟩, ⟨.method .random, "RANDOM(#Xx)", some "#Xx"⟩,
        ⟨.method .sequential, "SEQUENTIAL(##)", some "##"⟩]⟩ :=
    Run.result_eq_ok_iff.2 (by decide +kernel)
  obtain ⟨hfits, -, -⟩ := misfit?_eq_none_iff_produces hp
  refine ⟨_, hp, (hfits _).2 ?_, fun h => ?_, fun h => ?_⟩
  · refine .cons rfl (.cons ?_ (.cons ⟨?_, rfl⟩ .nil))
    · exact .cons (.digit (by decide) (by decide)) (.cons (.capital (by decide) (by decide))
        (.cons (.small (by decide) (by decide)) .nil))
    · simp
  · exact absurd ((hfits _).2 h) (by decide)
  · exact absurd ((hfits _).2 h) (by decide)

end Pattern

end IdPattern
