import IdPattern.Proofs.Canonical

/-!
# Kind and parameter determine the source

A segment keeps its raw text beside its kind and its parameter, but the raw text can always be told
from the two: it is `Kind.render` of them. So a pattern is known from its kinds and parameters
(`Pattern.ofMeanings_meanings`), and these can be any that `Kind.Admits` lets through
(`Pattern.parse_expression_ofMeanings`).

All of it follows from one description of the written segments, `Segment.written_iff_render`. The
case of texts is where the work was done: escaping undoes unescaping on what can stand between
quotes, so the parameter of a text is any text that does not end in a backslash.
-/

namespace IdPattern

/-- The parameters that the written segments of a kind have. -/
def Kind.Admits : Kind → Option String → Prop
  | .text, some v => v.toList.getLast? ≠ some '\\'
  | .method .sequential, some a => a ≠ "" ∧ ∀ c ∈ a.toList, c = '#'
  | .method .random, some a => a ≠ "" ∧ ∀ c ∈ a.toList, c = '#' ∨ c = 'X' ∨ c = 'x'
  | .method .currentDate, some a => a ≠ "" ∧ ')' ∉ a.toList
  | .method .orgUnitCode, none => True
  | _, _ => False

instance : ∀ (k : Kind) (v? : Option String), Decidable (k.Admits v?)
  | .text, some v => inferInstanceAs (Decidable (v.toList.getLast? ≠ some '\\'))
  | .method .sequential, some _ | .method .random, some _ =>
    @instDecidableAnd _ _ _ (List.decidableBAll _ _)
  | .method .currentDate, some a => inferInstanceAs (Decidable (a ≠ "" ∧ ')' ∉ a.toList))
  | .method .orgUnitCode, none => isTrue trivial
  | .text, none | .method .sequential, none | .method .random, none | .method .currentDate, none
  | .method .orgUnitCode, some _ => isFalse id

/-- The raw text of a segment, told from its kind and its parameter. A missing parameter counts as
an empty one. -/
def Kind.render : Kind → Option String → String
  | .text, v? => "\"" ++ String.ofList (escape (v?.getD "").toList) ++ "\""
  | .method m, a? => m.name ++ "(" ++ a?.getD "" ++ ")"

/-- The written segments are those whose kind admits their parameter and whose raw text is rendered
from both. -/
theorem Segment.written_iff_render {g : Segment} :
    g.Written ↔ g.kind.Admits g.parameter? ∧ g.rawText = g.kind.render g.parameter? := by
  constructor
  · intro h
    cases h with
    | @text content hq hlast =>
      refine ⟨by simpa [Kind.Admits, getLast?_unescape hq] using hlast, ?_⟩
      rw [← String.toList_inj]
      simp [Kind.render, escape_unescape hq]
    | sequential hne h => exact ⟨⟨by simpa using hne, by simpa using h⟩, rfl⟩
    | random hne h => exact ⟨⟨by simpa using hne, by simpa using h⟩, rfl⟩
    | orgUnitCode => exact ⟨trivial, rfl⟩
    | currentDate hne hp => exact ⟨⟨by simpa using hne, by simpa using hp⟩, rfl⟩
  · obtain ⟨kind, rawText, parameter?⟩ := g
    rintro ⟨hadmits, hraw⟩
    simp only at hadmits hraw
    subst hraw
    -- the forms of the grammar are given by lists of characters
    have hlist : ∀ a : String, ∃ cs, a = String.ofList cs := fun a => ⟨a.toList, by simp⟩
    match kind, parameter?, hadmits with
    | .text, some v, hlast =>
      obtain ⟨cs, rfl⟩ := hlist v
      have hcontent : IsContent (escape cs) := isContent_escape (by simpa [Kind.Admits] using hlast)
      have hwritten := Segment.Written.text hcontent.quotesEscaped hcontent.getLast?_ne
      rw [unescape_escape] at hwritten
      have hraw : Kind.render .text (some (String.ofList cs)) =
          String.ofList ('"' :: (escape cs ++ ['"'])) := by
        rw [← String.toList_inj]
        simp [Kind.render]
      rw [hraw]
      exact hwritten
    | .method .sequential, some a, ⟨hne, h⟩ =>
      obtain ⟨cs, rfl⟩ := hlist a
      exact .sequential (by simpa using hne) (by simpa using h)
    | .method .random, some a, ⟨hne, h⟩ =>
      obtain ⟨cs, rfl⟩ := hlist a
      exact .random (by simpa using hne) (by simpa using h)
    | .method .currentDate, some a, ⟨hne, hp⟩ =>
      obtain ⟨cs, rfl⟩ := hlist a
      exact .currentDate (by simpa using hne) (by simpa using hp)
    | .method .orgUnitCode, none, _ => exact .orgUnitCode

namespace Pattern

def meanings (p : Pattern) : List (Kind × Option String) :=
  p.segments.map fun g => (g.kind, g.parameter?)

def ofMeanings (ms : List (Kind × Option String)) : Pattern :=
  ⟨ms.map fun m => ⟨m.1, m.1.render m.2, m.2⟩⟩

/-- A pattern that was made from meanings has these meanings. -/
@[simp] theorem meanings_ofMeanings (ms : List (Kind × Option String)) :
    (ofMeanings ms).meanings = ms := by
  simp only [meanings, ofMeanings, List.map_map]
  exact List.map_id ms

/-- The expression of such a pattern is told by the meanings. -/
theorem expression_ofMeanings (ms : List (Kind × Option String)) :
    (ofMeanings ms).expression = " + ".intercalate (ms.map fun m => m.1.render m.2) := by
  simp only [expression, ofMeanings, List.map_map]
  rfl

/-- Where every raw text is that of its kind and parameter, these give the pattern back. -/
theorem ofMeanings_meanings {p : Pattern}
    (h : ∀ g ∈ p.segments, g.rawText = g.kind.render g.parameter?) : ofMeanings p.meanings = p := by
  obtain ⟨gs⟩ := p
  have hid : ∀ g ∈ gs, (⟨g.kind, g.kind.render g.parameter?, g.parameter?⟩ : Segment) = id g := by
    intro g hg
    rw [← h g hg]
    rfl
  simp only [ofMeanings, meanings, List.map_map, mk.injEq]
  calc gs.map _ = gs.map id := List.map_congr_left hid
    _ = gs := List.map_id gs

/-- A segment that was read has a parameter of its kind, and the raw text that the two determine. -/
theorem admits_and_render_of_parse {s : String} {p : Pattern} (hp : parse s = .ok p) :
    ∀ g ∈ p.segments, g.kind.Admits g.parameter? ∧ g.rawText = g.kind.render g.parameter? := by
  intro g hg
  exact Segment.written_iff_render.1 ((parse_eq_ok_iff.1 hp).written g hg)

/-- Every list of kinds with parameters that they admit can be written. -/
theorem parse_expression_ofMeanings {ms : List (Kind × Option String)} (hne : ms ≠ [])
    (h : ∀ m ∈ ms, m.1.Admits m.2) :
    parse (ofMeanings ms).expression = .ok (ofMeanings ms) := by
  refine parse_expression_eq_ok_iff.2 ⟨by simpa [ofMeanings] using hne, fun g hg => ?_⟩
  obtain ⟨m, hm, rfl⟩ := List.mem_map.1 hg
  exact Segment.written_iff_render.2 ⟨h m hm, rfl⟩

/-! ## Reading and rendering -/

/-- **Kind and parameter determine the source, and exactly the admitted pairs can be written.** The
raw text of a segment that was read is rendered from its kind and parameter, so patterns that agree
in these are equal. Admitted kinds and parameters are read back from what is rendered from them, and
no others are ever read; in particular no text has a parameter that ends in a backslash. -/
theorem parse_render :
    (∀ s p, parse s = .ok p → ∀ g ∈ p.segments, g.rawText = g.kind.render g.parameter?) ∧
    (∀ s t p q, parse s = .ok p → parse t = .ok q → p.meanings = q.meanings →
      p = q ∧ p.expression = q.expression) ∧
    (∀ ms, ms ≠ [] → (∀ m ∈ ms, Kind.Admits m.1 m.2) →
      ∃ p, parse (" + ".intercalate (ms.map fun m => m.1.render m.2)) = .ok p ∧
        p.meanings = ms) ∧
    (∀ s p, parse s = .ok p → ∀ g ∈ p.segments, g.kind.Admits g.parameter?) ∧
    ¬ ∃ s p g v, parse s = .ok p ∧ g ∈ p.segments ∧ g.kind = .text ∧ g.parameter? = some v ∧
      v.toList.getLast? = some '\\' := by
  refine ⟨?_, ?_, ?_, ?_, ?_⟩
  · intro s p hp g hg
    exact (admits_and_render_of_parse hp g hg).2
  · intro s t p q hp hq hm
    have hpq : p = q := by
      rw [← ofMeanings_meanings fun g hg => (admits_and_render_of_parse hp g hg).2, hm,
        ofMeanings_meanings fun g hg => (admits_and_render_of_parse hq g hg).2]
    exact ⟨hpq, congrArg expression hpq⟩
  · intro ms hne h
    refine ⟨ofMeanings ms, ?_, meanings_ofMeanings ms⟩
    rw [← expression_ofMeanings]
    exact parse_expression_ofMeanings hne h
  · intro s p hp g hg
    exact (admits_and_render_of_parse hp g hg).1
  · rintro ⟨s, p, g, v, hp, hg, hkind, hv, hlast⟩
    have hadmits := (admits_and_render_of_parse hp g hg).1
    rw [hkind, hv] at hadmits
    exact hadmits hlast

/-- The text `\"x` is rendered with two backslashes, of which the first means itself. -/
theorem parse_render_backslash :
    Kind.render .text (some "\\\"x") = "\"\\\\\"x\"" ∧
      (∃ p, parse "\"\\\\\"x\" + ORG_UNIT_CODE()" = .ok p ∧
        p.meanings = [(.text, some "\\\"x"), (.method .orgUnitCode, none)]) ∧
      ∃ p q, parse "RANDOM(#)" = .ok p ∧ parse " RANDOM(#) " = .ok q ∧
        (p = q ∧ p.expression = q.expression) ∧ ∀ g ∈ p.segments, g.kind.Admits g.parameter? := by
  obtain ⟨hraw, hequal, hrender, hadmits, -⟩ := parse_render
  have hs : parse "\"\\\\\"x\"" = .ok ⟨[⟨.text, "\"\\\\\"x\"", some "\\\"x"⟩]⟩ :=
    Run.result_eq_ok_iff.2 (by decide +kernel)
  have hp : parse "RANDOM(#)" = .ok ⟨[⟨.method .random, "RANDOM(#)", some "#"⟩]⟩ :=
    Run.result_eq_ok_iff.2 (by decide +kernel)
  have hq : parse " RANDOM(#) " = .ok ⟨[⟨.method .random, "RANDOM(#)", some "#"⟩]⟩ :=
    Run.result_eq_ok_iff.2 (by decide +kernel)
  refine ⟨(hraw _ _ hs _ (List.mem_singleton.2 rfl)).symm, ?_, _, _, hp, hq, ?_, hadmits _ _ hp⟩
  · exact hrender [(.text, some "\\\"x"), (.method .orgUnitCode, none)] (by decide) (by decide)
  · exact hequal _ _ _ _ hp hq rfl

end Pattern

end IdPattern
