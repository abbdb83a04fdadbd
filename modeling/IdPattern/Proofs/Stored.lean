import IdPattern.Pattern.Stored
import IdPattern.Proofs.JsonText

/-!
# Patterns are read back

Whatever form a pattern is stored in, it is read as the same pattern (`Pattern.ofJson_of_stored`).
What is written is one of the forms, and its text is read as the value that was written, so a
pattern comes back from its text. Nothing is asked about the pattern: its raw texts and parameters
may be any strings.
-/

namespace IdPattern

/-! ## Members of objects -/

namespace Json

/-- The last member with a name counts, wherever the others stand. -/
theorem memberOf?_eq_getLast? (name : String) (members : List (String × Json)) :
    memberOf? name members = (members.filter (·.1 = name)).getLast?.map (·.2) := by
  have hfound : ∀ found, members.foldl (fun found m => if m.1 = name then some m.2 else found)
      found = ((members.filter (·.1 = name)).getLast?.map (·.2)).or found := by
    induction members with
    | nil => simp
    | cons m members ih =>
      intro found
      rw [List.foldl_cons, ih]
      by_cases hm : m.1 = name
      · cases hlast : (members.filter (·.1 = name)).getLast? <;>
          simp [hm, hlast, List.getLast?_cons]
      · simp [hm]
  exact (hfound none).trans Option.or_none

variable {names : List String} {members fields : List (String × Json)}

/-- Only the members with the names of the fields are asked for. -/
theorem filter_of_named {name : String} (h : (named names members).Perm fields)
    (hname : name ∈ names) :
    (members.filter (·.1 = name)).Perm (fields.filter (·.1 = name)) := by
  have hfilter : (named names members).filter (·.1 = name) = members.filter (·.1 = name) := by
    rw [named, List.filter_filter]
    congr
    funext m
    by_cases hm : m.1 = name
    · simp [hm, hname]
    · simp [hm]
  rw [← hfilter]
  exact h.filter _

/-- A field is found among members in any order, if there is one of its name. -/
theorem memberOf?_of_named (name : String) (h : (named names members).Perm fields)
    (hname : name ∈ names) {v : Json} (hfield : fields.filter (·.1 = name) = [(name, v)]) :
    memberOf? name members = some v := by
  have hperm := filter_of_named h hname
  rw [hfield, List.perm_singleton] at hperm
  rw [memberOf?_eq_getLast?, hperm]
  rfl

/-- A field that is not there is not found. -/
theorem memberOf?_eq_none (name : String) (h : (named names members).Perm fields)
    (hname : name ∈ names) (hfield : fields.filter (·.1 = name) = []) :
    memberOf? name members = none := by
  have hperm := filter_of_named h hname
  rw [hfield, List.perm_nil] at hperm
  rw [memberOf?_eq_getLast?, hperm]
  rfl

@[simp] theorem asOptionalString_ofOptionalString (s? : Option String) :
    (ofOptionalString s?).asOptionalString = .ok s? := by
  cases s? <;> rfl

end Json

/-! ## Reading the forms -/

@[simp] theorem Kind.ofName_name (k : Kind) : ofName k.name = .ok k := by
  rw [ofName, ofName?_name]

/-- A kind is read from each of its forms. -/
theorem Kind.ofJson_of_stored {k : Kind} {j : Json} (h : k.Stored j) : ofJson j = .ok k := by
  cases h with
  | name => exact k.ofName_name
  | member => simp [ofJson, k.ofName_name]

namespace Segment

variable {members : List (String × Json)} {kind : Json} {k : Kind} {rawText : String}

/-- An object with a kind, a raw text and a parameter is a segment. -/
theorem ofJson_obj {s? : Option String} (hk : Kind.ofJson kind = .ok k)
    (hkind : Json.memberOf? "kind" members = some kind)
    (hrawText : Json.memberOf? "raw_text" members = some (.string rawText))
    (hparameter : Json.memberOf? "parameter" members = some (.ofOptionalString s?)) :
    ofJson (.obj members) = .ok ⟨k, rawText, s?⟩ := by
  simp [ofJson, hkind, hk, hrawText, hparameter, Json.asString,
    Json.asOptionalString_ofOptionalString, bind, Except.bind, pure, Except.pure]

/-- The parameter of an object may be left out. -/
theorem ofJson_obj_none (hk : Kind.ofJson kind = .ok k)
    (hkind : Json.memberOf? "kind" members = some kind)
    (hrawText : Json.memberOf? "raw_text" members = some (.string rawText))
    (hparameter : Json.memberOf? "parameter" members = none) :
    ofJson (.obj members) = .ok ⟨k, rawText, none⟩ := by
  simp [ofJson, hkind, hk, hrawText, hparameter, Json.asString, bind, Except.bind, pure,
    Except.pure]

theorem ofJson_of_stored {g : Segment} {j : Json} (h : g.Stored j) : ofJson j = .ok g := by
  cases h with
  | list hkind =>
    simp [ofJson, Kind.ofJson_of_stored hkind, Json.asString,
      Json.asOptionalString_ofOptionalString, bind, Except.bind, pure, Except.pure]
  | object hkind hmembers =>
    exact ofJson_obj (Kind.ofJson_of_stored hkind)
      (Json.memberOf?_of_named "kind" hmembers (by decide) rfl)
      (Json.memberOf?_of_named "raw_text" hmembers (by decide) rfl)
      (Json.memberOf?_of_named "parameter" hmembers (by decide) rfl)
  | noParameter hkind hnone hmembers =>
    have hsegment := ofJson_obj_none (Kind.ofJson_of_stored hkind)
      (Json.memberOf?_of_named "kind" hmembers (by decide) rfl)
      (Json.memberOf?_of_named "raw_text" hmembers (by decide) rfl)
      (Json.memberOf?_eq_none "parameter" hmembers (by decide) rfl)
    rw [hsegment, ← hnone]

/-- Segments are read one by one, each from the form it has. -/
theorem listOfJson_of_stored {gs : List Segment} {items : List Json}
    (h : List.Forall₂ Stored gs items) : listOfJson (.arr items) = .ok gs := by
  rw [listOfJson]
  induction h with
  | nil => rfl
  | cons hg _ ih =>
    rw [List.mapM_cons, ofJson_of_stored hg, ih]
    rfl

/-- What is written is one of the forms. -/
theorem stored_toJson (g : Segment) : g.Stored g.toJson := by
  obtain ⟨kind, rawText, parameter?⟩ := g
  cases parameter? with
  | none => exact .object .name (List.Perm.refl _)
  | some s => exact .object .name (List.Perm.refl _)

/-- No segment is written with a number. -/
theorem isNumber_of_mem_marks (g : Segment) : ∀ m ∈ g.toJson.marks, m.isNumber = false := by
  obtain ⟨kind, rawText, parameter?⟩ := g
  cases parameter? <;>
    simp [toJson, Kind.toJson, Json.marks, Json.memberMarks, Mark.isNumber]

end Segment

namespace Pattern

theorem ofJson_of_stored {p : Pattern} {j : Json} (h : p.Stored j) : ofJson j = .ok p := by
  cases h with
  | list hitems =>
    simp [ofJson, Segment.listOfJson_of_stored hitems, bind, Except.bind, pure, Except.pure]
  | object hitems hmembers =>
    have hsegments := Json.memberOf?_of_named "segments" hmembers (by decide) rfl
    rw [ofJson, hsegments]
    dsimp only
    rw [Segment.listOfJson_of_stored hitems]
    rfl

theorem stored_toJson (p : Pattern) : p.Stored p.toJson := by
  have hitems : List.Forall₂ Segment.Stored p.segments (p.segments.map Segment.toJson) := by
    rw [List.forall₂_map_right_iff, List.forall₂_same]
    exact fun g _ => g.stored_toJson
  exact .object hitems (List.Perm.refl _)

/-- No part of a pattern is written as a number. -/
theorem isNumber_of_mem_marks (p : Pattern) : ∀ m ∈ p.toJson.marks, m.isNumber = false := by
  have hitems : ∀ m ∈ Json.itemMarks (p.segments.map Segment.toJson), m.isNumber = false := by
    refine Json.isNumber_of_mem_itemMarks fun j hj => ?_
    obtain ⟨g, -, rfl⟩ := List.mem_map.1 hj
    exact g.isNumber_of_mem_marks
  intro m hm
  simp only [toJson, Json.marks, Json.memberMarks, List.cons_append, List.mem_cons,
    List.mem_append, List.not_mem_nil, or_false] at hm
  rcases hm with rfl | rfl | rfl | rfl | hm | rfl
  case inr.inr.inr.inr.inl => exact hitems m hm
  all_goals rfl

/-- **Reading undoes writing, in every form.** The text of a pattern is read as that pattern, and so
is any other form in which the pattern can be stored. -/
theorem ofJson_toJson (p : Pattern) :
    (Json.ofText? p.toJson.compact).map ofJson = some (.ok p) ∧ p.Stored p.toJson ∧
      ∀ j, p.Stored j → ofJson j = .ok p := by
  refine ⟨?_, p.stored_toJson, fun j => ofJson_of_stored⟩
  rw [Json.ofText?_compact p.isNumber_of_mem_marks, Option.map_some,
    ofJson_of_stored p.stored_toJson]

/-- A list in place of the pattern, a list and an object in place of its segments, with a kind that is
an object, a member with another name before the fields, and no parameter. -/
theorem ofJson_toJson_mixed :
    ofJson (.arr [.arr [.arr [.obj [("TEXT", .null)], .string "\"\"", .string ""],
        .obj [("note", .bool true), ("raw_text", .string "x"), ("kind", .string "RANDOM")]]]) =
      .ok ⟨[⟨.text, "\"\"", some ""⟩, ⟨.method .random, "x", none⟩]⟩ := by
  obtain ⟨-, -, hread⟩ :=
    ofJson_toJson ⟨[⟨.text, "\"\"", some ""⟩, ⟨.method .random, "x", none⟩]⟩
  refine hread _ (.list (.cons (.list .member) (.cons ?_ .nil)))
  exact .noParameter .name rfl (List.Perm.swap _ _ _)

end Pattern

end IdPattern
