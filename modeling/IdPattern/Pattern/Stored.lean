import Mathlib.Data.List.Forall2
import IdPattern.Pattern.Json

/-!
# The forms in which a pattern is stored

A pattern is written in one way, and read in several. A record is an object with its fields, or the
list of them. In an object the order of the fields does not matter, members with other names may
stand anywhere, and a parameter that is missing may be left out. A kind is its name, or an object
with this name alone. Each part of a pattern may have a form of its own.
-/

namespace IdPattern

/-- The members of an object with one of the given names. -/
def Json.named (names : List String) (members : List (String × Json)) : List (String × Json) :=
  members.filter (·.1 ∈ names)

def Json.ofOptionalString : Option String → Json
  | none => .null
  | some s => .string s

inductive Kind.Stored (k : Kind) : Json → Prop
  | name : Stored k (.string k.name)
  | member : Stored k (.obj [(k.name, .null)])

def Segment.fieldNames : List String := ["kind", "raw_text", "parameter"]

inductive Segment.Stored (g : Segment) : Json → Prop
  | list {kind : Json} : g.kind.Stored kind →
      Stored g (.arr [kind, .string g.rawText, .ofOptionalString g.parameter?])
  | object {kind : Json} {members : List (String × Json)} : g.kind.Stored kind →
      (Json.named fieldNames members).Perm
        [("kind", kind), ("raw_text", .string g.rawText),
          ("parameter", .ofOptionalString g.parameter?)] →
      Stored g (.obj members)
  | noParameter {kind : Json} {members : List (String × Json)} : g.kind.Stored kind →
      g.parameter? = none →
      (Json.named fieldNames members).Perm [("kind", kind), ("raw_text", .string g.rawText)] →
      Stored g (.obj members)

inductive Pattern.Stored (p : Pattern) : Json → Prop
  | list {items : List Json} : List.Forall₂ Segment.Stored p.segments items →
      Stored p (.arr [.arr items])
  | object {items : List Json} {members : List (String × Json)} :
      List.Forall₂ Segment.Stored p.segments items →
      (Json.named ["segments"] members).Perm [("segments", .arr items)] →
      Stored p (.obj members)

end IdPattern
