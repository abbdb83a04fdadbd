import IdPattern.Decimal.Shortest
import IdPattern.Json.Basic
import IdPattern.Segment
import IdPattern.Text.Quoted

/-!
# Patterns as JSON

A pattern is stored as an object with the list of its segments, a segment as an object with its
three fields, and a kind as its name. Reading also takes a list of the fields in place of an object,
and a kind as an object whose only member has its name and no value. Members with other names are
passed over.

What is read need not be consistent: no expression is looked at.
-/

namespace IdPattern

/-! ### Writing -/

def Kind.toJson (k : Kind) : Json := .string k.name

def Segment.toJson (g : Segment) : Json :=
  .obj [("kind", g.kind.toJson), ("raw_text", .string g.rawText),
    ("parameter", match g.parameter? with | none => .null | some s => .string s)]

def Pattern.toJson (p : Pattern) : Json :=
  .obj [("segments", .arr (p.segments.map Segment.toJson))]

/-! ### What can be wrong -/

inductive Record
  | segment
  | pattern
deriving DecidableEq

def Record.name : Record → String
  | segment => "struct Segment"
  | pattern => "struct OwnedTextPattern"

def Record.listName : Record → String
  | segment => s!"{segment.name} with 3 elements"
  | pattern => s!"{pattern.name} with 1 element"

inductive Wanted
  | nothing
  | kind
  | string
  | list
  | record (r : Record)
deriving DecidableEq

def Wanted.text : Wanted → String
  | nothing => "unit"
  | kind => "string or map"
  | string => "a string"
  | list => "a sequence"
  | record r => r.name

/-- A value in messages. Lists and objects are only named. -/
def Json.describe : Json → String
  | .null => "null"
  | .bool b => s!"boolean `{b}`"
  | .integer n => s!"integer `{n}`"
  | .real x => s!"floating point `{Decimal.floatText x}`"
  | .string s => s!"string {quoted s}"
  | .arr _ => "sequence"
  | .obj _ => "map"

inductive DecodeError
  /-- A kind has a name that no kind has. -/
  | unknownKind (name : String)
  /-- A kind is given as an object with no member or with several. -/
  | severalNames
  /-- A value is of the wrong sort. -/
  | unexpected (found : Json) (wanted : Wanted)
  /-- An object lacks a field. -/
  | missingField (name : String)
  /-- A list has too few elements for a record. -/
  | tooShort (count : Nat) (r : Record)
  /-- A list has more elements than the record has fields. -/
  | tooLong (count : Nat)

def DecodeError.message : DecodeError → String
  | unknownKind name =>
    let names := ", ".intercalate (Kind.all.map fun k => s!"`{k.name}`")
    s!"unknown variant `{name}`, expected one of {names}"
  | severalNames => "invalid value: map, expected map with a single key"
  | unexpected found wanted => s!"invalid type: {found.describe}, expected {wanted.text}"
  | missingField name => s!"missing field `{name}`"
  | tooShort count r => s!"invalid length {count}, expected {r.listName}"
  | tooLong count => s!"invalid length {count}, expected fewer elements in array"

/-! ### Reading -/

def Json.asString : Json → Except DecodeError String
  | .string s => .ok s
  | j => .error (.unexpected j .string)

/-- Reads a string that may be missing. -/
def Json.asOptionalString : Json → Except DecodeError (Option String)
  | .null => .ok none
  | j => j.asString.map some

def Kind.ofName (name : String) : Except DecodeError Kind :=
  match Kind.ofName? name with
  | some k => .ok k
  | none => .error (.unknownKind name)

def Kind.ofJson : Json → Except DecodeError Kind
  | .string name => Kind.ofName name
  | .obj members =>
    match members.getLast? with
    | some (name, value) =>
      if members.all fun m => m.1 == name then do
        let k ← Kind.ofName name
        match value with
        | .null => return k
        | j => throw (.unexpected j .nothing)
      else .error .severalNames
    | none => .error .severalNames
  | j => .error (.unexpected j .kind)

/-- Reads a segment. The fields of an object are read in the order of the alphabet, and only then is
it asked which are missing; those of a list are read in the order of writing. -/
def Segment.ofJson : Json → Except DecodeError Segment
  | .obj members => do
    let kind? ← (Json.memberOf? "kind" members).mapM Kind.ofJson
    let parameter? ← (Json.memberOf? "parameter" members).mapM Json.asOptionalString
    let rawText? ← (Json.memberOf? "raw_text" members).mapM Json.asString
    match kind?, rawText? with
    | none, _ => throw (.missingField "kind")
    | _, none => throw (.missingField "raw_text")
    | some kind, some rawText => return ⟨kind, rawText, parameter?.join⟩
  | .arr [] => .error (.tooShort 0 .segment)
  | .arr (k :: items) => do
    let kind ← Kind.ofJson k
    match items with
    | [] => throw (.tooShort 1 .segment)
    | r :: items =>
      let rawText ← r.asString
      match items with
      | [] => throw (.tooShort 2 .segment)
      | p :: items =>
        let parameter? ← p.asOptionalString
        if items.isEmpty then return ⟨kind, rawText, parameter?⟩
        else throw (.tooLong (items.length + 3))
  | j => .error (.unexpected j (.record .segment))

def Segment.listOfJson : Json → Except DecodeError (List Segment)
  | .arr items => items.mapM Segment.ofJson
  | j => .error (.unexpected j .list)

def Pattern.ofJson : Json → Except DecodeError Pattern
  | .obj members =>
    match Json.memberOf? "segments" members with
    | some j => (Segment.listOfJson j).map Pattern.mk
    | none => .error (.missingField "segments")
  | .arr [] => .error (.tooShort 0 .pattern)
  | .arr (j :: items) => do
    let segments ← Segment.listOfJson j
    if items.isEmpty then return ⟨segments⟩ else throw (.tooLong (items.length + 1))
  | j => .error (.unexpected j (.record .pattern))

end IdPattern
