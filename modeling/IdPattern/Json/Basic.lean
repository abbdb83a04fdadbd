/-!
# JSON values

A value is a scalar, a list of values or a list of named members. Numbers are whole if they are
written so and fit into 64 bits with or without a sign, and floating point otherwise. Where a name
occurs twice among the members, the last one counts.
-/

namespace IdPattern

inductive Scalar
  | null
  | bool (b : Bool)
  | integer (n : Int)
  | real (x : Float)
  | string (s : String)

inductive Json
  | scalar (s : Scalar)
  | arr (items : List Json)
  | obj (members : List (String × Json))

namespace Json

@[match_pattern] abbrev null : Json := scalar .null

@[match_pattern] abbrev bool (b : Bool) : Json := scalar (.bool b)

@[match_pattern] abbrev integer (n : Int) : Json := scalar (.integer n)

@[match_pattern] abbrev real (x : Float) : Json := scalar (.real x)

@[match_pattern] abbrev string (s : String) : Json := scalar (.string s)

/-- The value of the last member with a given name. -/
def memberOf? (name : String) (members : List (String × Json)) : Option Json :=
  members.foldl (fun found (k, v) => if k = name then some v else found) none

def member? (name : String) : Json → Option Json
  | obj members => memberOf? name members
  | _ => none

end Json

end IdPattern
