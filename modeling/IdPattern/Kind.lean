/-!
# Kinds of segments

A segment is either a quoted text or a call of one of four methods. Both sorts have a written name;
only the names of methods can be called, so `Method.ofName?` knows four names and `Kind.ofName?`
five.
-/

namespace IdPattern

inductive Method
  | sequential
  | random
  | orgUnitCode
  | currentDate
deriving DecidableEq

/-- What a segment stands for: a fixed text, or the value of a method. -/
inductive Kind
  | text
  | method (m : Method)
deriving DecidableEq

namespace Method

def all : List Method := [sequential, random, orgUnitCode, currentDate]

def name : Method → String
  | sequential => "SEQUENTIAL"
  | random => "RANDOM"
  | orgUnitCode => "ORG_UNIT_CODE"
  | currentDate => "CURRENT_DATE"

def ofName? (name : String) : Option Method :=
  all.find? fun m => m.name == name

/-- The names of the methods are different, so each finds its method again. -/
@[simp] theorem ofName?_name (m : Method) : ofName? m.name = some m := by
  cases m <;> decide

/-- Only its name finds a method. -/
theorem name_of_ofName? {s : String} {m : Method} (h : ofName? s = some m) : m.name = s := by
  simpa using List.find?_some h

/-- Which arguments a method takes between its parentheses. -/
inductive Argument
  /-- None at all. -/
  | absent
  /-- Any text that is not empty. -/
  | free
  /-- A text that is not empty, over an alphabet. -/
  | over (alphabet : List Char)

/-- Counters and random values are described character by character, a date by a format of its own.
-/
def argument : Method → Argument
  | sequential => .over ['#']
  | random => .over ['#', 'X', 'x']
  | orgUnitCode => .absent
  | currentDate => .free

end Method

namespace Kind

def all : List Kind := .text :: Method.all.map .method

def name : Kind → String
  | text => "TEXT"
  | method m => m.name

def ofName? (name : String) : Option Kind :=
  all.find? fun k => k.name == name

@[simp] theorem ofName?_name (k : Kind) : ofName? k.name = some k := by
  cases k with
  | text => decide
  | method m => cases m <;> decide

/-- The place of a kind in the order of declaration. -/
def rank (k : Kind) : Nat := all.idxOf k

instance : Ord Kind := ⟨fun k l => compare k.rank l.rank⟩

/-- Values of this kind are produced by a generator: a counter or a random draw. -/
def isGenerated : Kind → Bool
  | method .sequential | method .random => true
  | _ => false

def isText (k : Kind) : Bool := k == text

end Kind

end IdPattern
