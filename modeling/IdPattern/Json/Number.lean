import IdPattern.Json.Basic

/-!
# Numbers of JSON text

A number is whole if it has neither a fraction nor an exponent, is not a negative zero, and fits
into 64 bits. Every other number is a floating point number.

Floating point numbers are read fast, with a few operations that round. The digits that fit into 64
bits without a sign are taken as one whole number, which is rounded, and the result is multiplied or
divided by a power of ten and rounded again. So a short number is read as the nearest one there is,
but a long one, or one with a large exponent, may be missed by a little.
-/

namespace IdPattern.Json.Number

def isPart (c : Char) : Bool :=
  c.isDigit || c == '-' || c == '+' || c == '.' || c == 'e' || c == 'E'

def digitValue (c : Char) : Nat := c.toNat - '0'.toNat

def decimal (ds : List Char) : Nat :=
  ds.foldl (fun n c => 10 * n + digitValue c) 0

/-- The digits after a decimal point, if there is one. -/
def fraction? : List Char → Option (List Char × List Char)
  | '.' :: cs =>
    let ds := cs.takeWhile Char.isDigit
    if ds.isEmpty then none else some (ds, cs.dropWhile Char.isDigit)
  | cs => some ([], cs)

/-- The exponent that ends a number, if there is one. -/
def exponent? : List Char → Option (Option Int)
  | [] => some none
  | e :: cs =>
    let (negative, ds) : Bool × List Char :=
      match cs with
      | '-' :: ds => (true, ds)
      | '+' :: ds => (false, ds)
      | ds => (false, ds)
    if (e = 'e' ∨ e = 'E') ∧ ds ≠ [] ∧ ds.all Char.isDigit then
      let n : Int := decimal ds
      some (some (if negative then -n else n))
    else none

/-! ### Floating point numbers -/

/-- Appends digits to a number as long as it fits into 64 bits, and counts the digits that are left
over. -/
def appendDigits (n : Nat) : List Char → Nat × Nat
  | [] => (n, 0)
  | d :: ds =>
    if 10 * n + digitValue d < UInt64.size then appendDigits (10 * n + digitValue d) ds
    else (n, ds.length + 1)

def tenPower (n : Nat) : Float := .ofScientific 1 false n

def maxExponent : Nat := 308

/-- A number divided by `10^n`, in several steps if `10^n` is too large. -/
def dividedBy (x : Float) (n : Nat) : Float :=
  if n ≤ maxExponent then x / tenPower n
  else if x == 0 then x
  else dividedBy (x / tenPower maxExponent) (n - maxExponent)
termination_by n
decreasing_by simp only [maxExponent] at *; omega

/-- A number multiplied by `10^n`, unless the product is too large. -/
def multipliedBy? (x : Float) (n : Nat) : Option Float :=
  if x == 0 then some x
  else if n ≤ maxExponent ∧ (x * tenPower n).isFinite then some (x * tenPower n)
  else none

/-- The floating point number with given digits before and after the point. Digits before the point
that do not fit count for the exponent; digits after it that do not fit are dropped. -/
def scaled? (whole places : List Char) (exponent : Int) : Option Float :=
  let (n, surplus) := appendDigits 0 whole
  let (n, dropped) := appendDigits n places
  let exponent : Int := exponent + surplus - (places.length - dropped : Nat)
  let x := Float.ofScientific n false 0
  if exponent < 0 then some (dividedBy x exponent.natAbs) else multipliedBy? x exponent.natAbs

/-- The number that is written with given characters, if it is not too large. -/
def read? (cs : List Char) : Option Scalar :=
  let (negative, cs) : Bool × List Char :=
    match cs with
    | '-' :: cs => (true, cs)
    | cs => (false, cs)
  let whole := cs.takeWhile Char.isDigit
  if whole = [] ∨ (whole.head? = some '0' ∧ 1 < whole.length) then none
  else
    (fraction? (cs.dropWhile Char.isDigit)).bind fun (places, rest) =>
      (exponent? rest).bind fun exponent? =>
        let n := decimal whole
        let isWhole := places.isEmpty && exponent?.isNone &&
          if negative then 0 < n && n ≤ UInt64.size / 2 else n < UInt64.size
        if isWhole then some (.integer (if negative then -n else n))
        else
          (scaled? whole places (exponent?.getD 0)).map fun x => .real (if negative then -x else x)

end IdPattern.Json.Number
