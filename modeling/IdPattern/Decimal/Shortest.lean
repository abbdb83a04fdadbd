/-!
# Shortest decimal text

A binary floating point number is `m · 2^q`, and all reals nearer to it than to its neighbours round
to it. Of the decimals in that interval the one with the fewest digits is chosen, and of those the
nearest to the number. For each count of digits there are only two decimals to try: the last one not
above the number and the first one above it.

The text is positional for numbers of a moderate size, and then always has a decimal point. All
others are written with an exponent.
-/

namespace IdPattern.Decimal

/-- A positive number `m · 2^q` with the interval of reals that round to it. -/
structure Rounded where
  m : Nat
  q : Int
  /-- The number below is half as far away as the number above. -/
  closeBelow : Bool

structure Scaled where
  digits : Nat
  exponent : Int

namespace Rounded

/-- A quarter of the last binary place, as a fraction. -/
def quarter (r : Rounded) : Nat × Nat :=
  (Nat.pow 2 (r.q - 2).toNat, Nat.pow 2 (2 - r.q).toNat)

/-- The multiples of a quarter place at which the number and the ends of its interval lie. -/
def centre (r : Rounded) : Nat := 4 * r.m

def upper (r : Rounded) : Nat := r.centre + 2

def lower (r : Rounded) : Nat := r.centre - if r.closeBelow then 1 else 2

/-- The decimal exponent of the number: the least `e` such that the number is below `10^e`. -/
def magnitude (r : Rounded) : Int :=
  let (up, down) := r.quarter
  let num := r.centre * up
  if down ≤ num then (Nat.toDigits 10 (num / down)).length
  else 1 - ((Nat.toDigits 10 ((down - 1) / num)).length : Int)

/-- Both `x` quarter places and the decimal `d`, as whole multiples of one common unit. -/
def common (r : Rounded) (x : Nat) (d : Scaled) : Nat × Nat :=
  let (up, down) := r.quarter
  (x * up * Nat.pow 10 (-d.exponent).toNat, d.digits * Nat.pow 10 d.exponent.toNat * down)

/-- Whether a decimal rounds to the number. The ends of the interval do if `m` is even. -/
def has (r : Rounded) (d : Scaled) : Bool :=
  let (low, atLow) := r.common r.lower d
  let (high, atHigh) := r.common r.upper d
  if r.m % 2 = 0 then low ≤ atLow && atHigh ≤ high else low < atLow && atHigh < high

def distance (r : Rounded) (d : Scaled) : Nat :=
  let (x, y) := r.common r.centre d
  (x - y) + (y - x)

/-- The decimal with `n` digits that rounds to the number and is nearest to it. If there are two
it is the even one. -/
def candidate? (r : Rounded) (n : Nat) : Option Scaled :=
  let exponent := r.magnitude - n
  let (x, unit) := r.common r.centre ⟨1, exponent⟩
  let below : Scaled := ⟨x / unit, exponent⟩
  let above : Scaled := ⟨x / unit + 1, exponent⟩
  match r.has below, r.has above with
  | true, true =>
    match compare (r.distance below) (r.distance above) with
    | .lt => some below
    | .gt => some above
    | .eq => some (if below.digits % 2 = 0 then below else above)
  | true, false => some below
  | false, true => some above
  | false, false => none

/-- The shortest decimal that rounds to the number. Seventeen digits are always enough. -/
def shortest (r : Rounded) : Scaled :=
  ((List.range' 1 17).findSome? r.candidate?).getD ⟨r.m, 0⟩

end Rounded

/-- The significant digits of a decimal: those of its number up to the last that is not zero. -/
def Scaled.significant (d : Scaled) : List Char :=
  ((Nat.toDigits 10 d.digits).reverse.dropWhile (· == '0')).reverse

def Scaled.leading (d : Scaled) : Int :=
  d.exponent + (Nat.toDigits 10 d.digits).length - 1

/-- A text of digits with a point behind the first `n`, and at least one place after it. -/
def pointed (n : Nat) (ds : List Char) : List Char :=
  let whole := ds.take n ++ List.replicate (n - ds.length) '0'
  whole ++ '.' :: if ds.drop n = [] then ['0'] else ds.drop n

/-- The text of a decimal. It is positional if the first digit stands at most five places after the
point or sixteen before it. Otherwise the point follows the first digit, unless there are no others,
and the exponent has a sign in any case. -/
def Scaled.text (d : Scaled) : List Char :=
  let e := d.leading
  if e < -5 ∨ 16 ≤ e then
    let digits := match d.significant with
      | first :: second :: ds => first :: '.' :: second :: ds
      | ds => ds
    digits ++ 'e' :: (if e < 0 then '-' else '+') :: Nat.toDigits 10 e.natAbs
  else if e < 0 then pointed 1 (List.replicate e.natAbs '0' ++ d.significant)
  else pointed (e.toNat + 1) d.significant

/-- The magnitude of a floating point number that is neither zero, infinite nor undefined. -/
def Rounded.ofFloat (x : Float) : Rounded :=
  let bits := x.toBits.toNat
  let field : Nat := bits / Nat.pow 2 52 % Nat.pow 2 11
  let fraction : Nat := bits % Nat.pow 2 52
  if field = 0 then ⟨fraction, -1074, false⟩
  else ⟨Nat.pow 2 52 + fraction, (field : Int) - 1075, fraction = 0 && 1 < field⟩

/-- The text of a finite floating point number. A zero keeps its sign. -/
def floatText (x : Float) : String :=
  let bits := x.toBits.toNat
  let sign := if Nat.pow 2 63 ≤ bits then ['-'] else []
  let magnitude :=
    if bits % Nat.pow 2 63 = 0 then ['0', '.', '0'] else (Rounded.ofFloat x).shortest.text
  String.ofList (sign ++ magnitude)

end IdPattern.Decimal
