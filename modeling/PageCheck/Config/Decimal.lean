/-! Decimal fractions and the numbers of double precision nearest to them.  A
number is read as the nearest double, a tie going to the even one, and written
with the fewest digits that lead back to it, always positionally. -/

set_option autoImplicit false

namespace PageCheck

namespace Decimal

/-- Without its sign: a mantissa times a power of two, or beyond every number. -/
inductive Magnitude where
  | finite (mantissa : Nat) (exponent : Int)
  | infinite
deriving DecidableEq

/-! ### The nearest double -/

def leastExponent : Int := -1074

/-- The quotient rounded to the nearest whole number, a tie to the even one. -/
def roundDiv (numerator denominator : Nat) : Nat :=
  let quotient := numerator / denominator
  let rest := 2 * (numerator % denominator)
  if rest < denominator then quotient
  else if denominator < rest then quotient + 1
  else quotient + quotient % 2

def scale (numerator denominator : Nat) (exponent : Int) : Nat × Nat :=
  if 0 ≤ exponent then
    (numerator, denominator * Nat.pow 2 exponent.toNat)
  else
    (numerator * Nat.pow 2 (-exponent).toNat, denominator)

/-- The largest power of two that is not above a positive quotient. -/
def floorLog (numerator denominator : Nat) : Int :=
  let guess : Int := (Nat.log2 numerator : Int) - (Nat.log2 denominator : Int)
  let (above, below) := scale numerator denominator guess
  if below ≤ above then guess else guess - 1

def ofQuotient (numerator denominator : Nat) : Magnitude :=
  if numerator = 0 then
    .finite 0 leastExponent
  else
    let exponent := max (floorLog numerator denominator - 52) leastExponent
    let (above, below) := scale numerator denominator exponent
    let mantissa := roundDiv above below
    let (mantissa, exponent) :=
      if mantissa = Nat.pow 2 53 then (Nat.pow 2 52, exponent + 1) else (mantissa, exponent)
    if 971 < exponent then .infinite else .finite mantissa exponent

def digitCount (value : Nat) : Nat :=
  (Nat.toDigits 10 value).length

/-- The double nearest to `digits` times a power of ten. -/
def nearest (digits : Nat) (exponent : Int) : Magnitude :=
  let size := exponent + digitCount digits
  if digits = 0 ∨ size < -400 then .finite 0 leastExponent
  else if 400 < size then .infinite
  else if 0 ≤ exponent then ofQuotient (digits * Nat.pow 10 exponent.toNat) 1
  else ofQuotient digits (Nat.pow 10 (-exponent).toNat)

/-! ### Products and quotients

Each is the exact one, rounded once. -/

namespace Magnitude

def times : Magnitude → Magnitude → Magnitude
  | .finite left leftExponent, .finite right rightExponent =>
      let (above, below) := scale (left * right) 1 (-(leftExponent + rightExponent))
      ofQuotient above below
  | _, _ => .infinite

def dividedBy : Magnitude → Magnitude → Magnitude
  | .finite left leftExponent, .finite right rightExponent =>
      let (above, below) := scale left right (rightExponent - leftExponent)
      ofQuotient above below
  | magnitude, _ => magnitude

end Magnitude

/-! ### The fewest digits -/

/-- Four times a double and the ends of the interval of what is nearest to it,
over a common denominator; the ends belong to it if the mantissa is even. -/
structure Interval where
  low : Nat
  middle : Nat
  high : Nat
  denominator : Nat
  closed : Bool

def interval (mantissa : Nat) (exponent : Int) : Interval :=
  let (factor, denominator) := scale 1 1 (-exponent)
  let narrow := mantissa = Nat.pow 2 52 ∧ leastExponent < exponent
  { low := (4 * mantissa - (if narrow then 1 else 2)) * factor
    middle := 4 * mantissa * factor
    high := (4 * mantissa + 2) * factor
    denominator := 4 * denominator
    closed := mantissa % 2 = 0 }

namespace Interval

def holds (range : Interval) (numerator denominator : Nat) : Bool :=
  let value := numerator * range.denominator
  let low := range.low * denominator
  let high := range.high * denominator
  (decide (low < value) && decide (value < high)) ||
    (range.closed && (value == low || value == high))

/-- Of the two neighbours of the double among the multiples of a power of ten,
the nearer one that leads back to it, as that multiple.  Of two equally near ones it
is the larger. -/
def onGrid? (range : Interval) (power : Int) : Option Nat :=
  let up := Nat.pow 10 power.toNat
  let down := Nat.pow 10 (-power).toNat
  let below := range.middle * down / (range.denominator * up)
  let above := below + 1
  let fits (multiple : Nat) := range.holds (multiple * up) down
  let twice := 2 * range.middle * down
  let centre := (below + above) * range.denominator * up
  if fits below && (!fits above || decide (twice < centre)) then some below
  else if fits above then some above
  else none

def digitsFrom (range : Interval) (power : Int) : Nat → Option (Nat × Int)
  | 0 => none
  | fuel + 1 =>
      match range.onGrid? power with
      | some 0 => digitsFrom range (power - 1) fuel
      | some multiple => some (multiple, power)
      | none => digitsFrom range (power - 1) fuel

end Interval

/-- The digits of a double and the power of ten that they count. -/
def digits (mantissa : Nat) (exponent : Int) : Nat × Int :=
  (((interval mantissa exponent).digitsFrom 309 700)).getD (mantissa, 0)

/-! ### Text -/

def zeros (count : Nat) : List Char :=
  List.replicate count '0'

def positional (value : Nat) (power : Int) : List Char :=
  let written := Nat.toDigits 10 value
  if 0 ≤ power then
    written ++ zeros power.toNat
  else
    let places := (-power).toNat
    let padded := zeros (places + 1 - written.length) ++ written
    padded.take (padded.length - places) ++ '.' :: padded.drop (padded.length - places)

def magnitudeText : Magnitude → List Char
  | .infinite => ['i', 'n', 'f']
  | .finite mantissa exponent =>
      if mantissa = 0 then ['0']
      else
        let (value, power) := digits mantissa exponent
        positional value power

def signedText (negative : Bool) (magnitude : Magnitude) : List Char :=
  (if negative then ['-'] else []) ++ magnitudeText magnitude

def text (negative : Bool) (digits : Nat) (exponent : Int) : List Char :=
  signedText negative (nearest digits exponent)

end Decimal

end PageCheck
