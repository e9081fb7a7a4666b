import PageCheck.Config.Numeral

/-! Numbers in JSON.  A whole number that fits 64 bits stands for itself.  Any other
number becomes a double step by step: its digits are gathered into a whole number as
long as that fits 64 bits, and this number, as a double, is multiplied or divided by a
power of ten.  Each step is rounded, so that the double is not always the nearest. -/

set_option autoImplicit false

namespace PageCheck

namespace JsonNumber

/-! ### Steps to a double -/

def beyond : Nat := Nat.pow 2 64

/-- A number with further digits behind it as long as it fits, and how many digits
there is no room for. -/
def gather : Nat → List Char → Nat × Nat
  | number, [] => (number, 0)
  | number, digit :: rest =>
      let longer := number * 10 + Numeral.digitValue digit
      if longer < beyond then gather longer rest else (number, rest.length + 1)

/-- The largest power of ten that is a double. -/
def largestPower : Nat := 308

def powerOfTen (exponent : Nat) : Decimal.Magnitude :=
  Decimal.nearest 1 exponent

/-- A whole number times a power of ten.  What is larger than every double has none;
a power beyond the largest divides in two steps, after which nothing is left. -/
def scaled? (number : Nat) (exponent : Int) : Option Decimal.Magnitude :=
  let double := Decimal.nearest number 0
  if number = 0 then
    some double
  else if exponent < 0 then
    let count := exponent.natAbs
    let first := double.dividedBy (powerOfTen (min count largestPower))
    some (first.dividedBy (powerOfTen (min (count - largestPower) largestPower)))
  else if exponent ≤ largestPower then
    match double.times (powerOfTen exponent.toNat) with
    | .infinite => none
    | product => some product
  else
    none

/-! ### Texts -/

def isWhole : List Char → Bool
  | ['0'] => true
  | '0' :: _ => false
  | digits => Numeral.isDigits digits

def fraction? : List Char → Option (List Char × List Char)
  | '.' :: rest =>
      match rest.takeWhile Text.isAsciiDigit with
      | [] => none
      | digits => some (digits, rest.dropWhile Text.isAsciiDigit)
  | rest => some ([], rest)

def fits (value : Int) : Bool :=
  decide (-Nat.pow 2 63 ≤ value) && decide (value < beyond)

/-- The text by which a number is known.  Zero with a minus is not a whole number. -/
def text? (written : List Char) : Option String :=
  let (negative, text) := match written with
    | '-' :: rest => (true, rest)
    | text => (false, text)
  let whole := text.takeWhile Text.isAsciiDigit
  let behind := text.dropWhile Text.isAsciiDigit
  let value := Numeral.signed negative (Numeral.natValue whole)
  if !isWhole whole then
    none
  else if behind.isEmpty && fits value && !(negative && value == 0) then
    some (Numeral.integerText value)
  else do
    let (fraction, rest) ← fraction? behind
    let power ← Numeral.Real.exponent? rest
    let (number, left) := gather 0 whole
    let (number, ignored) := gather number fraction
    let double ← scaled? number (left + ignored - fraction.length + power)
    return String.ofList (Decimal.signedText negative double)

end JsonNumber

end PageCheck
