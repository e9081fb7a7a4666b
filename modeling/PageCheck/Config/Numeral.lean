import PageCheck.Config.Decimal
import PageCheck.Text.Ascii

/-! Numerals, and the texts by which the numbers they stand for are known: whole
numbers without leading zeros, all others as the nearest double. -/

set_option autoImplicit false

namespace PageCheck

namespace Numeral

def digitValue (char : Char) : Nat :=
  char.toNat - '0'.toNat

def natValue (digits : List Char) : Nat :=
  digits.foldl (fun value digit => value * 10 + digitValue digit) 0

def isDigits (text : List Char) : Bool :=
  !text.isEmpty && text.all Text.isAsciiDigit

def sign : List Char → Bool × List Char
  | '-' :: rest => (true, rest)
  | '+' :: rest => (false, rest)
  | text => (false, text)

def signed (negative : Bool) (magnitude : Nat) : Int :=
  if negative then -(magnitude : Int) else magnitude

def fitsSigned (value : Int) : Bool :=
  decide (-Nat.pow 2 63 ≤ value) && decide (value < Nat.pow 2 63)

def integerText (value : Int) : String :=
  if value < 0 then "-" ++ toString value.natAbs else toString value.natAbs

def integer? (radix : Nat) (text : List Char) : Option Int :=
  let (negative, digits) := sign text
  if digits.isEmpty then
    none
  else do
    let magnitude ← digits.foldl
      (fun value digit => do
        let sum ← value
        let next ← Text.hexDigit? digit
        if next < radix then some (sum * radix + next) else none)
      (some 0)
    let value := signed negative magnitude
    if fitsSigned value then some value else none

/-! ### Fractions -/

inductive Real where
  | notANumber
  | infinite (negative : Bool)
  | decimal (negative : Bool) (digits : Nat) (exponent : Int)
deriving DecidableEq

namespace Real

def isFinite : Real → Bool
  | .decimal _ digits exponent => Decimal.nearest digits exponent ≠ .infinite
  | _ => false

def text : Real → String
  | .notANumber => "NaN"
  | .infinite negative => if negative then "-inf" else "inf"
  | .decimal negative digits exponent => String.ofList (Decimal.text negative digits exponent)

def ofParts (negative : Bool) (whole fraction : List Char) (exponent : Int) : Real :=
  .decimal negative (natValue (whole ++ fraction)) (exponent - fraction.length)

def exponent? : List Char → Option Int
  | [] => some 0
  | mark :: rest =>
      if mark = 'e' ∨ mark = 'E' then
        let (negative, digits) := sign rest
        if isDigits digits then some (signed negative (natValue digits)) else none
      else
        none

/-- A numeral with a point, a power of ten, both or neither; there is a digit
before the point or behind it. -/
def decimal? (negative : Bool) (text : List Char) : Option Real :=
  let whole := text.takeWhile Text.isAsciiDigit
  let (fraction, rest) := match text.dropWhile Text.isAsciiDigit with
    | '.' :: rest => (rest.takeWhile Text.isAsciiDigit, rest.dropWhile Text.isAsciiDigit)
    | rest => ([], rest)
  if whole.isEmpty && fraction.isEmpty then
    none
  else
    (exponent? rest).map (ofParts negative whole fraction)

/-- A numeral, or the name of infinity or of what is not a number, in either case. -/
def read? (text : List Char) : Option Real :=
  let (negative, rest) := sign text
  let name := Text.lowerName rest
  if name = "inf" ∨ name = "infinity" then some (.infinite negative)
  else if name = "nan" then some .notANumber
  else decimal? negative rest

end Real

end Numeral

end PageCheck
