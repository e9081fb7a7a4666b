/-! The ASCII letters and digits, and lower case for them alone: every other
character keeps its form. -/

set_option autoImplicit false

namespace PageCheck

namespace Text

def isAsciiLetter (char : Char) : Bool :=
  (decide ('a' ≤ char) && decide (char ≤ 'z')) || (decide ('A' ≤ char) && decide (char ≤ 'Z'))

def isAsciiDigit (char : Char) : Bool :=
  decide ('0' ≤ char) && decide (char ≤ '9')

def lowerChar (char : Char) : Char :=
  if 'A' ≤ char ∧ char ≤ 'Z' then Char.ofNat (char.toNat + 32) else char

def lower (text : List Char) : List Char :=
  text.map lowerChar

def lowerName (text : List Char) : String :=
  String.ofList (lower text)

def hexDigit? (char : Char) : Option Nat :=
  if '0' ≤ char ∧ char ≤ '9' then
    some (char.toNat - '0'.toNat)
  else if 'a' ≤ char ∧ char ≤ 'f' then
    some (char.toNat - 'a'.toNat + 10)
  else if 'A' ≤ char ∧ char ≤ 'F' then
    some (char.toNat - 'A'.toNat + 10)
  else
    none

end Text

end PageCheck
