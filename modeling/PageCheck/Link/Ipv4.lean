import PageCheck.Text.Ascii
import PageCheck.Text.Split

/-! Network addresses of four bytes: up to four numbers between dots, decimal,
octal behind a `0` or hexadecimal behind `0x`, the last of them filling all the
bytes that are left. -/

set_option autoImplicit false

namespace PageCheck

namespace Ipv4

def digitsValue (radix : Nat) (digits : List Char) : Option Nat :=
  digits.foldl
    (fun value digit => do
      let sum ← value
      let next ← Text.hexDigit? digit
      if next < radix then some (sum * radix + next) else none)
    (some 0)

/-- A number in one of the three notations; a bare mark of notation is 0. -/
def number? : List Char → Option Nat
  | [] => none
  | '0' :: 'x' :: digits => digitsValue 16 digits
  | '0' :: 'X' :: digits => digitsValue 16 digits
  | '0' :: digit :: digits => digitsValue 8 (digit :: digits)
  | digits => digitsValue 10 digits

def parts (labels : List (List Char)) : List (List Char) :=
  if labels.getLast? = some [] then labels.dropLast else labels

/-- Whether a name is to be read as an address: its last part is a number, or
consists of digits. -/
def endsInNumber (labels : List (List Char)) : Bool :=
  match (parts labels).getLast? with
  | none => false
  | some last =>
      (!last.isEmpty && last.all Text.isAsciiDigit) || (number? last).isSome

/-- The value of the parts, the last of which may take up several bytes. -/
def combine? (numbers : List Nat) : Option Nat :=
  match numbers.reverse with
  | [] => none
  | last :: before =>
      if before.length < 4 ∧ last < Nat.pow 256 (4 - before.length) ∧ before.all (· < 256) then
        some (before.reverse.foldl (fun value byte => value * 256 + byte) 0 *
          Nat.pow 256 (4 - before.length) + last)
      else
        none

def parse? (labels : List (List Char)) : Option Nat :=
  ((parts labels).mapM number?).bind combine?

end Ipv4

end PageCheck
