import PageCheck.Text.Ascii

/-! Reading the formats of settings: each reader takes something from the
beginning of a text and gives the rest with it. -/

set_option autoImplicit false

namespace PageCheck

abbrev Reader (α : Type) := List Char → Option (α × List Char)

namespace Reader

def hex : Nat → Reader Nat
  | 0, text => some (0, text)
  | _ + 1, [] => none
  | count + 1, char :: rest => do
      let digit ← Text.hexDigit? char
      let (lower, rest) ← hex count rest
      return (digit * Nat.pow 16 count + lower, rest)

def decimal : Nat → Reader Nat
  | 0, text => some (0, text)
  | _ + 1, [] => none
  | count + 1, char :: rest =>
      if Text.isAsciiDigit char then do
        let (lower, rest) ← decimal count rest
        return ((char.toNat - '0'.toNat) * Nat.pow 10 count + lower, rest)
      else
        none

def expect (wanted : Char) : Reader Unit
  | [] => none
  | char :: rest => if char = wanted then some ((), rest) else none

def scalar? (code : Nat) : Option Char :=
  if code < 0xD800 ∨ (0xE000 ≤ code ∧ code < 0x110000) then some (Char.ofNat code) else none

end Reader

end PageCheck
