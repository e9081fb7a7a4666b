import PageCheck.Text.Ascii

/-! Reading labels in Punycode: the ASCII characters of a label, a hyphen, and
digits that say which other characters are put in where. -/

set_option autoImplicit false

namespace PageCheck

namespace Punycode

def base : Nat := 36
def least : Nat := 1
def greatest : Nat := 26
def skew : Nat := 38
def damp : Nat := 700

def digit? (char : Char) : Option Nat :=
  if '0' ≤ char ∧ char ≤ '9' then
    some (char.toNat - '0'.toNat + 26)
  else if 'a' ≤ char ∧ char ≤ 'z' then
    some (char.toNat - 'a'.toNat)
  else if 'A' ≤ char ∧ char ≤ 'Z' then
    some (char.toNat - 'A'.toNat)
  else
    none

def reduce : Nat → Nat → Nat → Nat × Nat
  | 0, count, delta => (count, delta)
  | fuel + 1, count, delta =>
      if (base - least) * greatest / 2 < delta then
        reduce fuel (count + base) (delta / (base - least))
      else
        (count, delta)

def adapt (delta length : Nat) (first : Bool) : Nat :=
  let start := if first then delta / damp else delta / 2
  let (count, reduced) := reduce start 0 (start + start / length)
  count + (base - least + 1) * reduced / (reduced + skew)

def threshold (position bias : Nat) : Nat :=
  max least (min greatest (position - bias))

/-- Between two digits: the text so far, the last character put in and where, and
the number that is being read. -/
structure Progress where
  text : List Char
  code : Nat
  index : Nat
  bias : Nat
  begun : Nat
  weight : Nat
  position : Nat

def Progress.start (text : List Char) : Progress :=
  ⟨text, 128, 0, 72, 0, 1, base⟩

def fits (value : Nat) : Bool :=
  decide (value < Nat.pow 2 32)

def isScalar (code : Nat) : Bool :=
  decide (code < 0xD800) || (decide (0xE000 ≤ code) && decide (code < 0x110000))

/-- Puts in the character that a finished number stands for. -/
def Progress.insert? (progress : Progress) (index : Nat) : Option Progress :=
  let length := progress.text.length + 1
  let code := progress.code + index / length
  let place := index % length
  if isScalar code then
    some
      { text := progress.text.take place ++ Char.ofNat code :: progress.text.drop place
        code := code
        index := place + 1
        bias := adapt (index - progress.begun) length (progress.begun == 0)
        begun := place + 1
        weight := 1
        position := base }
  else
    none

def Progress.step? (progress : Progress) (digit : Nat) : Option Progress :=
  let index := progress.index + digit * progress.weight
  let limit := threshold progress.position progress.bias
  let weight := progress.weight * (base - limit)
  if fits index = false then
    none
  else if digit < limit then
    progress.insert? index
  else if fits weight then
    some { progress with index := index, weight := weight, position := progress.position + base }
  else
    none

def decodeDigits : Progress → List Char → Option (List Char)
  | progress, [] => if progress.position = base then some progress.text else none
  | progress, char :: rest => do
      let digit ← digit? char
      let next ← progress.step? digit
      decodeDigits next rest

/-- The text before the last hyphen and the digits behind it; a hyphen at the
beginning is taken for a digit. -/
def parts (text : List Char) : List Char × List Char :=
  let digits := (text.reverse.takeWhile (· != '-')).reverse
  match text.take (text.length - digits.length - 1) with
  | [] => ([], text)
  | plain => (plain, digits)

def decode? (text : List Char) : Option (List Char) :=
  let (plain, digits) := parts text
  if plain.all fun char => decide (char.toNat < 0x80) then
    decodeDigits (.start plain) digits
  else
    none

end Punycode

end PageCheck
