import PageCheck.Link.Ipv4

/-! Network addresses of eight pieces of sixteen bits: hexadecimal numbers
between colons, of which one pair may stand for any number of zeros, and perhaps
four decimal bytes at the end. -/

set_option autoImplicit false

namespace PageCheck

namespace Ipv6

/-- The pieces read so far; `gap` tells how many stand before the zeros left out. -/
structure Progress where
  pieces : List Nat
  gap : Option Nat

def Progress.finish? (progress : Progress) : Option (List Nat) :=
  match progress.gap with
  | none => if progress.pieces.length = 8 then some progress.pieces else none
  | some gap =>
      some (progress.pieces.take gap ++ List.replicate (8 - progress.pieces.length) 0 ++
        progress.pieces.drop gap)

def decimalByte? (text : List Char) : Option Nat :=
  match text with
  | [] => none
  | ['0'] => some 0
  | '0' :: _ => none
  | digits => (Ipv4.digitsValue 10 digits).filter (· < 256)

def decimalPieces? (text : List Char) : Option (List Nat) :=
  match (Text.splitAt '.' text).mapM decimalByte? with
  | some [a, b, c, d] => some [a * 256 + b, c * 256 + d]
  | _ => none

/-- Reads what stands between colons, one part after the other.  An empty part
is where zeros are left out, and it may come last only behind such a place. -/
def readParts (progress : Progress) : List (List Char) → Option (List Nat)
  | [] => progress.finish?
  | part :: rest =>
      if part.isEmpty && rest.isEmpty then
        progress.finish?
      else if progress.pieces.length = 8 then
        none
      else if part.isEmpty then
        match progress.gap with
        | some _ => none
        | none =>
            readParts ⟨progress.pieces ++ [0], some (progress.pieces.length + 1)⟩ rest
      else if part.length ≤ 4 ∧ part.all fun char => (Text.hexDigit? char).isSome then
        if rest = [[]] then
          none
        else
          (Ipv4.digitsValue 16 part).bind fun piece =>
            readParts ⟨progress.pieces ++ [piece], progress.gap⟩ rest
      else if rest.isEmpty ∧ progress.pieces.length ≤ 6 then
        (decimalPieces? part).bind fun pieces =>
          Progress.finish? ⟨progress.pieces ++ pieces, progress.gap⟩
      else
        none

def parse? (text : List Char) : Option (List Nat) :=
  match Text.splitAt ':' text with
  | [_] => none
  | [] :: [] :: part :: rest => readParts ⟨[0], some 1⟩ (part :: rest)
  | [] :: _ => none
  | parts => readParts ⟨[], none⟩ parts

end Ipv6

end PageCheck
