/-! Reading bytes as UTF-8.  Well-formed sequences become their characters; each
longest ill-formed beginning of a sequence becomes one replacement character.
`decodeStrict?` gives a text only where nothing had to be replaced, and `encode`
writes a text back. -/

set_option autoImplicit false

namespace PageCheck

namespace Utf8

def replacement : Char := Char.ofNat 0xFFFD

/-- A sequence whose first bytes have been read: the bits so far, how many bytes
are still owed, and the range the next of them has to come from. -/
structure Pending where
  bits : Nat
  owed : Nat
  least : Nat
  greatest : Nat

/-- What the first byte of a sequence makes: a whole character, the beginning of
a longer sequence, or nothing well-formed. -/
inductive Lead where
  | whole (char : Char)
  | begins (pending : Pending)
  | illFormed

def lead (byte : UInt8) : Lead :=
  let code := byte.toNat
  if code < 0x80 then .whole (Char.ofNat code)
  else if code < 0xC2 then .illFormed
  else if code < 0xE0 then .begins ⟨code - 0xC0, 1, 0x80, 0xBF⟩
  else if code = 0xE0 then .begins ⟨0, 2, 0xA0, 0xBF⟩
  else if code = 0xED then .begins ⟨0xD, 2, 0x80, 0x9F⟩
  else if code < 0xF0 then .begins ⟨code - 0xE0, 2, 0x80, 0xBF⟩
  else if code = 0xF0 then .begins ⟨0, 3, 0x90, 0xBF⟩
  else if code < 0xF4 then .begins ⟨code - 0xF0, 3, 0x80, 0xBF⟩
  else if code = 0xF4 then .begins ⟨4, 3, 0x80, 0x8F⟩
  else .illFormed

/-- The characters read so far are `some`, each ill-formed beginning is `none`. -/
def decodeFrom : Option Pending → List UInt8 → List (Option Char)
  | none, [] => []
  | some _, [] => [none]
  | none, byte :: rest =>
      match lead byte with
      | .whole char => some char :: decodeFrom none rest
      | .begins pending => decodeFrom (some pending) rest
      | .illFormed => none :: decodeFrom none rest
  | some pending, byte :: rest =>
      let code := byte.toNat
      if pending.least ≤ code ∧ code ≤ pending.greatest then
        let bits := pending.bits * 64 + (code - 0x80)
        if pending.owed ≤ 1 then
          some (Char.ofNat bits) :: decodeFrom none rest
        else
          decodeFrom (some ⟨bits, pending.owed - 1, 0x80, 0xBF⟩) rest
      else
        match lead byte with
        | .whole char => none :: some char :: decodeFrom none rest
        | .begins next => none :: decodeFrom (some next) rest
        | .illFormed => none :: none :: decodeFrom none rest

def decode (bytes : List UInt8) : List Char :=
  (decodeFrom none bytes).map (·.getD replacement)

def decodeStrict? (bytes : List UInt8) : Option (List Char) :=
  (decodeFrom none bytes).mapM id

def encodeChar (char : Char) : List UInt8 :=
  let code := char.toNat
  if code < 0x80 then
    [code.toUInt8]
  else if code < 0x800 then
    [(0xC0 + code / 64).toUInt8, (0x80 + code % 64).toUInt8]
  else if code < 0x10000 then
    [(0xE0 + code / 4096).toUInt8, (0x80 + code / 64 % 64).toUInt8, (0x80 + code % 64).toUInt8]
  else
    [(0xF0 + code / 262144).toUInt8, (0x80 + code / 4096 % 64).toUInt8,
      (0x80 + code / 64 % 64).toUInt8, (0x80 + code % 64).toUInt8]

def encode (text : List Char) : List UInt8 :=
  text.flatMap encodeChar

end Utf8

end PageCheck
