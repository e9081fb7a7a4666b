import PageCheck.Link.Domain.Name
import PageCheck.Link.Ipv4
import PageCheck.Link.Ipv6
import PageCheck.Text.Utf8

/-! Hosts.  Schemes of the web name a host by a domain or a network address;
other schemes may name it as they like, so long as no delimiter occurs. -/

set_option autoImplicit false

namespace PageCheck

inductive Host where
  | absent
  | domain (labels : List (List Char))
  | ipv4 (address : Nat)
  | ipv6 (pieces : List Nat)
  | plain (name : List Char)
deriving DecidableEq

namespace Host

def percentDecode : List Char → List UInt8
  | [] => []
  | '%' :: high :: low :: rest =>
      match Text.hexDigit? high, Text.hexDigit? low with
      | some upper, some lower => (upper * 16 + lower).toUInt8 :: percentDecode rest
      | _, _ => Utf8.encodeChar '%' ++ percentDecode (high :: low :: rest)
  | char :: rest => Utf8.encodeChar char ++ percentDecode rest

/-- What stands between square brackets, if the text begins with one. -/
inductive Bracketed where
  | none
  | unclosed
  | inside (text : List Char)

def bracketed : List Char → Bracketed
  | '[' :: rest => if rest.getLast? = some ']' then .inside rest.dropLast else .unclosed
  | _ => .none

/-- A domain, or the network address that it is read as. -/
def ofLabels? (labels : List (List Char)) : Option Host :=
  if labels = [[]] then none
  else if Ipv4.endsInNumber labels then (Ipv4.parse? labels).map .ipv4
  else some (.domain labels)

def parse? (text : List Char) : Option Host :=
  match bracketed text with
  | .unclosed => none
  | .inside address => (Ipv6.parse? address).map .ipv6
  | .none => do
      let decoded ← Utf8.decodeStrict? (percentDecode text)
      let labels ← Domain.labels? decoded
      ofLabels? labels

/-- The characters that would end a host, or be taken for another part. -/
def separators : List Char :=
  ['\x00', '\t', '\n', '\r', ' ', '#', '/', ':', '<', '>', '?', '@', '[', '\\', ']', '^', '|']

def isPlainChar (char : Char) : Bool :=
  !separators.contains char

def parsePlain? (text : List Char) : Option Host :=
  match bracketed text with
  | .unclosed => none
  | .inside address => (Ipv6.parse? address).map .ipv6
  | .none =>
      if text.isEmpty then some .absent
      else if text.all isPlainChar then some (.plain text)
      else none

end Host

end PageCheck
