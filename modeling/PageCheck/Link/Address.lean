import PageCheck.Link.Host
import PageCheck.Link.Trail

/-! Addresses: a scheme, perhaps an authority with credentials, host and port,
and a path, query and fragment, which may hold anything.  Schemes of the web
always have an authority, and take backslashes for slashes. -/

set_option autoImplicit false

namespace PageCheck

structure Authority where
  credentials : List Char
  host : Host
  port : Option Nat

structure Address where
  scheme : List Char
  authority : Option Authority
  trail : Trail

namespace Authority

/-- The part of an authority before its last `@`, and the rest of the text; the
text has to be cut off where the authority ends. -/
def splitCredentials (kind : SchemeClass) (text : List Char) : Option (List Char) × List Char :=
  let extent := text.takeWhile fun char => !kind.isEnd char
  let after := (extent.reverse.takeWhile (· != '@')).length
  if after = extent.length then
    (none, text)
  else
    let before := extent.length - after - 1
    (some (text.take before), text.drop (before + 1))

def isGiven : List Char → Bool
  | [] => false
  | [char] => char != ':'
  | _ => true

def hostText (kind : SchemeClass) (inside : Bool) : List Char → List Char
  | [] => []
  | char :: rest =>
      if kind.isEnd char || (char == ':' && !inside) then
        []
      else
        char :: hostText kind (if char = '[' then true else if char = ']' then false else inside) rest

def host? (kind : SchemeClass) (text : List Char) : Option Host :=
  match kind with
  | .other => Host.parsePlain? text
  | _ => if text.isEmpty then none else Host.parse? text

/-- The digits of a port, which something that ends an authority has to follow;
a backslash will do for every scheme. -/
def port? (number : Nat) : List Char → Option Nat
  | [] => some number
  | char :: rest =>
      if Text.isAsciiDigit char then
        let next := number * 10 + (char.toNat - '0'.toNat)
        if next < 65536 then port? next rest else none
      else if char = '/' ∨ char = '\\' ∨ char = '?' ∨ char = '#' then
        some number
      else
        none

def afterPort (text : List Char) : List Char :=
  text.dropWhile Text.isAsciiDigit

def read? (kind : SchemeClass) (text : List Char) : Option (Authority × List Char) := do
  let (given, rest) := splitCredentials kind text
  if given = some [] ∧ rest.head?.any kind.isEnd then
    none
  else
    let name := hostText kind false rest
    let host ← host? kind name
    let after := rest.drop name.length
    match after with
    | ':' :: digits =>
        if host = .absent then
          none
        else
          let port ← port? 0 digits
          let written := digits.takeWhile Text.isAsciiDigit
          return (⟨given.getD [], host, if written.isEmpty then none else some port⟩,
            afterPort digits)
    | _ =>
        if host = .absent ∧ given.any isGiven then
          none
        else
          return (⟨given.getD [], host, none⟩, after)

end Authority

namespace Address

def isSchemeChar (char : Char) : Bool :=
  Text.isAsciiLetter char || Text.isAsciiDigit char || char == '+' || char == '-' || char == '.'

def scheme? (text : List Char) : Option (List Char × List Char) :=
  match text with
  | [] => none
  | first :: _ =>
      if Text.isAsciiLetter first then
        match text.dropWhile isSchemeChar with
        | ':' :: rest => some (Text.lower (text.takeWhile isSchemeChar), rest)
        | _ => none
      else
        none

def withAuthority? (scheme text : List Char) : Option Address := do
  let kind := SchemeClass.ofScheme scheme
  let (authority, rest) ← Authority.read? kind text
  return ⟨scheme, some authority, if kind = .web then .ofWeb rest else .ofText rest⟩

def isDriveLetter : List Char → Bool
  | [letter, mark] => Text.isAsciiLetter letter && (mark == ':' || mark == '|')
  | _ => false

/-- The host of a file behind two slashes.  A drive letter is part of the path. -/
def fileHost? (text : List Char) : Option (Host × List Char) :=
  let name := text.takeWhile fun char => !SchemeClass.file.isEnd char
  if name.isEmpty || isDriveLetter name then
    some (.absent, text)
  else
    (Host.parse? name).map fun host => (host, text.drop name.length)

def ofFile? (scheme text : List Char) : Option Address :=
  match text with
  | first :: second :: rest =>
      if SchemeClass.file.isSlash first && SchemeClass.file.isSlash second then
        (fileHost? rest).map fun (host, path) => ⟨scheme, some ⟨[], host, none⟩, .ofText path⟩
      else
        some ⟨scheme, none, .ofText text⟩
  | _ => some ⟨scheme, none, .ofText text⟩

def slashes (text : List Char) : Nat :=
  (text.takeWhile SchemeClass.web.isSlash).length

/-- A reference without a scheme, seen from an address on the web.  Two slashes
begin an authority; everything else keeps that of the address. -/
def ofReference? (base : Address) (text : List Char) : Option Address :=
  if slashes text < 2 then
    some { base with trail := base.trail.follow text }
  else
    match text with
    | '/' :: '/' :: rest => withAuthority? base.scheme rest
    | _ => withAuthority? base.scheme (text.dropWhile SchemeClass.web.isSlash)

/-- What follows a scheme and its colon.  Behind the scheme of the address from which it is
seen there may be a reference. -/
def ofScheme? (base : Option Address) (scheme text : List Char) : Option Address :=
  match SchemeClass.ofScheme scheme with
  | .file => ofFile? scheme text
  | .web =>
      match base with
      | some address =>
          if slashes text < 2 ∧ address.scheme = scheme then
            ofReference? address text
          else
            withAuthority? scheme (text.dropWhile SchemeClass.web.isSlash)
      | none => withAuthority? scheme (text.dropWhile SchemeClass.web.isSlash)
  | .other =>
      match text with
      | '/' :: '/' :: rest => withAuthority? scheme rest
      | _ => some ⟨scheme, none, .ofText text⟩

/-- Why a text is not read: it is a reference, and there is nothing that it could be seen
from, or one of its parts is malformed. -/
inductive Refusal where
  | withoutBase
  | malformed
deriving DecidableEq

def isControlOrSpace (char : Char) : Bool :=
  decide (char.toNat ≤ 0x20)

/-- The text without C0 controls and spaces at its ends. -/
def bare (text : List Char) : List Char :=
  Text.trimEndWhere isControlOrSpace (text.dropWhile isControlOrSpace)

def parse (base : Option Address) (text : List Char) : Except Refusal Address :=
  let written := bare text
  match scheme? written with
  | some (scheme, rest) => (ofScheme? base scheme rest).elim (.error .malformed) .ok
  | none =>
      match base with
      | none => .error .withoutBase
      | some address => (ofReference? address written).elim (.error .malformed) .ok

end Address

end PageCheck
