import PageCheck.Config.Yaml.Place

/-! What a YAML text is made of: scalars, the properties that stand in front of
nodes, and the marks that hold lists and tables together.  Where a list or a table
of a block begins or ends nothing is written; there are tokens for it all the same. -/

set_option autoImplicit false

namespace PageCheck

namespace Yaml

inductive Token where
  | version
  | tagRule (handle expansion : String)
  | documentStart
  | documentEnd
  | blockList
  | blockTable
  | blockEnd
  | listStart
  | listEnd
  | tableStart
  | tableEnd
  | comma
  | item
  | key
  | value
  | anchor (name : String)
  | alias (name : String)
  | tag (handle suffix : String)
  | scalar (plain : Bool) (text : String)
deriving DecidableEq

/-! ### Names -/

def isNameChar (char : Char) : Bool :=
  !isBlank char && char != '\n' && char.toNat != 0xFEFF && !isFlowMark char

def name? (place : Place) : Option (String × Place) :=
  match place.next.text.takeWhile isNameChar with
  | [] => none
  | name => some (String.ofList name, place.next.along name.length)

/-! ### Tags -/

def isAddressChar (char : Char) : Bool :=
  Text.isAsciiLetter char || Text.isAsciiDigit char ||
    "-#;/?:@&=+$,_.!~*\x27()[]%".toList.contains char

def isSuffixChar (char : Char) : Bool :=
  isAddressChar char && !isFlowMark char && char != '!'

def encodedByte? (place : Place) : Option (Nat × Place) :=
  match place.text with
  | '%' :: rest => (Reader.hex 2 rest).map fun (byte, _) => (byte, place.along 3)
  | _ => none

/-- A character behind a percent sign: a byte of seven bits, or two bytes of which
the second only goes on with the first.  Its code is the number that they are. -/
def encodedChar? (place : Place) : Option (Char × Place) := do
  let (first, after) ← encodedByte? place
  if first < 0x80 then
    return (Char.ofNat first, after)
  let (second, after) ← encodedByte? after
  if 0xC0 ≤ first ∧ first < 0xE0 ∧ 0x80 ≤ second ∧ second < 0xC0 then
    let char ← Reader.scalar? (first * 256 + second)
    return (char, after)
  else
    none

def addressFrom? (test : Char → Bool) : Nat → Place → Option (List Char × Place)
  | 0, _ => none
  | fuel + 1, place =>
      match place.text with
      | [] => some ([], place)
      | char :: _ =>
          if !test char then
            some ([], place)
          else do
            let (read, after) ←
              if char = '%' then encodedChar? place else some (char, place.next)
            let (more, after) ← addressFrom? test fuel after
            return (read :: more, after)

def address? (test : Char → Bool) (place : Place) : Option (List Char × Place) :=
  addressFrom? test (place.text.length + 1) place

/-- An exclamation mark, and a word that may be closed by another one. -/
def handle? (place : Place) : Option (List Char × Place) :=
  match place.text with
  | '!' :: rest =>
      let word := rest.takeWhile isWordChar
      let after := place.next.along word.length
      if after.text.head? = some '!' then some ('!' :: word ++ ['!'], after.next)
      else some ('!' :: word, after)
  | _ => none

def isClosed (handle : List Char) : Bool :=
  decide (2 ≤ handle.length) && handle.getLast? == some '!'

def wholeTag? (place : Place) : Option (Token × Place) := do
  let (address, after) ← address? isAddressChar (place.along 2)
  if after.text.head? = some '>' then
    return (.tag "" (String.ofList address), after.next)
  else
    none

/-- A handle and what is behind it; a mark alone is a tag too. -/
def shortTag? (place : Place) : Option (Token × Place) := do
  let (handle, behind) ← handle? place
  let (suffix, after) ← address? isSuffixChar behind
  if isClosed handle then
    if suffix.isEmpty then none
    else return (.tag (String.ofList handle) (String.ofList suffix), after)
  else
    match handle.drop 1 ++ suffix with
    | [] => return (.tag "" "!", after)
    | suffix => return (.tag "!" (String.ofList suffix), after)

def tag? (inFlow : Bool) (place : Place) : Option (Token × Place) := do
  let (token, after) ←
    if place.next.text.head? = some '<' then wholeTag? place else shortTag? place
  if atGap after.text || (inFlow && after.text.head?.any isFlowMark) then
    return (token, after)
  else
    none

/-! ### Directives -/

def versionPart? (place : Place) : Option Place :=
  let digits := place.text.takeWhile Text.isAsciiDigit
  if digits.isEmpty || decide (9 < digits.length) then none else some (place.along digits.length)

def version? (place : Place) : Option (Token × Place) := do
  let after ← versionPart? place.pastBlanks
  if after.text.head? = some '.' then
    let after ← versionPart? after.next
    return (.version, after)
  else
    none

/-- The address, or its beginning, that a handle stands for. -/
def expansion? (place : Place) : Option (List Char × Place) :=
  match place.text with
  | '!' :: _ => (address? isAddressChar place.next).map fun (rest, after) => ('!' :: rest, after)
  | char :: _ => if isSuffixChar char then address? isAddressChar place else none
  | [] => none

def tagRule? (place : Place) : Option (Token × Place) := do
  let (handle, after) ← handle? place.pastBlanks
  if isClosed handle || handle == ['!'] then
    let (expansion, after) ← expansion? after.pastBlanks
    if atGap after.text then
      return (.tagRule (String.ofList handle) (String.ofList expansion), after)
    else
      none
  else
    none

/-- A directive at its percent sign, and the place behind its line.  One that is not
known sets up nothing. -/
def directive? (place : Place) : Option (Token × Place) := do
  let name := place.next.text.takeWhile isWordChar
  let after := place.next.along name.length
  if name.isEmpty || !atGap after.text then
    none
  let (token, after) ←
    match String.ofList name with
    | "YAML" => version? after
    | "TAG" => tagRule? after
    | _ => some (.tagRule "" "", after.pastLine)
  let lineEnd ← after.lineEnd?
  return (token, lineEnd.next)

end Yaml

end PageCheck
