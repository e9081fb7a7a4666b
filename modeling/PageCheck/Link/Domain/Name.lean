import PageCheck.Link.Domain.Label
import PageCheck.Link.Domain.MappingTable
import PageCheck.Link.Domain.Normal
import PageCheck.Link.Domain.Punycode

/-! Domain names: the labels between dots, in lower case and composed normal
form, with labels in Punycode read.  A name that holds a character with a
meaning of its own in addresses, or a label that breaks a rule, is no name. -/

set_option autoImplicit false

namespace PageCheck

namespace Domain

def isAscii (char : Char) : Bool :=
  decide (char.toNat < 0x80)

def isForbidden (char : Char) : Bool :=
  decide (char.toNat ≤ 0x20) || char.toNat == 0x7F ||
    ['%', '#', '/', ':', '<', '>', '?', '@', '[', '\\', ']', '^', '|'].contains char

def standsForItself (char : Char) : Bool :=
  written? char == some [char] && !isForbidden char && char != '.'

/-- The longest label that can be written in Punycode, and the longest that can
be read. -/
def longestWritten : Nat := 1000
def longestRead : Nat := 2000

/-- A label written in Punycode behind its mark.  It has to be needed, and read
as a label that could have been given directly. -/
def encodedLabel? (digits : List Char) : Option (List Char) :=
  if digits.isEmpty || digits.getLast? == some '-' || decide (longestRead < digits.length) then
    none
  else
    match Punycode.decode? digits with
    | none => none
    | some label =>
        if !label.all isAscii && label.all standsForItself && Normal.normalize label == label &&
            isSound label then
          some label
        else
          none

def label? (text : List Char) : Option (List Char) :=
  match text with
  | 'x' :: 'n' :: '-' :: '-' :: digits => encodedLabel? digits
  | _ =>
      if isSound text && (text.all isAscii || decide (text.length ≤ longestWritten)) then
        some text
      else
        none

def labels? (text : List Char) : Option (List (List Char)) := do
  let replaced ← text.mapM written?
  let normal := Normal.normalize replaced.flatten
  if normal.any isForbidden then
    none
  else
    let labels ← (Text.splitAt '.' normal).mapM label?
    if directionsAgree labels then some labels else none

end Domain

end PageCheck
