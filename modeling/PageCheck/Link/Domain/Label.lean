import PageCheck.Link.Domain.DecompositionTable
import PageCheck.Link.Domain.DirectionTable
import PageCheck.Link.Domain.JoiningTable
import PageCheck.Link.Domain.MarkTable

/-! The rules for single labels of a domain name: how they may begin, where
joiners may stand, and how text that runs from right to left may be mixed. -/

set_option autoImplicit false

namespace PageCheck

namespace Domain

/-! ### Joiners -/

def nonJoiner : Char := Char.ofNat 0x200C

def joiner : Char := Char.ofNat 0x200D

/-- The combining class of the signs that drop a vowel. -/
def viramaClass : Nat := 9

/-- The joining of the nearest character that is not transparent. -/
def nearestJoining (text : List Char) : Joining :=
  match (text.map joining).dropWhile (· == .transparent) with
  | [] => .none
  | nearest :: _ => nearest

/-- Whether a character may stand between those before it, the nearest of them
first, and those behind it. -/
def joinerMayStand (before : List Char) (char : Char) (after : List Char) : Bool :=
  let virama := match before with
    | [] => false
    | last :: _ => Normal.combiningClass last == viramaClass
  if char = joiner then
    virama
  else if char = nonJoiner then
    virama ||
      ((nearestJoining before == .left || nearestJoining before == .both) &&
        (nearestJoining after == .right || nearestJoining after == .both))
  else
    true

def joinersStand (before : List Char) : List Char → Bool
  | [] => true
  | char :: rest => joinerMayStand before char rest && joinersStand (char :: before) rest

/-! ### Direction -/

def isRightToLeft : Direction → Bool
  | .right => true
  | .arabicLetter => true
  | .arabicNumber => true
  | _ => false

/-- What may stand in labels of both directions. -/
def isShared : Direction → Bool
  | .europeanNumber => true
  | .europeanSeparator => true
  | .commonSeparator => true
  | .europeanTerminator => true
  | .neutral => true
  | .boundary => true
  | .nonspacing => true
  | _ => false

/-- The last class of a label, marks that take up no space left out. -/
def lastDirection? (directions : List Direction) : Option Direction :=
  (directions.reverse.dropWhile (· == .nonspacing)).head?

def leftToRight (directions : List Direction) : Bool :=
  directions.all (fun direction => direction == .left || isShared direction) &&
    (lastDirection? directions == some .left ||
      lastDirection? directions == some .europeanNumber)

def rightToLeft (directions : List Direction) : Bool :=
  directions.all (fun direction => isRightToLeft direction || isShared direction) &&
    (lastDirection? directions).any (fun last => isRightToLeft last || last == .europeanNumber) &&
    !(directions.contains .europeanNumber && directions.contains .arabicNumber)

/-- Whether a label may stand in a name that has text from right to left. -/
def mixes (label : List Char) : Bool :=
  match label.map direction with
  | [] => true
  | first :: rest =>
      match first with
      | .left => leftToRight (first :: rest)
      | .right => rightToLeft (first :: rest)
      | .arabicLetter => rightToLeft (first :: rest)
      | _ => false

def directionsAgree (labels : List (List Char)) : Bool :=
  !(labels.any fun label => label.any fun char => isRightToLeft (direction char)) ||
    labels.all mixes

def isSound (label : List Char) : Bool :=
  match label with
  | [] => true
  | first :: _ => !isMark first && joinersStand [] label

end Domain

end PageCheck
