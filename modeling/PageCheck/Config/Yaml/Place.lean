import PageCheck.Config.Reader

/-! Places in a YAML text, where the column of a character and what stands before
it on its line decide what it belongs to. -/

set_option autoImplicit false

namespace PageCheck

namespace Yaml

/-! ### Characters -/

def isBlank (char : Char) : Bool :=
  char == ' ' || char == '\t'

def isFlowMark (char : Char) : Bool :=
  char == ',' || char == '[' || char == ']' || char == '\x7b' || char == '\x7d'

def isWordChar (char : Char) : Bool :=
  Text.isAsciiLetter char || Text.isAsciiDigit char || char == '_' || char == '-'

def atLineEnd : List Char → Bool
  | [] => true
  | char :: _ => char == '\n'

def atGap : List Char → Bool
  | [] => true
  | char :: _ => isBlank char || char == '\n'

def atMark (mark : Char) : List Char → Bool
  | [] => false
  | char :: rest => char == mark && atGap rest

def normalLines : List Char → List Char
  | '\r' :: '\n' :: rest => '\n' :: normalLines rest
  | '\r' :: rest => '\n' :: normalLines rest
  | char :: rest => char :: normalLines rest
  | [] => []

/-! ### Places -/

/-- The rest of a text, and where it begins.  A place is fresh if nothing but
blanks stands before it on its line. -/
structure Place where
  text : List Char
  line : Nat
  column : Nat
  offset : Nat
  fresh : Bool

namespace Place

def start (text : List Char) : Place :=
  ⟨text, 0, 0, 0, true⟩

def next (place : Place) : Place :=
  match place.text with
  | [] => place
  | '\n' :: rest => ⟨rest, place.line + 1, 0, place.offset + 1, true⟩
  | char :: rest =>
      ⟨rest, place.line, place.column + 1, place.offset + 1, place.fresh && isBlank char⟩

def along : Nat → Place → Place
  | 0, place => place
  | count + 1, place => along count place.next

def past (test : Char → Bool) (place : Place) : Place :=
  place.along (place.text.takeWhile test).length

def pastBlanks (place : Place) : Place :=
  place.past isBlank

def pastLine (place : Place) : Place :=
  place.past (· != '\n')

/-- Left of a column, which may be one outside the text. -/
def isLeftOf (place : Place) (column : Int) : Bool :=
  decide ((place.column : Int) < column)

def isAtRule (mark : Char) (place : Place) : Bool :=
  place.column == 0 &&
    (match place.text with
      | first :: second :: third :: rest =>
          first == mark && second == mark && third == mark && atGap rest
      | _ => false)

def isAtDocument (place : Place) : Bool :=
  place.isAtRule '-' || place.isAtRule '.'

/-! ### The rest of a line -/

structure Spacing where
  place : Place
  hasSpaces : Bool
  hasTabs : Bool

/-- Passes spaces, tabs if they may stand there, and a comment, which has to be set
off from what it follows. -/
def spacing? (tabs : Bool) (place : Place) : Option Spacing :=
  let blanks := place.text.takeWhile fun char => char == ' ' || (tabs && char == '\t')
  let after := place.along blanks.length
  match after.text with
  | '#' :: _ =>
      if blanks.isEmpty then none
      else some ⟨after.pastLine, blanks.contains ' ', blanks.contains '\t'⟩
  | _ => some ⟨after, blanks.contains ' ', blanks.contains '\t'⟩

def lineEnd? (place : Place) : Option Place :=
  (place.spacing? true).bind fun spacing =>
    if atLineEnd spacing.place.text then some spacing.place else none

/-! ### Gaps inside a scalar -/

/-- Blanks and line breaks; after a break the blanks do not count. -/
structure Gap where
  place : Place
  blanks : List Char
  breaks : Nat

/-- Passes a gap; `tab?` passes a tab at the beginning of a line. -/
def gapFrom? (tab? : Place → Option Place) : Nat → Gap → Option Gap
  | 0, _ => none
  | fuel + 1, gap =>
      match gap.place.text with
      | [] => some gap
      | char :: _ =>
          if char = '\n' then
            gapFrom? tab? fuel ⟨gap.place.next, [], gap.breaks + 1⟩
          else if !isBlank char then
            some gap
          else if gap.place.fresh then do
            let place ← if char = '\t' then tab? gap.place else some gap.place.next
            gapFrom? tab? fuel { gap with place := place }
          else
            gapFrom? tab? fuel { gap with place := gap.place.next, blanks := gap.blanks ++ [char] }

def gap? (tab? : Place → Option Place) (place : Place) : Option Gap :=
  gapFrom? tab? (place.text.length + 1) ⟨place, [], 0⟩

/-- What a gap stands for: its blanks if it is on one line, else a space for one
line break, and for more of them one break less. -/
def Gap.joint (gap : Gap) : List Char :=
  match gap.breaks with
  | 0 => gap.blanks
  | 1 => [' ']
  | count + 2 => List.replicate (count + 1) '\n'

end Place

end Yaml

end PageCheck
