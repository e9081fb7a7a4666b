import PageCheck.Text.Ascii
import PageCheck.Text.Blank

/-! Properties of characters, as tables of ranges.  A table is written as a text:
rows in increasing order with white space between them, each a range of code
points in hexadecimal (`41-5A`, or `41` for one alone) and, behind the mark `>`
or `=`, the value of the property. -/

set_option autoImplicit false

namespace PageCheck

namespace CharTable

structure Row (α : Type) where
  first : Nat
  last : Nat
  value : α

/-- The row with a code point, in a table whose rows are in increasing order. -/
def row? {α : Type} (code : Nat) : List (Row α) → Option (Row α)
  | [] => none
  | row :: rest =>
      if code ≤ row.last then
        if row.first ≤ code then some row else none
      else
        row? code rest

def value? {α : Type} (table : List (Row α)) (char : Char) : Option α :=
  (row? char.toNat table).map (·.value)

def member {α : Type} (table : List (Row α)) (char : Char) : Bool :=
  (row? char.toNat table).isSome

/-! ### Reading -/

def words (text : List Char) : List (List Char) :=
  let (word, others) := text.foldr
    (fun char (word, others) =>
      if Text.isBlank char then
        ([], if word.isEmpty then others else word :: others)
      else
        (char :: word, others))
    ([], [])
  if word.isEmpty then others else word :: others

def hex (digits : List Char) : Nat :=
  digits.foldl (fun value digit => value * 16 + (Text.hexDigit? digit).getD 0) 0

def isMark (char : Char) : Bool :=
  char == '>' || char == '='

def row {α : Type} (read : List Char → α) (word : List Char) : Row α :=
  let range := word.takeWhile fun char => !isMark char
  let value := (word.dropWhile fun char => !isMark char).drop 1
  let first := range.takeWhile (· != '-')
  let last := (range.dropWhile (· != '-')).drop 1
  ⟨hex first, if last.isEmpty then hex first else hex last, read value⟩

def ofText {α : Type} (read : List Char → α) (text : String) : List (Row α) :=
  (words text.toList).map (row read)

def ofRanges (text : String) : List (Row Unit) :=
  ofText (fun _ => ()) text

end CharTable

end PageCheck
