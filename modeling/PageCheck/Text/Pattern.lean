import PageCheck.Text.Span

/-! Patterns and the passes that look for them.  A pattern reads something at
the beginning of a text, and says how much it read.  A pass from left to right
takes the pattern at the first place where it reads, goes on behind what was
read, and so divides the text into readings and the single characters between
them. -/

set_option autoImplicit false

namespace PageCheck

structure Reading (α : Type) where
  value : α
  text : List Char

abbrev Pattern (α : Type) := List Char → Option (Reading α)

inductive Piece (α : Type) where
  | plain (char : Char)
  | hit (reading : Reading α)

/-- A reading together with the place where it stands. -/
structure Found (α : Type) where
  value : α
  span : Span

namespace Pattern

variable {α : Type}

/-- The pass, with `skip` characters left of the reading before. -/
def piecesAfter (pattern : Pattern α) : Nat → List Char → List (Piece α)
  | _, [] => []
  | skip + 1, _ :: rest => piecesAfter pattern skip rest
  | 0, char :: rest =>
      match pattern (char :: rest) with
      | some reading => .hit reading :: piecesAfter pattern (reading.text.length - 1) rest
      | none => .plain char :: piecesAfter pattern 0 rest

def pieces (pattern : Pattern α) (text : List Char) : List (Piece α) :=
  piecesAfter pattern 0 text

def locate (offset : Nat) : List (Piece α) → List (Found α)
  | [] => []
  | .plain char :: rest => locate (offset + char.utf8Size) rest
  | .hit reading :: rest =>
      let stop := offset + Text.byteLength reading.text
      { value := reading.value, span := ⟨offset, stop⟩ } :: locate stop rest

def findAll (pattern : Pattern α) (text : List Char) : List (Found α) :=
  locate 0 (pattern.pieces text)

def spans (pattern : Pattern α) (text : List Char) : List Span :=
  (pattern.findAll text).map (·.span)

def erase (pattern : Pattern α) (text : List Char) : List Char :=
  (pattern.pieces text).filterMap fun
    | .plain char => some char
    | .hit _ => none

def values (pattern : Pattern α) (text : List Char) : List α :=
  (pattern.pieces text).filterMap fun
    | .plain _ => none
    | .hit reading => some reading.value

end Pattern

end PageCheck
