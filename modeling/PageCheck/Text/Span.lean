/-! Byte positions in a text.  A text is a list of characters; every offset and
every length counts the bytes of its UTF-8 encoding, and a slice exists only
where both ends fall on character boundaries inside the text. -/

set_option autoImplicit false

namespace PageCheck

/-- A range of bytes, its end exclusive. -/
structure Span where
  start : Nat
  stop : Nat
deriving DecidableEq

namespace Span

def contains (span : Span) (offset : Nat) : Bool :=
  decide (span.start ≤ offset) && decide (offset < span.stop)

def length (span : Span) : Nat :=
  span.stop - span.start

/-- The whole of `inner` lies in `outer`. -/
def encloses (outer inner : Span) : Bool :=
  decide (outer.start ≤ inner.start) && decide (inner.stop ≤ outer.stop)

end Span

namespace Text

def byteLength : List Char → Nat
  | [] => 0
  | char :: rest => char.utf8Size + byteLength rest

theorem byteLength_append (left right : List Char) :
    byteLength (left ++ right) = byteLength left + byteLength right := by
  induction left with
  | nil => simp [byteLength]
  | cons char rest ih => simp [byteLength, ih, Nat.add_assoc]

/-! ### Cutting -/

/-- What is left after the first `count` bytes, unless the cut would split a
character or pass the end. -/
def dropBytes? : List Char → Nat → Option (List Char)
  | text, 0 => some text
  | [], _ + 1 => none
  | char :: rest, count + 1 =>
      if char.utf8Size ≤ count + 1 then
        dropBytes? rest (count + 1 - char.utf8Size)
      else
        none

def takeBytes? : List Char → Nat → Option (List Char)
  | _, 0 => some []
  | [], _ + 1 => none
  | char :: rest, count + 1 =>
      if char.utf8Size ≤ count + 1 then
        (takeBytes? rest (count + 1 - char.utf8Size)).map (char :: ·)
      else
        none

def slice? (text : List Char) (span : Span) : Option (List Char) :=
  if span.start ≤ span.stop then
    (dropBytes? text span.start).bind (takeBytes? · span.length)
  else
    none

theorem dropBytes?_append (before rest : List Char) :
    dropBytes? (before ++ rest) (byteLength before) = some rest := by
  induction before with
  | nil => simp [byteLength, dropBytes?]
  | cons char before ih =>
      obtain ⟨size, sized⟩ : ∃ size, char.utf8Size = size + 1 :=
        ⟨char.utf8Size - 1, by have := char.utf8Size_pos; omega⟩
      have total : byteLength (char :: before) = (size + byteLength before) + 1 := by
        simp only [byteLength, sized]; omega
      rw [total, List.cons_append, dropBytes?, if_pos (by omega)]
      rw [show size + byteLength before + 1 - char.utf8Size = byteLength before by omega]
      exact ih

theorem takeBytes?_append (before rest : List Char) :
    takeBytes? (before ++ rest) (byteLength before) = some before := by
  induction before with
  | nil => simp [byteLength, takeBytes?]
  | cons char before ih =>
      obtain ⟨size, sized⟩ : ∃ size, char.utf8Size = size + 1 :=
        ⟨char.utf8Size - 1, by have := char.utf8Size_pos; omega⟩
      have total : byteLength (char :: before) = (size + byteLength before) + 1 := by
        simp only [byteLength, sized]; omega
      rw [total, List.cons_append, takeBytes?, if_pos (by omega)]
      rw [show size + byteLength before + 1 - char.utf8Size = byteLength before by omega, ih]
      rfl

end Text

end PageCheck
