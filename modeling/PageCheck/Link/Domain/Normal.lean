import PageCheck.Link.Domain.DecompositionTable

/-! Composed normal form: every character is taken apart as far as it goes, the
combining characters behind a base are put in the order of their classes, and
what can be put together again is.  Hangul syllables follow a rule of their own. -/

set_option autoImplicit false

namespace PageCheck

namespace Normal

/-! ### Hangul -/

def leadBase : Nat := 0x1100
def vowelBase : Nat := 0x1161
def tailBase : Nat := 0x11A7
def syllableBase : Nat := 0xAC00
def vowelCount : Nat := 21
def tailCount : Nat := 28
def leadCount : Nat := 19
def syllableCount : Nat := leadCount * vowelCount * tailCount

def isSyllable (code : Nat) : Bool :=
  decide (syllableBase ≤ code) && decide (code < syllableBase + syllableCount)

def syllableParts (code : Nat) : List Nat :=
  let index := code - syllableBase
  let lead := leadBase + index / (vowelCount * tailCount)
  let vowel := vowelBase + index % (vowelCount * tailCount) / tailCount
  let tail := index % tailCount
  if tail = 0 then [lead, vowel] else [lead, vowel, tailBase + tail]

def composeSyllable? (first second : Nat) : Option Nat :=
  if leadBase ≤ first ∧ first < leadBase + leadCount ∧
      vowelBase ≤ second ∧ second < vowelBase + vowelCount then
    some (syllableBase +
      ((first - leadBase) * vowelCount + (second - vowelBase)) * tailCount)
  else if isSyllable first ∧ (first - syllableBase) % tailCount = 0 ∧
      tailBase < second ∧ second < tailBase + tailCount then
    some (first + (second - tailBase))
  else
    none

/-! ### Taking apart -/

def decomposeOnce (char : Char) : List Char :=
  if isSyllable char.toNat then
    (syllableParts char.toNat).map Char.ofNat
  else
    match CharTable.value? decompositions char with
    | none => [char]
    | some decomposition => decomposition.parts.map Char.ofNat

/-- No decomposition goes further than four steps. -/
def decompose (text : List Char) : List Char :=
  let step (text : List Char) := text.flatMap decomposeOnce
  step (step (step (step text)))

def insertByClass (char : Char) : List Char → List Char
  | [] => [char]
  | next :: rest =>
      if combiningClass next ≠ 0 ∧ combiningClass next < combiningClass char then
        next :: insertByClass char rest
      else
        char :: next :: rest

def reorder (text : List Char) : List Char :=
  text.foldr insertByClass []

/-! ### Putting together -/

def composeTable? (first second : Nat) : Option Nat :=
  (decompositions.find? fun row =>
    row.value.composes && row.value.parts == [first, second]).map (·.first)

def composite? (first second : Char) : Option Char :=
  match composeSyllable? first.toNat second.toNat with
  | some code => some (Char.ofNat code)
  | none => (composeTable? first.toNat second.toNat).map Char.ofNat

/-- The text behind a base, which the characters in `between`, the last of them
first, follow without having been put together with it. -/
def composeAfter (base : Char) (between : List Char) : List Char → List Char
  | [] => base :: between.reverse
  | char :: rest =>
      let free := match between with
        | [] => true
        | last :: _ => decide (combiningClass last < combiningClass char)
      match if free then composite? base char else none with
      | some whole => composeAfter whole between rest
      | none =>
          if combiningClass char = 0 then
            base :: between.reverse ++ composeAfter char [] rest
          else
            composeAfter base (char :: between) rest

def compose : List Char → List Char
  | [] => []
  | char :: rest =>
      if combiningClass char = 0 then composeAfter char [] rest else char :: compose rest

def normalize (text : List Char) : List Char :=
  compose (reorder (decompose text))

end Normal

end PageCheck
