import PageCheck.Config.Yaml.Place

/-! Scalars in YAML as they are written: quoted ones, plain ones, and blocks of
lines. -/

set_option autoImplicit false

namespace PageCheck

namespace Yaml

/-! ### Quoted -/

def simpleEscapes : List (Char × Nat) :=
  [('0', 0x00), ('a', 0x07), ('b', 0x08), ('t', 0x09), ('\t', 0x09), ('n', 0x0A), ('v', 0x0B),
    ('f', 0x0C), ('r', 0x0D), ('e', 0x1B), (' ', 0x20), ('\x22', 0x22), ('/', 0x2F),
    ('\\', 0x5C), ('N', 0x85), ('_', 0xA0), ('L', 0x2028), ('P', 0x2029)]

def escape? (place : Place) : Option (Char × Place) :=
  match place.text with
  | [] => none
  | mark :: rest =>
      let code (count : Nat) : Option (Char × Place) := do
        let (value, _) ← Reader.hex count rest
        let char ← Reader.scalar? value
        return (char, place.along (count + 1))
      match mark with
      | 'x' => code 2
      | 'u' => code 4
      | 'U' => code 8
      | _ => (simpleEscapes.lookup mark).map fun value => (Char.ofNat value, place.next)

/-- Characters of a quoted scalar up to a gap or a quotation mark, or behind a line
break that does not count.  A quotation mark of the single kind is written twice. -/
def quotedRun? (quote : Char) : Nat → Place → Option (List Char × Place)
  | 0, _ => none
  | fuel + 1, place =>
      match place.text with
      | [] => some ([], place)
      | char :: rest =>
          if atGap place.text then
            some ([], place)
          else if char = quote then
            if quote = '\x27' ∧ rest.head? = some quote then do
              let (more, after) ← quotedRun? quote fuel (place.along 2)
              return (quote :: more, after)
            else
              some ([], place)
          else if char = '\\' ∧ quote = '\x22' then
            if rest.head? = some '\n' then
              some ([], place.along 2)
            else do
              let (read, after) ← escape? place.next
              let (more, after) ← quotedRun? quote fuel after
              return (read :: more, after)
          else do
            let (more, after) ← quotedRun? quote fuel place.next
            return (char :: more, after)

/-- The rest of a quoted scalar.  No line of it begins left of the indentation. -/
def quotedBody? (quote : Char) (indent : Int) : Nat → Place → Option (List Char × Place)
  | 0, _ => none
  | fuel + 1, place =>
      if place.isAtDocument || place.text.isEmpty || place.isLeftOf indent then
        none
      else do
        let (run, after) ← quotedRun? quote (place.text.length + 1) place
        if after.text.head? = some quote then
          return (run, after.next)
        let gap ← after.gap? fun tab => if tab.isLeftOf indent then none else some tab.next
        let joint := if after.fresh then List.replicate gap.breaks '\n' else gap.joint
        let (more, behind) ← quotedBody? quote indent fuel gap.place
        return (run ++ joint ++ more, behind)

def quoted? (quote : Char) (indent : Int) (place : Place) : Option (List Char × Place) :=
  quotedBody? quote indent (place.text.length + 1) place.next

/-! ### Plain -/

def isPlain (inFlow : Bool) : List Char → Bool
  | [] => false
  | ':' :: rest => !(atGap rest || (inFlow && rest.head?.any isFlowMark))
  | char :: _ => !(isBlank char || char == '\n' || (inFlow && isFlowMark char))

def plainRun (inFlow : Bool) : List Char → List Char
  | [] => []
  | char :: rest => if isPlain inFlow (char :: rest) then char :: plainRun inFlow rest else []

/-- The rest of a plain scalar behind a gap that stands for `joint`.  Outside
brackets its further lines begin at column `least` or to the right of it. -/
def plainBody? (inFlow : Bool) (least : Int) :
    Nat → List Char → Place → Option (List Char × Place)
  | 0, _, _ => none
  | fuel + 1, joint, place =>
      if place.isAtDocument || place.text.head? == some '#' then
        some ([], place)
      else
        let isDash := match place.text with
          | '-' :: mark :: _ => isFlowMark mark
          | _ => false
        if inFlow && isDash then
          none
        else
          let run := plainRun inFlow place.text
          let read := if run.isEmpty then [] else joint ++ run
          let after := place.along run.length
          if after.text.isEmpty || !atGap after.text then
            some (read, after)
          else do
            let gap ← after.gap? fun tab =>
              if tab.isLeftOf least then tab.lineEnd? else some tab.next
            if !inFlow && gap.place.isLeftOf least then
              return (read, gap.place)
            let (more, behind) ← plainBody? inFlow least fuel gap.joint gap.place
            return (read ++ more, behind)

def plain? (inFlow : Bool) (indent : Int) (place : Place) : Option (List Char × Place) :=
  if inFlow && place.isLeftOf (indent + 1) then
    none
  else
    match plainBody? inFlow (indent + 1) (place.text.length + 1) [] place with
    | some ([], _) => none
    | read => read

/-! ### Blocks of lines -/

/-- What becomes of the line breaks at the end. -/
inductive Chomping where
  | strip
  | clip
  | keep
deriving DecidableEq

def chomping? (place : Place) : Option (Chomping × Place) :=
  match place.text with
  | '-' :: _ => some (.strip, place.next)
  | '+' :: _ => some (.keep, place.next)
  | _ => none

/-- How far a block is indented, which has to be more than nothing. -/
def width? (place : Place) : Option (Option Nat × Place) :=
  match place.text with
  | char :: _ =>
      if char = '0' then none
      else if Text.isAsciiDigit char then some (some (char.toNat - '0'.toNat), place.next)
      else some (none, place)
  | [] => some (none, place)

def blockHeader? (place : Place) : Option (Chomping × Option Nat × Place) :=
  match chomping? place with
  | some (chomping, after) => do
      let (width, after) ← width? after
      return (chomping, width, after)
  | none => do
      let (width, after) ← width? place
      match chomping? after with
      | some (chomping, behind) => return (chomping, width, behind)
      | none => return (.clip, width, after)

/-- Behind the indentation of the next line that is not empty, and the empty ones. -/
def pastIndent (indent : Nat) : Nat → Nat → Place → Place × Nat
  | 0, breaks, place => (place, breaks)
  | fuel + 1, breaks, place =>
      let spaces := (place.text.takeWhile (· == ' ')).length
      let after := place.along (min spaces (indent - place.column))
      match after.text with
      | '\n' :: _ => pastIndent indent fuel (breaks + 1) after.next
      | _ => (after, breaks)

/-- Behind empty lines and the spaces of the line after them, with the most spaces
of any of them. -/
def pastFirstIndent : Nat → Nat → Nat → Place → Place × Nat × Nat
  | 0, widest, breaks, place => (place, widest, breaks)
  | fuel + 1, widest, breaks, place =>
      let after := place.past (· == ' ')
      let widest := max widest after.column
      match after.text with
      | '\n' :: _ => pastFirstIndent fuel widest (breaks + 1) after.next
      | _ => (after, widest, breaks)

/-- The end of a block: whether a line of it has ended, the empty lines behind that,
and the place there. -/
structure BlockEnd where
  ended : Bool
  empties : Nat
  place : Place

/-- The lines of a block from a place on.  Folding joins two lines by a space, save
where one of them begins with a blank. -/
def blockBody (folded : Bool) (indent : Nat) :
    Nat → Bool → BlockEnd → List Char × BlockEnd
  | 0, _, state => ([], state)
  | fuel + 1, afterBlank, state =>
      let text := state.place.text
      if state.place.column ≠ indent ∨ text.isEmpty then
        ([], state)
      else
        let blank := text.head?.any isBlank
        let empties := List.replicate state.empties '\n'
        let joint :=
          if folded && state.ended && !afterBlank && !blank then
            if state.empties = 0 then [' '] else empties
          else if state.ended then '\n' :: empties
          else empties
        let line := text.takeWhile (· != '\n')
        let after := state.place.pastLine
        if after.text.isEmpty then
          (joint ++ line, ⟨false, 0, after⟩)
        else
          let (behind, breaks) := pastIndent indent (after.text.length + 1) 0 after.next
          let (more, last) := blockBody folded indent fuel blank ⟨true, breaks, behind⟩
          (joint ++ line ++ more, last)

def blockTail (chomping : Chomping) (indent : Nat) (last : BlockEnd) : List Char :=
  let first := if last.ended then ['\n'] else []
  let final := if last.place.text.isEmpty ∧ max indent 1 ≤ last.place.column then ['\n'] else []
  match chomping with
  | .strip => []
  | .clip => first ++ final
  | .keep => first ++ final ++ List.replicate last.empties '\n'

def emptyBlock (chomping : Chomping) (hasLines : Bool) (empties : Nat) : List Char :=
  match chomping with
  | .strip => []
  | .clip => if hasLines then ['\n'] else []
  | .keep => if hasLines then List.replicate (max empties 1) '\n' else []

def block? (folded : Bool) (indent : Int) (place : Place) : Option (List Char × Place) := do
  let (chomping, width, header) ← blockHeader? place.next
  let lineEnd ← header.lineEnd?
  let start := lineEnd.next
  if start.text.head? = some '\t' then
    none
  let fuel := start.text.length + 1
  let (first, column, empties) := match width with
    | some width =>
        let column := (max indent 0).toNat + width
        let (first, breaks) := pastIndent column fuel 0 start
        (first, column, breaks)
    | none =>
        let (first, widest, breaks) := pastFirstIndent fuel 0 0 start
        (first, max widest (indent + 1).toNat, breaks)
  if first.text.isEmpty then
    return (emptyBlock chomping (place.line < first.line) empties, first)
  if first.column < column ∧ indent < first.column then
    none
  let (body, last) := blockBody folded column fuel false ⟨false, empties, first⟩
  return (body ++ blockTail chomping column last, last.place)

end Yaml

end PageCheck
