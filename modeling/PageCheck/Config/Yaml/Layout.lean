import PageCheck.Config.Yaml.Scalar
import PageCheck.Config.Yaml.Token

/-! The layout of a YAML text: how far its blocks are indented, which brackets are
open, and where a key may have begun.  Only at a colon it turns out that something
was a key; its token is put in front of it then. -/

set_option autoImplicit false

namespace PageCheck

namespace Yaml

/-- A step to the right: the indentation around it, and whether a list or a table
ends with it. -/
structure Level where
  below : Int
  isBlock : Bool

/-- Where a key may have begun, by the number of its first token; a required one has
to turn out as a key. -/
structure Candidate where
  number : Nat
  place : Place
  isOpen : Bool
  isRequired : Bool

def Candidate.none : Candidate :=
  ⟨0, .start [], false, false⟩

/-- The tokens read so far, the last of them first, and what the next ones depend on:
the candidates are those of the innermost brackets and of all around them; `adjacent`
is the offset at which a colon needs no gap behind it; for every list in brackets
`pairs` tells whether a pair of key and value is open in it. -/
structure Layout where
  place : Place
  tokens : List Token
  indent : Int
  levels : List Level
  candidate : Candidate
  outer : List Candidate
  keyAllowed : Bool
  adjacent : Nat
  inTable : Bool
  pairs : List Bool

namespace Layout

def start (text : List Char) : Layout :=
  { place := .start text
    tokens := []
    indent := -1
    levels := []
    candidate := .none
    outer := []
    keyAllowed := true
    adjacent := 0
    inTable := false
    pairs := [] }

def inFlow (layout : Layout) : Bool :=
  !layout.outer.isEmpty

def emit (token : Token) (layout : Layout) : Layout :=
  { layout with tokens := token :: layout.tokens }

def insert (number : Nat) (token : Token) (layout : Layout) : Layout :=
  { layout with
    tokens := layout.tokens.insertIdx (layout.tokens.length - number) token }

/-! ### Indentation -/

def leaveFrom (column : Int) : List Level → Layout → Layout
  | [], layout => layout
  | level :: rest, layout =>
      if column < layout.indent then
        let left := { layout with indent := level.below, levels := rest }
        leaveFrom column rest (if level.isBlock then left.emit .blockEnd else left)
      else
        layout

def leave (column : Int) (layout : Layout) : Layout :=
  if layout.inFlow then layout else leaveFrom column layout.levels layout

def dropLooseFrom : List Level → Layout → Layout
  | [], layout => layout
  | level :: rest, layout =>
      if level.isBlock then layout
      else dropLooseFrom rest { layout with indent := level.below, levels := rest }

/-- Without the steps to the right that belong to no list or table. -/
def dropLoose (layout : Layout) : Layout :=
  dropLooseFrom layout.levels layout

def enter (column : Int) (number : Option Nat) (token : Token) (layout : Layout) : Layout :=
  if layout.inFlow then
    layout
  else
    let layout := match layout.levels with
      | level :: rest =>
          if layout.indent ≤ column ∧ !level.isBlock then
            { layout with indent := level.below, levels := rest }
          else layout
      | [] => layout
    if layout.indent < column then
      let entered :=
        { layout with indent := column, levels := ⟨layout.indent, true⟩ :: layout.levels }
      match number with
      | some number => entered.insert number token
      | none => entered.emit token
    else
      layout

/-- What stands in an item or a member is indented by one column more. -/
def widen (layout : Layout) : Layout :=
  if !layout.inFlow && layout.levels.head?.any (·.isBlock) then
    { layout with
      indent := layout.indent + 1
      levels := ⟨layout.indent, false⟩ :: layout.levels }
  else
    layout

/-! ### Keys -/

/-- A key may begin here, and has to if it begins a line of a table. -/
def offerKey (layout : Layout) : Layout :=
  if layout.keyAllowed then
    { layout with
      candidate :=
        { number := layout.tokens.length
          place := layout.place
          isOpen := true
          isRequired := !layout.inFlow && decide (layout.indent = layout.place.column) &&
            layout.levels.head?.any (·.isBlock) } }
  else
    layout

def closeKey? (layout : Layout) : Option Layout :=
  if layout.candidate.isOpen && layout.candidate.isRequired then none
  else some { layout with candidate := { layout.candidate with isOpen := false } }

/-- A key outside brackets is on one line and not too long. -/
def retireKey? (layout : Layout) : Option Layout :=
  let key := layout.candidate.place
  if !layout.inFlow && (decide (key.line < layout.place.line) ||
      decide (key.offset + 1024 < layout.place.offset)) then
    layout.closeKey?
  else
    some layout

/-! ### Gaps between tokens -/

/-- Behind blanks, line breaks and comments.  A tab may not indent a block. -/
def pastGap : Nat → Layout → Option Layout
  | 0, _ => none
  | fuel + 1, layout =>
      let place := layout.place
      match place.text with
      | [] => some layout
      | char :: _ =>
          if char = '\n' then
            pastGap fuel
              { layout with place := place.next, keyAllowed := layout.keyAllowed || !layout.inFlow }
          else if char = '#' then
            pastGap fuel { layout with place := place.pastLine }
          else if char = '\t' ∧ !layout.levels.isEmpty ∧ place.fresh ∧
              place.isLeftOf layout.indent then do
            let lineEnd ← place.lineEnd?
            pastGap fuel { layout with place := lineEnd }
          else if isBlank char then
            pastGap fuel { layout with place := place.next }
          else
            some layout

def gap? (layout : Layout) : Option Layout :=
  pastGap (layout.place.text.length + 1) layout

/-! ### Brackets -/

def deepest : Nat := 255

def openBracket? (isTable : Bool) (layout : Layout) : Option Layout := do
  if deepest ≤ layout.outer.length then
    none
  let layout := layout.offerKey.widen
  let spacing ← layout.place.next.spacing? true
  let opened :=
    { layout with
      place := spacing.place
      candidate := .none
      outer := layout.candidate :: layout.outer
      keyAllowed := true
      inTable := isTable || layout.inTable
      pairs := if isTable then layout.pairs else false :: layout.pairs }
  return opened.emit (if isTable then .tableStart else .listStart)

/-- Ends the pair of key and value in a list, if one is open. -/
def closePair (layout : Layout) : Layout :=
  match layout.pairs with
  | true :: rest =>
      { layout with inTable := false, pairs := false :: rest }.emit .tableEnd
  | _ => layout

def closeBracket? (isTable : Bool) (layout : Layout) : Option Layout := do
  let layout ← layout.closeKey?
  let layout := match layout.outer with
    | [] => layout
    | candidate :: outer => { layout with candidate := candidate, outer := outer }
  let layout :=
    if isTable then layout
    else
      let closed := layout.closePair
      { closed with pairs := closed.pairs.tail }
  let spacing ← layout.place.next.spacing? true
  let closed :=
    { layout with
      place := spacing.place
      keyAllowed := false
      adjacent := if layout.inFlow then spacing.place.offset else layout.adjacent }
  return closed.emit (if isTable then .tableEnd else .listEnd)

def comma? (layout : Layout) : Option Layout := do
  let layout := (← layout.closeKey?).closePair
  let spacing ← layout.place.next.spacing? true
  return { layout with place := spacing.place, keyAllowed := true }.emit .comma

/-! ### Items and members -/

def item? (layout : Layout) : Option Layout := do
  if layout.inFlow || !layout.keyAllowed then
    none
  let layout := layout.enter layout.place.column none .blockList
  let spacing ← layout.place.next.spacing? true
  if spacing.hasTabs && atMark '-' spacing.place.text then
    none
  let spacing ← spacing.place.spacing? false
  let isWide := spacing.place.text.head?.any fun char => char == '\n' || isFlowMark char
  let layout ← (if isWide then layout.widen else layout).closeKey?
  return { layout with place := spacing.place, keyAllowed := true }.emit .item

def pastLines : Nat → Place → Place
  | 0, place => place
  | fuel + 1, place =>
      match place.text with
      | ' ' :: _ => pastLines fuel place.next
      | '\n' :: _ => pastLines fuel place.next
      | '#' :: _ => pastLines fuel place.pastLine
      | _ => place

/-- A question mark, which a key follows that may be on lines of its own. -/
def key? (layout : Layout) : Option Layout := do
  if !layout.inFlow && !layout.keyAllowed then
    none
  let layout :=
    if layout.inFlow then { layout with inTable := true }
    else layout.enter layout.place.column none .blockTable
  let layout ← layout.closeKey?
  let place := layout.place.next
  if !(place.text.head?.any fun char => char == ' ' || char == '\n') then
    none
  let behind := pastLines (place.text.length + 1) place
  if behind.text.head? = some '\t' then
    none
  return { layout with place := behind, keyAllowed := !layout.inFlow }.emit .key

/-- Behind a colon; a tab alone does not set off everything. -/
def pastColon? (place : Place) : Option Place :=
  if place.next.text.head? = some '\t' then do
    let spacing ← place.next.spacing? true
    if !spacing.hasSpaces && spacing.place.text.head?.any isWordChar then none
    else return spacing.place
  else
    some place.next

/-- A colon.  The candidate was a key, or the key has been told by a question mark or
is left out.  In a list in brackets the pair is a table of its own. -/
def value? (layout : Layout) : Option Layout := do
  let key := layout.candidate
  let column := layout.place.column
  let isPair := !layout.pairs.isEmpty && !layout.inTable
  if isPair && key.isOpen && decide (key.place.line < layout.place.line) then
    none
  if !key.isOpen && !layout.inFlow && !layout.keyAllowed then
    none
  let behind ← pastColon? layout.place
  let layout := { layout with place := behind }
  let layout :=
    if isPair then { layout with pairs := true :: layout.pairs.tail } else layout
  if key.isOpen then
    let layout := layout.insert key.number .key
    let layout := if isPair then layout.insert key.number .tableStart else layout
    let layout := (layout.enter key.place.column (some key.number) .blockTable).widen
    let layout := { layout with candidate := { key with isOpen := false }, keyAllowed := false }
    return layout.emit .value
  else
    let layout := if isPair then layout.emit .tableStart else layout
    let layout := (layout.enter column none .blockTable).widen
    return { layout with keyAllowed := !layout.inFlow }.emit .value

/-! ### Properties and scalars -/

def property? (token? : Place → Option (Token × Place)) (layout : Layout) : Option Layout := do
  let (token, behind) ← token? layout.place
  return { layout.offerKey with place := behind, keyAllowed := false }.emit token

def plainScalar? (layout : Layout) : Option Layout := do
  let layout := layout.offerKey.dropLoose
  let (text, behind) ← plain? layout.inFlow layout.indent layout.place
  return { layout with place := behind, keyAllowed := behind.fresh }.emit
    (.scalar true (String.ofList text))

def mayFollowQuote (inFlow : Bool) (line : Nat) (place : Place) : Bool :=
  match place.text with
  | [] => true
  | '\n' :: _ => true
  | ':' :: _ => inFlow || line == place.line
  | char :: _ => inFlow && (char == ',' || char == ']' || char == '\x7d')

def quotedScalar? (quote : Char) (layout : Layout) : Option Layout := do
  let (text, behind) ← quoted? quote layout.indent layout.place
  let spacing ← behind.spacing? true
  if !mayFollowQuote layout.inFlow layout.place.line spacing.place then
    none
  let layout ← { layout.offerKey with place := spacing.place, keyAllowed := false }.gap?
  return { layout with adjacent := layout.place.offset }.emit (.scalar false (String.ofList text))

def blockScalar? (folded : Bool) (layout : Layout) : Option Layout := do
  let layout := layout.offerKey.dropLoose
  let (text, behind) ← block? folded layout.indent layout.place
  return { layout with place := behind, keyAllowed := true }.emit
    (.scalar false (String.ofList text))

/-! ### Documents -/

def endDocument? (layout : Layout) : Option Layout := do
  let layout ← (layout.leave (-1)).closeKey?
  return { layout with keyAllowed := false }

def directiveLine? (layout : Layout) : Option Layout := do
  let layout ← layout.endDocument?
  let (token, behind) ← directive? layout.place
  return { layout with place := behind }.emit token

def documentStart? (layout : Layout) : Option Layout := do
  let layout ← layout.endDocument?
  return { layout with place := layout.place.along 3 }.emit .documentStart

def documentEnd? (layout : Layout) : Option Layout := do
  let layout ← layout.endDocument?
  let behind ← (layout.place.along 3).lineEnd?
  return { layout with place := behind }.emit .documentEnd

/-! ### All tokens -/

def tokenAt? (char : Char) (rest : List Char) (layout : Layout) : Option Layout :=
  let named (token : String → Token) (place : Place) : Option (Token × Place) :=
    (name? place).map fun (name, behind) => (token name, behind)
  match char with
  | '[' => layout.openBracket? false
  | '\x7b' => layout.openBracket? true
  | ']' => layout.closeBracket? false
  | '\x7d' => layout.closeBracket? true
  | ',' => layout.comma?
  | '*' => layout.property? (named .alias)
  | '&' => layout.property? (named .anchor)
  | '!' => layout.property? (tag? layout.inFlow)
  | '\x22' => layout.quotedScalar? char
  | '\x27' => layout.quotedScalar? char
  | '%' => none
  | '@' => none
  | '\x60' => none
  | _ =>
      let gap := atGap rest
      let flow := layout.inFlow
      let adjacent := flow && (rest.head?.any isFlowMark || layout.place.offset == layout.adjacent)
      if char = '-' ∧ gap then layout.item?
      else if char = '?' ∧ gap then layout.key?
      else if char = ':' ∧ (gap ∨ adjacent) then layout.value?
      else if char = '|' ∧ !flow then layout.blockScalar? false
      else if char = '>' ∧ !flow then layout.blockScalar? true
      else layout.plainScalar?

def token? (layout : Layout) : Option Layout :=
  let place := layout.place
  match place.text with
  | [] => none
  | char :: rest =>
      if place.column = 0 ∧ char = '%' then layout.directiveLine?
      else if place.isAtRule '-' then layout.documentStart?
      else if place.isAtRule '.' then layout.documentEnd?
      else if place.isLeftOf layout.indent then none
      else layout.tokenAt? char rest

def finish? (layout : Layout) : Option (List Token) :=
  if (layout.candidate :: layout.outer).any fun key => key.isOpen && key.isRequired then none
  else some (layout.leave (-1)).tokens.reverse

def tokensFrom? : Nat → Layout → Option (List Token)
  | 0, _ => none
  | fuel + 1, layout => do
      let layout ← layout.gap?
      let layout ← layout.retireKey?
      let layout := layout.leave layout.place.column
      if layout.place.text.isEmpty then layout.finish?
      else tokensFrom? fuel (← layout.token?)

end Layout

def tokens? (source : List Char) : Option (List Token) :=
  let text := normalLines (source.takeWhile fun char => char.toNat != 0)
  (Layout.start text).tokensFrom? (text.length + 1)

end Yaml

end PageCheck
