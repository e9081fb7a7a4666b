import PageCheck.Config.Yaml.Layout
import PageCheck.Config.Yaml.Node

/-! Settings written as YAML: one document with a table, in blocks or in brackets. -/

set_option autoImplicit false

namespace PageCheck

namespace Yaml

/-! ### Reading tokens -/

/-- The tokens that are left, what the handles of tags stand for, the names given to
nodes, the last one first, and the nodes that are complete, by the number of their
names. -/
structure Remaining where
  tokens : List Token
  tagRules : List (String × String)
  names : List (String × Nat)
  named : List (Nat × Node)

namespace Remaining

def ofTokens (tokens : List Token) : Remaining :=
  ⟨tokens, [], [], []⟩

def next (remaining : Remaining) : Remaining :=
  { remaining with tokens := remaining.tokens.tail }

def announce (name : String) (remaining : Remaining) : Remaining :=
  { remaining with names := (name, remaining.names.length) :: remaining.names }

/-- The node of a name; one that is still being read does not stand for anything. -/
def nodeOf? (name : String) (remaining : Remaining) : Option Node :=
  (remaining.names.lookup name).map fun number => (remaining.named.lookup number).getD .broken

end Remaining

/-- What stands in front of a node: the number of its name, and its tag, with what
the handle stands for. -/
structure Properties where
  name : Option Nat
  tag : Option (String × String)

namespace Properties

def isEmpty (properties : Properties) : Bool :=
  properties.name.isNone && properties.tag.isNone

def give (properties : Properties) (node : Node) (remaining : Remaining) : Node × Remaining :=
  match properties.name with
  | none => (node, remaining)
  | some number => (node, { remaining with named := (number, node) :: remaining.named })

end Properties

/-- What the handle of a tag stands for, with the rest of the tag. -/
def expandTag? (rules : List (String × String)) (handle suffix : String) :
    Option (String × String) :=
  match rules.lookup handle with
  | some expansion => some (expansion, suffix)
  | none =>
      if handle = "!!" then some (Node.knownTags, suffix)
      else if isClosed handle.toList then none
      else some (handle, suffix)

def nameHere? (properties : Properties) (remaining : Remaining) :
    Option (Properties × Remaining) :=
  match remaining.tokens with
  | .anchor name :: _ =>
      some ({ properties with name := some remaining.names.length }, (remaining.announce name).next)
  | _ => some (properties, remaining)

def tagHere? (properties : Properties) (remaining : Remaining) :
    Option (Properties × Remaining) :=
  match remaining.tokens with
  | .tag handle suffix :: _ => do
      let tag ← expandTag? remaining.tagRules handle suffix
      return ({ properties with tag := some tag }, remaining.next)
  | _ => some (properties, remaining)

def properties? (remaining : Remaining) : Option (Properties × Remaining) := do
  let (properties, behind) ← nameHere? ⟨none, none⟩ remaining
  let (properties, behind) ← tagHere? properties behind
  if properties.name.isNone then nameHere? properties behind else return (properties, behind)

/-! ### Members of tables -/

/-- The members of a table, and a key that is waiting for its value.  What is broken
cannot be a key: the next node is one then. -/
structure Members where
  before : List (Node × Node)
  key : Option Node

namespace Members

def empty : Members :=
  ⟨[], none⟩

/-- Adds a key or a value, unless the key is there already. -/
def add? (members : Members) (node : Node) : Option Members :=
  match members.key with
  | none =>
      match node with
      | .broken => some members
      | key => some { members with key := some key }
  | some key =>
      if members.before.any fun (other, _) => other.same key then none
      else some ⟨members.before ++ [(key, node)], none⟩

def node (members : Members) : Node :=
  .table members.before

end Members

/-! ### Nodes -/

mutual

/-- A node.  In blocks it may be a block, and behind a key also a list that is not
indented further than the key. -/
def node? (inBlock dashes : Bool) : Nat → Remaining → Option (Node × Remaining)
  | 0, _ => none
  | fuel + 1, remaining =>
      match remaining.tokens with
      | .alias name :: _ => (remaining.nodeOf? name).map fun node => (node, remaining.next)
      | _ => do
          let (properties, start) ← properties? remaining
          let empty := properties.give (.ofScalar true properties.tag "") start
          let (node, behind) ← match start.tokens with
            | .scalar plain text :: _ => some (.ofScalar plain properties.tag text, start.next)
            | .listStart :: _ => flowItems true fuel [] start.next
            | .tableStart :: _ => flowMembers true fuel .empty start.next
            | .item :: _ =>
                if dashes then dashItems fuel [] start
                else if properties.isEmpty then none else return empty
            | .blockList :: _ =>
                if inBlock then blockItems fuel [] start.next
                else if properties.isEmpty then none else return empty
            | .blockTable :: _ =>
                if inBlock then blockMembers fuel .empty start.next
                else if properties.isEmpty then none else return empty
            | _ => if properties.isEmpty then none else return empty
          return properties.give node behind
termination_by structural fuel => fuel

def nodeUnless? (stops : List Token) (inBlock dashes : Bool) :
    Nat → Remaining → Option (Node × Remaining)
  | 0, _ => none
  | fuel + 1, remaining =>
      if remaining.tokens.head?.any stops.contains then some (.null, remaining)
      else node? inBlock dashes fuel remaining
termination_by structural fuel => fuel

def blockItems : Nat → List Node → Remaining → Option (Node × Remaining)
  | 0, _, _ => none
  | fuel + 1, before, remaining =>
      match remaining.tokens with
      | .blockEnd :: _ => some (.list before.reverse, remaining.next)
      | .item :: _ => do
          let (item, behind) ← nodeUnless? [.item, .blockEnd] true false fuel remaining.next
          blockItems fuel (item :: before) behind
      | _ => none
termination_by structural fuel => fuel

/-- The items of a list that begins where the key before it begins. -/
def dashItems : Nat → List Node → Remaining → Option (Node × Remaining)
  | 0, _, _ => none
  | fuel + 1, before, remaining =>
      match remaining.tokens with
      | .item :: _ => do
          let (item, behind) ←
            nodeUnless? [.item, .key, .value, .blockEnd] true false fuel remaining.next
          dashItems fuel (item :: before) behind
      | _ => some (.list before.reverse, remaining)
termination_by structural fuel => fuel

def blockMembers : Nat → Members → Remaining → Option (Node × Remaining)
  | 0, _, _ => none
  | fuel + 1, before, remaining => do
      let stops : List Token := [.key, .value, .blockEnd]
      let (key, behind) ← match remaining.tokens with
        | .key :: _ => nodeUnless? stops true true fuel remaining.next
        | .value :: _ => some (.null, remaining)
        | .blockEnd :: _ => return (before.node, remaining.next)
        | _ => none
      let (value, behind) ← match behind.tokens with
        | .value :: _ => nodeUnless? stops true true fuel behind.next
        | _ => some (.null, behind)
      let members ← (← before.add? key).add? value
      blockMembers fuel members behind
termination_by structural fuel => fuel

def flowItems (first : Bool) : Nat → List Node → Remaining → Option (Node × Remaining)
  | 0, _, _ => none
  | fuel + 1, before, remaining => do
      let start ← match remaining.tokens with
        | .listEnd :: _ => return (.list before.reverse, remaining.next)
        | .comma :: _ => if first then some remaining else some remaining.next
        | _ => if first then some remaining else none
      match start.tokens with
      | .listEnd :: _ => return (.list before.reverse, start.next)
      | .key :: _ => do
          let (pair, behind) ← flowPair fuel start.next
          flowItems false fuel (pair :: before) behind
      | _ => do
          let (item, behind) ← node? false false fuel start
          flowItems false fuel (item :: before) behind
termination_by structural fuel => fuel

def flowPair : Nat → Remaining → Option (Node × Remaining)
  | 0, _ => none
  | fuel + 1, remaining => do
      let stops : List Token := [.comma, .listEnd]
      let (key, behind) ← match remaining.tokens with
        | .value :: _ => some (.null, remaining.next)
        | .comma :: _ => some (.null, remaining.next)
        | .listEnd :: _ => some (.null, remaining.next)
        | _ => node? false false fuel remaining
      let (value, behind) ← match behind.tokens with
        | .value :: _ => nodeUnless? stops false false fuel behind.next
        | _ => some (.null, behind)
      let members ← (← Members.empty.add? key).add? value
      return (members.node, behind)
termination_by structural fuel => fuel

def flowMembers (first : Bool) : Nat → Members → Remaining → Option (Node × Remaining)
  | 0, _, _ => none
  | fuel + 1, before, remaining => do
      let start ← match remaining.tokens with
        | .tableEnd :: _ => return (before.node, remaining.next)
        | .comma :: _ => if first then some remaining else some remaining.next
        | _ => if first then some remaining else none
      let stops : List Token := [.comma, .tableEnd]
      let (key, behind) ← match start.tokens with
        | .tableEnd :: _ => return (before.node, start.next)
        | .key :: _ => nodeUnless? (.value :: stops) false false fuel start.next
        | .value :: _ => some (.null, start)
        | _ => node? false false fuel start
      let isMarked := match start.tokens with
        | .key :: _ => true
        | .value :: _ => true
        | _ => false
      let (value, behind) ← match behind.tokens with
        | .value :: _ =>
            if isMarked then nodeUnless? stops false false fuel behind.next
            else some (.null, behind)
        | _ => some (.null, behind)
      let members ← (← before.add? key).add? value
      flowMembers false fuel members behind
termination_by structural fuel => fuel

end

/-! ### Documents -/

def isOver (tokens : List Token) : Bool :=
  tokens.all (· == .documentEnd)

/-- Behind the directives of a document.  There is one version at most, and only the
last directive tells what a handle stands for. -/
def pastDirectives? : Nat → Bool → Remaining → Option Remaining
  | 0, _, _ => none
  | fuel + 1, hasVersion, remaining =>
      match remaining.tokens with
      | .version :: _ =>
          if hasVersion then none
          else pastDirectives? fuel true { remaining.next with tagRules := [] }
      | .tagRule handle expansion :: _ =>
          pastDirectives? fuel hasVersion
            { remaining.next with tagRules := [(handle, expansion)] }
      | _ => some remaining

/-- The node of a document, behind the mark that begins it.  The mark may be missing
where there are no directives. -/
def root? (fuel : Nat) (start : Remaining) : Option (Node × Remaining) := do
  let behind ← pastDirectives? fuel false start
  match behind.tokens with
  | .documentStart :: _ => node? true false fuel behind.next
  | _ => if behind.tokens.length = start.tokens.length then node? true false fuel behind else none

def read? (source : List Char) : Option Setting := do
  let tokens := (← tokens? source).dropWhile (· == .documentEnd)
  if tokens.isEmpty then
    return .table []
  let (node, behind) ← root? (4 * tokens.length + 8) (.ofTokens tokens)
  if isOver behind.tokens then node.setting? else none

end Yaml

end PageCheck
