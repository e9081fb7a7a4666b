/-! The outline of a page: a tree of the elements taken from it.  Inner nodes
have children and no content, leaves have content and no children. -/

set_option autoImplicit false

namespace PageCheck

/-- Attributes have pairwise different names and keep their order. -/
structure Node where
  tagName : String
  content : Option String
  attributes : List (String × String)
  children : List Node
deriving Inhabited

namespace Node

def container (tagName : String) (attributes : List (String × String)) (children : List Node) :
    Node :=
  ⟨tagName, none, attributes, children⟩

def leaf (tagName content : String) (attributes : List (String × String)) : Node :=
  ⟨tagName, some content, attributes, []⟩

def isLeaf (node : Node) : Bool :=
  node.children.isEmpty && node.content.isSome

mutual

/-- The first node of this name, a node before its children. -/
def find? (name : String) : Node → Option Node
  | ⟨tagName, content, attributes, children⟩ =>
      if tagName = name then
        some ⟨tagName, content, attributes, children⟩
      else
        findIn? name children

def findIn? (name : String) : List Node → Option Node
  | [] => none
  | node :: rest =>
      match find? name node with
      | some found => some found
      | none => findIn? name rest

end

mutual

def leaves : Node → List Node
  | ⟨tagName, content, attributes, []⟩ => [⟨tagName, content, attributes, []⟩]
  | ⟨_, _, _, child :: children⟩ => leaves child ++ leavesIn children

def leavesIn : List Node → List Node
  | [] => []
  | node :: rest => leaves node ++ leavesIn rest

end

/-- Sets an attribute: in place if its name is there, else at the end. -/
def setAttribute (attributes : List (String × String)) (name value : String) :
    List (String × String) :=
  if attributes.any (·.1 == name) then
    attributes.map fun entry => if entry.1 = name then (name, value) else entry
  else
    attributes ++ [(name, value)]

/-! ### As text -/

def attributesText : List (String × String) → String
  | [] => ""
  | (name, value) :: rest => s!" {name}=\"{value}\"" ++ attributesText rest

def indent : Nat → String
  | 0 => ""
  | depth + 1 => "  " ++ indent depth

mutual

def display (depth : Nat) : Node → String
  | ⟨tagName, content, attributes, children⟩ =>
      let shown := match content with
        | some text => s!" {text}"
        | none => ""
      s!"{indent depth}<{tagName}{attributesText attributes}>{shown}\n" ++
        displayAll (depth + 1) children

def displayAll (depth : Nat) : List Node → String
  | [] => ""
  | node :: rest => display depth node ++ displayAll depth rest

end

end Node

end PageCheck
