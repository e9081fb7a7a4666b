import PageCheck.Markup.Element
import PageCheck.Markup.Vocabulary
import PageCheck.Outline.Node

/-! Taking nodes from a fragment of a page.  A container is the first element of
its name, closed or not; what is inside it is scanned on its own.  Leaves are
the closed elements of the names wanted.  An element that is not there gives no
node.  As with the rules, there is no answer only if a fragment is cut where it
cannot be cut. -/

set_option autoImplicit false

namespace PageCheck

namespace Outline

def closedElements (fragment : List Char) (names : List String) : List Element :=
  let tags := Tag.scan fragment
  Element.sortByStart ((names.flatMap (Element.pair tags)).filter Element.isClosed)

def leafOf (fragment : List Char) (element : Element) : Option Node := do
  let inner ← element.inner? fragment
  return .leaf element.opening.name (String.ofList (Text.trim inner)) element.opening.attributeMap

def leaves (names : List String) (fragment : List Char) : Option (List Node) :=
  (closedElements fragment names).mapM (leafOf fragment)

def container? (name : String) (inside : List Char → Option (List Node)) (fragment : List Char) :
    Option (Option Node) :=
  match Element.first? (Tag.scan fragment) name with
  | none => some none
  | some element => do
      let inner ← element.inner? fragment
      let children ← inside inner
      return some (.container name element.opening.attributeMap children)

def title (fragment : List Char) : Option (List Node) :=
  (leaves ["title"] fragment).map (·.take 1)

def heading (fragment : List Char) : Option (List Node) :=
  leaves Vocabulary.headings fragment

def paragraph (fragment : List Char) : Option (List Node) :=
  leaves ["p"] fragment

def head (fragment : List Char) : Option (List Node) :=
  (container? "head" title fragment).map (·.toList)

/-- All paragraphs of a fragment and behind them all its headings. -/
def bodyChildren (fragment : List Char) : Option (List Node) := do
  let paragraphs ← paragraph fragment
  let headings ← heading fragment
  return paragraphs ++ headings

def body (fragment : List Char) : Option (List Node) :=
  (container? "body" bodyChildren fragment).map (·.toList)

def pageChildren (fragment : List Char) : Option (List Node) := do
  let heads ← head fragment
  let bodies ← body fragment
  return heads ++ bodies

/-- The root element with its head and body; without a root element, head and
body themselves. -/
def page (fragment : List Char) : Option (List Node) := do
  match ← container? "html" pageChildren fragment with
  | some root => return [root]
  | none => pageChildren fragment

def markdown (fragment : List Char) : Option (List Node) :=
  some [.leaf "markdown" (String.ofList fragment) []]

end Outline

end PageCheck
