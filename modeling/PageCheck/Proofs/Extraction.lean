import PageCheck.Outline.Extract
import PageCheck.Proofs.Rescanning

/-! What extraction returns.  Since the inside of an element can always be cut out,
extraction always comes to an answer, and the answer can be written down without
the partial steps: leaves for the closed elements of a fragment, a container for
the first element of a name. -/

set_option autoImplicit false

namespace PageCheck

theorem Element.mem_pair_of_first? {tags : List Tag} {name : String} {element : Element}
    (first : first? tags name = some element) : element ∈ pair tags name :=
  List.mem_of_mem_head? (Option.mem_def.mpr first)

namespace Outline

/-! ### Leaves -/

theorem mem_closedElements {fragment : List Char} {names : List String} {element : Element} :
    element ∈ closedElements fragment names ↔
      ∃ name ∈ names, element ∈ Element.pair (Tag.scan fragment) name ∧
        element.isClosed = true := by
  unfold closedElements
  rw [Element.mem_sortByStart, List.mem_filter, List.mem_flatMap]
  constructor
  · rintro ⟨⟨name, listed, member⟩, closed⟩
    exact ⟨name, listed, member, closed⟩
  · rintro ⟨name, listed, member, closed⟩
    exact ⟨⟨name, listed, member⟩, closed⟩

def leafNode (fragment : List Char) (element : Element) : Node :=
  .leaf element.opening.name (String.ofList (Text.trim (element.inside fragment)))
    element.opening.attributeMap

def leafNodes (names : List String) (fragment : List Char) : List Node :=
  (closedElements fragment names).map (leafNode fragment)

private theorem mapM_eq_some_map {α β : Type} {step? : α → Option β} {step : α → β}
    {items : List α} (each : ∀ item ∈ items, step? item = some (step item)) :
    items.mapM step? = some (items.map step) := by
  induction items with
  | nil => rfl
  | cons item rest ih =>
      rw [List.mapM_cons, each item List.mem_cons_self,
        ih fun other member => each other (List.mem_cons_of_mem _ member)]
      rfl

theorem leaves_eq (names : List String) (fragment : List Char) :
    leaves names fragment = some (leafNodes names fragment) := by
  unfold leaves leafNodes
  apply mapM_eq_some_map
  intro element member
  obtain ⟨name, -, paired, -⟩ := mem_closedElements.mp member
  unfold leafOf
  rw [Element.inner?_eq_inside paired]
  rfl

/-! ### Containers -/

def containerNode (name : String) (children : List Char → List Node) (fragment : List Char)
    (element : Element) : Node :=
  .container name element.opening.attributeMap (children (element.inside fragment))

theorem container?_eq {inside : List Char → Option (List Node)} {children : List Char → List Node}
    (total : ∀ fragment, inside fragment = some (children fragment)) (name : String)
    (fragment : List Char) :
    container? name inside fragment =
      some ((Element.first? (Tag.scan fragment) name).map
        (containerNode name children fragment)) := by
  unfold container?
  cases first : Element.first? (Tag.scan fragment) name with
  | none => rfl
  | some element =>
      simp only
      rw [Element.inner?_eq_inside (Element.mem_pair_of_first? first), Option.bind_eq_bind,
        Option.bind_some, total]
      rfl

def containerNodes (name : String) (children : List Char → List Node) (fragment : List Char) :
    List Node :=
  ((Element.first? (Tag.scan fragment) name).map (containerNode name children fragment)).toList

theorem containerNodes_of_single {name : String} {fragment : List Char} {element : Element}
    (single : Element.pair (Tag.scan fragment) name = [element])
    (children : List Char → List Node) :
    containerNodes name children fragment = [containerNode name children fragment element] := by
  unfold containerNodes Element.first?
  rw [single]
  rfl

/-! ### Pages -/

def titleNodes (fragment : List Char) : List Node :=
  (leafNodes ["title"] fragment).take 1

def bodyNodes (fragment : List Char) : List Node :=
  leafNodes ["p"] fragment ++ leafNodes Vocabulary.headings fragment

def pageNodes (fragment : List Char) : List Node :=
  containerNodes "head" titleNodes fragment ++ containerNodes "body" bodyNodes fragment

theorem titleNodes_of_single {fragment : List Char} {title : Element}
    (single : Element.pair (Tag.scan fragment) "title" = [title])
    (closed : title.isClosed = true) : titleNodes fragment = [leafNode fragment title] := by
  unfold titleNodes leafNodes closedElements
  simp only [List.flatMap_cons, List.flatMap_nil, List.append_nil, single]
  rw [List.filter_cons_of_pos closed, List.filter_nil]
  rfl

theorem title_eq (fragment : List Char) : title fragment = some (titleNodes fragment) := by
  unfold title
  rw [leaves_eq]
  rfl

theorem bodyChildren_eq (fragment : List Char) :
    bodyChildren fragment = some (bodyNodes fragment) := by
  unfold bodyChildren paragraph heading
  rw [leaves_eq, leaves_eq]
  rfl

theorem head_eq (fragment : List Char) :
    head fragment = some (containerNodes "head" titleNodes fragment) := by
  unfold head
  rw [container?_eq title_eq]
  rfl

theorem body_eq (fragment : List Char) :
    body fragment = some (containerNodes "body" bodyNodes fragment) := by
  unfold body
  rw [container?_eq bodyChildren_eq]
  rfl

theorem pageChildren_eq (fragment : List Char) :
    pageChildren fragment = some (pageNodes fragment) := by
  unfold pageChildren
  rw [head_eq, body_eq]
  rfl

/-- Extraction never fails. -/
theorem page_eq (fragment : List Char) :
    page fragment =
      some (match Element.first? (Tag.scan fragment) "html" with
        | some root => [containerNode "html" pageNodes fragment root]
        | none => pageNodes fragment) := by
  unfold page
  rw [container?_eq pageChildren_eq]
  cases Element.first? (Tag.scan fragment) "html" with
  | none => exact pageChildren_eq fragment
  | some root => rfl

end Outline

/-! ### The leaves of a forest -/

namespace Node

theorem leavesIn_append (first second : List Node) :
    leavesIn (first ++ second) = leavesIn first ++ leavesIn second := by
  induction first with
  | nil => rfl
  | cons node rest ih => rw [List.cons_append, leavesIn, leavesIn, ih, List.append_assoc]

/-- The leaves of a container are those of its children; without children it counts
as a leaf itself. -/
theorem mem_leaves_container {name : String} {attributes : List (String × String)}
    {children : List Node} {node : Node}
    (member : node ∈ leaves (container name attributes children)) :
    node.tagName = name ∨ node ∈ leavesIn children := by
  cases children with
  | nil =>
      rw [container, leaves, List.mem_singleton] at member
      rw [member]
      exact Or.inl rfl
  | cons child rest => exact Or.inr member

theorem leavesIn_leaves {forest : List Node} (bare : ∀ node ∈ forest, node.children = []) :
    leavesIn forest = forest := by
  induction forest with
  | nil => rfl
  | cons node rest ih =>
      obtain ⟨name, content, attributes, children⟩ := node
      obtain rfl : children = [] := bare _ List.mem_cons_self
      rw [leavesIn, leaves, ih fun other member => bare other (List.mem_cons_of_mem _ member)]
      rfl

end Node

namespace Outline

theorem mem_leavesIn_containerNodes {name : String} {children : List Char → List Node}
    {fragment : List Char} {node : Node}
    (member : node ∈ Node.leavesIn (containerNodes name children fragment)) :
    ∃ element, Element.first? (Tag.scan fragment) name = some element ∧
      (node.tagName = name ∨ node ∈ Node.leavesIn (children (element.inside fragment))) := by
  unfold containerNodes at member
  cases first : Element.first? (Tag.scan fragment) name with
  | none =>
      rw [first] at member
      cases member
  | some element =>
      rw [first, Option.map_some, Option.toList_some, Node.leavesIn, Node.leavesIn,
        List.append_nil] at member
      exact ⟨element, rfl, Node.mem_leaves_container member⟩

theorem leavesIn_titleNodes (fragment : List Char) :
    Node.leavesIn (titleNodes fragment) = titleNodes fragment := by
  apply Node.leavesIn_leaves
  intro node member
  obtain ⟨element, -, rfl⟩ := List.mem_map.mp (List.mem_of_mem_take member)
  rfl

theorem leavesIn_leafNodes (names : List String) (fragment : List Char) :
    Node.leavesIn (leafNodes names fragment) = leafNodes names fragment := by
  apply Node.leavesIn_leaves
  intro node member
  obtain ⟨element, -, rfl⟩ := List.mem_map.mp member
  rfl

theorem mem_leafNodes {names : List String} {fragment : List Char} {node : Node} :
    node ∈ leafNodes names fragment ↔
      ∃ name ∈ names, ∃ element ∈ Element.pair (Tag.scan fragment) name,
        element.isClosed = true ∧ node = leafNode fragment element := by
  unfold leafNodes
  rw [List.mem_map]
  constructor
  · rintro ⟨element, member, rfl⟩
    obtain ⟨name, listed, paired, closed⟩ := mem_closedElements.mp member
    exact ⟨name, listed, element, paired, closed, rfl⟩
  · rintro ⟨name, listed, element, paired, closed, rfl⟩
    exact ⟨element, mem_closedElements.mpr ⟨name, listed, paired, closed⟩, rfl⟩

end Outline

end PageCheck
