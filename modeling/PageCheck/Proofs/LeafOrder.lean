import Mathlib.Data.List.Basic
import Mathlib.Data.List.Nodup
import PageCheck.Proofs.Extraction
import PageCheck.Proofs.Partners
import PageCheck.Proofs.Skeleton

/-! The order of leaves.  Extraction pairs the tags of each name on their own, puts the
elements of all names together, keeps the closed ones and sorts them.  All this amounts to
one pass over the tags of the fragment, which makes an element of each opening tag with one
of the names and of the tag that closes it among those of its own name.  So there is one leaf
for each such tag, in the order of the tags, whatever lies between them. -/

set_option autoImplicit false

namespace PageCheck

namespace Element

/-! ### Elements of several names -/

def partneredAmong (names : List String) : List Tag → List Element
  | [] => []
  | tag :: rest =>
      if tag.name ∈ names ∧ tag.kind = .opening then
        ⟨tag, Tag.partner? tag.name 0 rest⟩ :: partneredAmong names rest
      else
        partneredAmong names rest

variable {names : List String} {tags rest : List Tag} {tag : Tag} {element : Element}

theorem partneredAmong_opening (listed : tag.name ∈ names) (kind : tag.kind = .opening) :
    partneredAmong names (tag :: rest) =
      ⟨tag, Tag.partner? tag.name 0 rest⟩ :: partneredAmong names rest := by
  rw [partneredAmong, if_pos ⟨listed, kind⟩]

theorem partneredAmong_other (other : tag.name ∈ names → tag.kind ≠ .opening) :
    partneredAmong names (tag :: rest) = partneredAmong names rest := by
  rw [partneredAmong, if_neg fun both => other both.1 both.2]

/-- The elements of different names, each name for itself, are those of a pass for all names. -/
theorem flatMap_partnered_perm (distinct : names.Nodup) (tags : List Tag) :
    (names.flatMap fun name => partnered name tags).Perm (partneredAmong names tags) := by
  induction tags with
  | nil =>
      have none : (names.flatMap fun name => partnered name []) = [] :=
        List.flatMap_eq_nil_iff.mpr fun _ _ => rfl
      rw [none, partneredAmong]
  | cons tag rest ih =>
      have unaffected (part : List String)
          (others : ∀ name ∈ part, tag.name = name → tag.kind ≠ .opening) :
          (part.flatMap fun name => partnered name (tag :: rest)) =
            part.flatMap fun name => partnered name rest :=
        List.flatMap_congr fun name member => partnered_other (others name member) rest
      by_cases listed : tag.name ∈ names
      · by_cases kind : tag.kind = .opening
        · -- the element belongs to one name only, and the others go on as if the tag were not there
          obtain ⟨front, back, split⟩ := List.append_of_mem listed
          rw [split] at distinct
          have once := (List.nodup_cons.mp (List.nodup_middle.mp distinct)).1
          have inFront := unaffected front fun name member same =>
            absurd (List.mem_append_left back (same ▸ member)) once
          have inBack := unaffected back fun name member same =>
            absurd (List.mem_append_right front (same ▸ member)) once
          rw [partneredAmong_opening listed kind]
          rw [split, List.flatMap_append, List.flatMap_cons] at ih ⊢
          rw [inFront, inBack, partnered_opening rfl kind, List.cons_append]
          exact List.perm_middle.trans (ih.cons _)
        · rw [partneredAmong_other fun _ => kind, unaffected names fun _ _ _ => kind]
          exact ih
      · rw [partneredAmong_other fun named => absurd named listed,
          unaffected names fun name member same => absurd (same ▸ member) listed]
        exact ih

theorem partneredAmong_openings (names : List String) (tags : List Tag) :
    ((partneredAmong names tags).map (·.opening)).Sublist tags := by
  induction tags with
  | nil => exact .slnil
  | cons tag rest ih =>
      rw [partneredAmong]
      split
      · exact ih.cons_cons tag
      · exact ih.cons tag

theorem partneredAmong_rising (ordered : Tag.Ordered tags) (names : List String) :
    (partneredAmong names tags).Pairwise fun earlier later => earlier.start < later.start :=
  rising_of_openings (ordered.sublist (partneredAmong_openings names tags))

theorem mem_partneredAmong_iff :
    element ∈ partneredAmong names tags ↔
      element.opening.name ∈ names ∧ element.opening.kind = .opening ∧
        ∃ before after, tags = before ++ element.opening :: after ∧
          element.closing = Tag.partner? element.opening.name 0 after := by
  induction tags with
  | nil => simp [partneredAmong]
  | cons tag rest ih =>
      rw [partneredAmong]
      constructor
      · intro member
        have later (found : element ∈ partneredAmong names rest) :
            element.opening.name ∈ names ∧ element.opening.kind = .opening ∧
              ∃ before after, tag :: rest = before ++ element.opening :: after ∧
                element.closing = Tag.partner? element.opening.name 0 after := by
          obtain ⟨listed, kind, before, after, rfl, closed⟩ := ih.mp found
          exact ⟨listed, kind, tag :: before, after, rfl, closed⟩
        split at member
        · rename_i opens
          rcases List.mem_cons.mp member with rfl | found
          · exact ⟨opens.1, opens.2, [], rest, rfl, rfl⟩
          · exact later found
        · exact later member
      · rintro ⟨listed, kind, before, after, split, closed⟩
        cases before with
        | nil =>
            obtain ⟨rfl, rfl⟩ := List.cons.inj split
            rw [if_pos ⟨listed, kind⟩, ← closed]
            exact List.mem_cons_self
        | cons first before =>
            obtain ⟨rfl, rfl⟩ := List.cons.inj split
            have found := ih.mpr ⟨listed, kind, before, after, rfl, closed⟩
            split
            · exact List.mem_cons_of_mem _ found
            · exact found

theorem partnered_head? (name : String) (tags : List Tag) :
    ((∀ tag ∈ tags, tag.name = name → tag.kind ≠ .opening) ∧
        (partnered name tags).head? = none) ∨
      ∃ before opening after, tags = before ++ opening :: after ∧
        opening.name = name ∧ opening.kind = .opening ∧
        (∀ tag ∈ before, tag.name = name → tag.kind ≠ .opening) ∧
        (partnered name tags).head? = some ⟨opening, Tag.partner? name 0 after⟩ := by
  induction tags with
  | nil => exact .inl ⟨List.forall_mem_nil _, rfl⟩
  | cons tag rest ih =>
      by_cases opens : tag.name = name ∧ tag.kind = .opening
      · rw [partnered_opening opens.1 opens.2]
        exact .inr ⟨[], tag, rest, rfl, opens.1, opens.2, List.forall_mem_nil _, rfl⟩
      · have other : tag.name = name → tag.kind ≠ .opening := fun named kind => opens ⟨named, kind⟩
        rw [partnered_other other]
        rcases ih with ⟨none, empty⟩ | ⟨before, opening, after, rfl, named, kind, none, first⟩
        · exact .inl ⟨List.forall_mem_cons.mpr ⟨other, none⟩, empty⟩
        · exact .inr ⟨tag :: before, opening, after, rfl, named, kind,
            List.forall_mem_cons.mpr ⟨other, none⟩, first⟩

/-! ### The inside of an element -/

variable {text : List Char} {name : String}

theorem slice?_of_closing (paired : element ∈ pair (Tag.scan text) name) {closing : Tag}
    (closed : element.closing = some closing) :
    Text.slice? text ⟨element.opening.span.stop, closing.span.start⟩ =
      some (element.inside text) := by
  obtain ⟨-, -, -, behind⟩ := closing_mem_of_mem_pair (Tag.scan_ordered text) paired closed
  rw [← innerSpan_of_closing closed behind (Text.byteLength text)]
  exact inner?_eq_inside paired

theorem slice?_of_unclosed (paired : element ∈ pair (Tag.scan text) name)
    (unclosed : element.closing = none) :
    Text.slice? text ⟨element.opening.span.stop, Text.byteLength text⟩ =
      some (element.inside text) := by
  have inText := Tag.stop_le_byteLength (opening_mem_of_mem_pair paired).1
  rw [← innerSpan_of_unclosed unclosed inText]
  exact inner?_eq_inside paired

end Element

namespace Outline

variable {names : List String} {fragment : List Char} {element : Element}

/-! ### Closed elements -/

/-- Sorting the closed elements of all names gives them in the order of one pass. -/
theorem closedElements_eq (distinct : names.Nodup) (fragment : List Char) :
    closedElements fragment names =
      (Element.partneredAmong names (Tag.scan fragment)).filter Element.isClosed := by
  have ordered := Tag.scan_ordered fragment
  have perm := (Element.flatMap_partnered_perm distinct (Tag.scan fragment)).filter
    Element.isClosed
  have paired : names.flatMap (Element.pair (Tag.scan fragment)) =
      names.flatMap fun name => Element.partnered name (Tag.scan fragment) :=
    List.flatMap_congr fun name _ => Element.pair_eq_partnered ordered name
  unfold closedElements
  simp only [paired]
  apply Element.sortByStart_eq_of_perm perm
  exact (Element.partneredAmong_rising ordered names).sublist List.filter_sublist

/-- The element is made of an opening tag with one of the names and of the closing tag that
brackets match it with, among the tags of its own name. -/
def ClosedIn (tags : List Tag) (names : List String) (element : Element) : Prop :=
  element.opening.name ∈ names ∧ element.opening.kind = .opening ∧
    ∃ before after closing, tags = before ++ element.opening :: after ∧
      element.closing = some closing ∧ Tag.FirstExcess element.opening.name 0 after closing

theorem mem_closedElements_iff (distinct : names.Nodup) :
    element ∈ closedElements fragment names ↔ ClosedIn (Tag.scan fragment) names element := by
  rw [closedElements_eq distinct, List.mem_filter, Element.mem_partneredAmong_iff, ClosedIn,
    Element.isClosed]
  constructor
  · rintro ⟨⟨listed, kind, before, after, split, partner⟩, closed⟩
    obtain ⟨closing, same⟩ := Option.isSome_iff_exists.mp closed
    exact ⟨listed, kind, before, after, closing, split, same,
      Tag.partner?_eq_some_iff.mp (partner.symm.trans same)⟩
  · rintro ⟨listed, kind, before, after, closing, split, closed, first⟩
    refine ⟨⟨listed, kind, before, after, split, ?_⟩, by rw [closed]; rfl⟩
    rw [closed, Tag.partner?_eq_some_iff.mpr first]

theorem closedElements_rising (distinct : names.Nodup) (fragment : List Char) :
    (closedElements fragment names).Pairwise fun earlier later => earlier.start < later.start := by
  rw [closedElements_eq distinct]
  exact (Element.partneredAmong_rising (Tag.scan_ordered fragment) names).sublist
    List.filter_sublist

/-! ### Leaves -/

def LeafOf (fragment : List Char) (element : Element) (node : Node) : Prop :=
  ∃ closing text, element.closing = some closing ∧
    Text.slice? fragment ⟨element.opening.span.stop, closing.span.start⟩ = some text ∧
    node = .leaf element.opening.name (String.ofList (Text.trim text)) element.opening.attributeMap

/-- A leaf for each closed element with one of the names, in the order of the opening tags. -/
structure LeavesOf (names : List String) (fragment : List Char) (elements : List Element)
    (nodes : List Node) : Prop where
  mem_iff : ∀ element, element ∈ elements ↔ ClosedIn (Tag.scan fragment) names element
  rising : elements.Pairwise fun earlier later => earlier.start < later.start
  each : List.Forall₂ (LeafOf fragment) elements nodes

theorem leafNode_leafOf {name : String} (paired : element ∈ Element.pair (Tag.scan fragment) name)
    (closed : element.isClosed = true) : LeafOf fragment element (leafNode fragment element) := by
  obtain ⟨closing, same⟩ := Option.isSome_iff_exists.mp closed
  exact ⟨closing, element.inside fragment, same, Element.slice?_of_closing paired same, rfl⟩

theorem leafNodes_leavesOf (distinct : names.Nodup) (fragment : List Char) :
    LeavesOf names fragment (closedElements fragment names) (leafNodes names fragment) where
  mem_iff := fun _ => mem_closedElements_iff distinct
  rising := closedElements_rising distinct fragment
  each := by
    rw [leafNodes, List.forall₂_map_right_iff, List.forall₂_same]
    intro element member
    obtain ⟨name, -, paired, closed⟩ := mem_closedElements.mp member
    exact leafNode_leafOf paired closed

/-! ### The body -/

/-- The first tag that opens an element of the name, and the text inside the element: up to the
closing tag that belongs to it, or up to the end if there is none. -/
def FirstInside (name : String) (fragment : List Char) (opening : Tag) (text : List Char) : Prop :=
  ∃ before after, Tag.scan fragment = before ++ opening :: after ∧
    opening.name = name ∧ opening.kind = .opening ∧
    (∀ tag ∈ before, tag.name = name → tag.kind ≠ .opening) ∧
    ((∃ closing, Tag.FirstExcess name 0 after closing ∧
        Text.slice? fragment ⟨opening.span.stop, closing.span.start⟩ = some text) ∨
      (Tag.Covered name 0 after ∧
        Text.slice? fragment ⟨opening.span.stop, Text.byteLength fragment⟩ = some text))

/-- There is a container for the first tag that opens an element of the name. -/
theorem containerNodes_first (name : String) (children : List Char → List Node)
    (fragment : List Char) :
    ((∀ tag ∈ Tag.scan fragment, tag.name = name → tag.kind ≠ .opening) ∧
        containerNodes name children fragment = []) ∨
      ∃ opening text, FirstInside name fragment opening text ∧
        containerNodes name children fragment =
          [.container name opening.attributeMap (children text)] := by
  have ordered := Tag.scan_ordered fragment
  have partneredEq := Element.pair_eq_partnered ordered name
  unfold containerNodes Element.first?
  rw [partneredEq]
  rcases Element.partnered_head? name (Tag.scan fragment) with
    ⟨none, empty⟩ | ⟨before, opening, after, split, named, kind, none, first⟩
  · rw [empty]
    exact .inl ⟨none, rfl⟩
  · right
    have paired : ⟨opening, Tag.partner? name 0 after⟩ ∈ Element.pair (Tag.scan fragment) name := by
      rw [partneredEq]
      exact List.mem_of_mem_head? (Option.mem_def.mpr first)
    rw [first]
    refine ⟨opening, _, ⟨before, after, split, named, kind, none, ?_⟩, rfl⟩
    rcases Option.eq_none_or_eq_some (Tag.partner? name 0 after) with partner | ⟨closing, partner⟩
    · exact .inr ⟨Tag.partner?_eq_none_iff.mp partner, Element.slice?_of_unclosed paired partner⟩
    · exact .inl ⟨closing, Tag.partner?_eq_some_iff.mp partner,
        Element.slice?_of_closing paired partner⟩

theorem containerNodes_eq_nil {name : String} {children : List Char → List Node}
    (none : ∀ tag ∈ Tag.scan fragment, tag.name = name → tag.kind ≠ .opening) :
    containerNodes name children fragment = [] := by
  rcases containerNodes_first name children fragment with ⟨-, empty⟩ | ⟨opening, text, inside, -⟩
  · exact empty
  · obtain ⟨before, after, split, named, kind, -⟩ := inside
    have present : opening ∈ Tag.scan fragment := split ▸ List.mem_append_right _ List.mem_cons_self
    exact absurd kind (none opening present named)

theorem headings_nodup : Vocabulary.headings.Nodup := by decide

/-! ### Order -/

/-- There is a leaf for each closed element with one of the names, and no other, in the order of
the opening tags.  The node for a body has as its children the leaves of the paragraphs inside
and behind them those of the headings. -/
theorem leaves_keep_order (distinct : names.Nodup) (fragment : List Char) :
    (∃ elements nodes, leaves names fragment = some nodes ∧
      LeavesOf names fragment elements nodes) ∧
    ((∀ tag ∈ Tag.scan fragment, tag.name = "body" → tag.kind ≠ .opening) →
      body fragment = some []) ∧
    ((∃ tag ∈ Tag.scan fragment, tag.name = "body" ∧ tag.kind = .opening) →
      ∃ opening text, FirstInside "body" fragment opening text ∧
        ∃ paragraphs headings paragraphNodes headingNodes,
          LeavesOf ["p"] text paragraphs paragraphNodes ∧
          LeavesOf Vocabulary.headings text headings headingNodes ∧
          body fragment = some
            [.container "body" opening.attributeMap (paragraphNodes ++ headingNodes)]) := by
  rw [body_eq]
  refine ⟨⟨_, _, leaves_eq names fragment, leafNodes_leavesOf distinct fragment⟩, ?_, ?_⟩
  · exact fun none => congrArg some (containerNodes_eq_nil none)
  · rintro ⟨tag, present, named, kind⟩
    rcases containerNodes_first "body" bodyNodes fragment with
      ⟨none, -⟩ | ⟨opening, text, inside, single⟩
    · exact absurd kind (none tag present named)
    · refine ⟨opening, text, inside, closedElements text ["p"],
        closedElements text Vocabulary.headings, _, _, ?_, ?_, congrArg some single⟩
      · exact leafNodes_leavesOf (List.nodup_singleton "p") text
      · exact leafNodes_leavesOf headings_nodup text

def overlapping : List Char :=
  "<p>a<h1>b</p>c</h1><p>d<body id=x><h2>e</h2><p> f </p>".toList

theorem leaves_keep_order_of_overlapping :
    ["h2", "p", "h1"].Nodup ∧
    (∃ elements nodes, leaves ["h2", "p", "h1"] overlapping = some nodes ∧
      LeavesOf ["h2", "p", "h1"] overlapping elements nodes ∧
      nodes.map (fun node => (node.tagName, node.content)) =
        [("p", some "a<h1>b"), ("h1", some "b</p>c"), ("h2", some "e"), ("p", some "f")]) ∧
    ∃ opening text, FirstInside "body" overlapping opening text ∧
      ∃ paragraphs headings paragraphNodes headingNodes,
        LeavesOf ["p"] text paragraphs paragraphNodes ∧
        LeavesOf Vocabulary.headings text headings headingNodes ∧
        body overlapping = some
          [.container "body" opening.attributeMap (paragraphNodes ++ headingNodes)] ∧
        opening.attributeMap = [("id", "x")] ∧
        (paragraphNodes ++ headingNodes).map (·.content) = [some "f", some "e"] := by
  have distinct : ["h2", "p", "h1"].Nodup := by decide
  obtain ⟨⟨elements, nodes, ran, each⟩, -, opened⟩ := leaves_keep_order distinct overlapping
  have contents : (leaves ["h2", "p", "h1"] overlapping).map
      (·.map fun node => (node.tagName, node.content)) = some
        [("p", some "a<h1>b"), ("h1", some "b</p>c"), ("h2", some "e"), ("p", some "f")] := by
    decide +kernel
  rw [ran, Option.map_some, Option.some.injEq] at contents
  refine ⟨distinct, ⟨elements, nodes, ran, each, contents⟩, ?_⟩
  have member : ⟨"body", .opening, ⟨23, 34⟩, " id=x".toList⟩ ∈ Tag.scan overlapping := by
    decide +kernel
  obtain ⟨opening, text, inside, paragraphs, headings, paragraphNodes, headingNodes, first, second,
    container⟩ := opened ⟨_, member, rfl, rfl⟩
  have children : (body overlapping).map (·.map fun node =>
      (node.attributes, node.children.map (·.content))) =
        some [([("id", "x")], [some "f", some "e"])] := by decide +kernel
  rw [container] at children
  simp only [Option.map_some, List.map_cons, List.map_nil, Node.container, Option.some.injEq,
    List.cons.injEq, Prod.mk.injEq, and_true] at children
  exact ⟨opening, text, inside, paragraphs, headings, paragraphNodes, headingNodes, first, second,
    container, children⟩

end Outline

end PageCheck
