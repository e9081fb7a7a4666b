import PageCheck.Proofs.AttributeMaps
import PageCheck.Proofs.Totality

/-! Where the leaves of an outline come from.  A leaf is taken from a slice of the
source, or from a slice of a slice, and each slice is scanned on its own.  The pattern of
tags does not look beyond the tag that it reads, so the two tags around a leaf are tags
of the source as well, moved by the place of the slice.  Neither comments nor broken
markup matter for this. -/

set_option autoImplicit false

namespace PageCheck

/-! ### Tags at their place -/

theorem Tag.ReadIn.shift {text before fragment after : List Char} {tag : Tag}
    (readIn : tag.ReadIn fragment) (text_eq : text = before ++ (fragment ++ after)) :
    (tag.shift (Text.byteLength before)).ReadIn text := by
  obtain ⟨first, reading, last, rfl, read, rfl⟩ := readIn
  refine ⟨before ++ first, reading, last ++ after, ?_, TagText.bracketed.settled _ read, ?_⟩
  · rw [text_eq]
    simp only [List.append_assoc]
  · rw [Text.byteLength_append, Nat.add_assoc]
    rfl

/-! ### Nodes -/

namespace Node

inductive Occurs (node : Node) : List Node → Prop where
  | root {forest : List Node} (member : node ∈ forest) : Occurs node forest
  | under {forest : List Node} {parent : Node} (member : parent ∈ forest)
      (inside : Occurs node parent.children) : Occurs node forest

/-- The node is the trimmed text between two tags of its name, with the attributes of the
first tag; where an attribute occurs again, its first value counts. -/
structure CutFrom (source : List Char) (opening closing : Tag) (node : Node) : Prop where
  opens : opening.ReadIn source
  closes : closing.ReadIn source
  opening_kind : opening.kind = .opening
  closing_kind : closing.kind = .closing
  opening_name : opening.name = node.tagName
  closing_name : closing.name = node.tagName
  inOrder : opening.span.stop ≤ closing.span.start
  content : ∃ inside, Text.slice? source ⟨opening.span.stop, closing.span.start⟩ = some inside ∧
    node.content = some (String.ofList (Text.trim inside))
  attributes : node.attributes = (opening.attributes.map (·.name)).eraseDups.map fun name =>
    (name, Attribute.firstValue opening.attributes name)

theorem CutFrom.shift {source before fragment after : List Char} {opening closing : Tag}
    {node : Node} (cut : node.CutFrom fragment opening closing)
    (source_eq : source = before ++ (fragment ++ after)) :
    node.CutFrom source (opening.shift (Text.byteLength before))
      (closing.shift (Text.byteLength before)) := by
  obtain ⟨inside, sliced, contentEq⟩ := cut.content
  exact {
    opens := cut.opens.shift source_eq
    closes := cut.closes.shift source_eq
    opening_kind := cut.opening_kind
    closing_kind := cut.closing_kind
    opening_name := cut.opening_name
    closing_name := cut.closing_name
    inOrder := Nat.add_le_add_left cut.inOrder _
    content := ⟨inside, Text.slice?_shift source_eq sliced, contentEq⟩
    attributes := cut.attributes }

def containerNames : List String :=
  ["html", "head", "body"]

/-- A leaf between two tags of the source, or a container of such nodes. -/
inductive Sourced (source : List Char) : Node → Prop where
  | leaf {name content : String} {attributes : List (String × String)} {opening closing : Tag}
      (cut : (leaf name content attributes).CutFrom source opening closing) :
      Sourced source (leaf name content attributes)
  | container {name : String} {attributes : List (String × String)} {children : List Node}
      (named : name ∈ containerNames) (inside : ∀ child ∈ children, Sourced source child) :
      Sourced source (container name attributes children)

/-- What comes from a part of the source comes from the source. -/
theorem Sourced.of_fragment {source before fragment after : List Char} {node : Node}
    (sourced : node.Sourced fragment) (source_eq : source = before ++ (fragment ++ after)) :
    node.Sourced source := by
  induction sourced with
  | leaf cut => exact .leaf (cut.shift source_eq)
  | container named _ ih => exact .container named ih

theorem Sourced.of_occurs {source : List Char} {node : Node} {forest : List Node}
    (occurs : node.Occurs forest) (sourced : ∀ root ∈ forest, root.Sourced source) :
    node.Sourced source := by
  induction occurs with
  | root member => exact sourced node member
  | under member _ ih =>
      apply ih
      cases sourced _ member with
      | leaf cut => exact nofun
      | container named inside => exact inside

end Node

/-! ### Extraction -/

namespace Outline

variable {fragment : List Char}

theorem leafNode_sourced {name : String} {element : Element}
    (member : element ∈ Element.pair (Tag.scan fragment) name)
    (closed : element.isClosed = true) : (leafNode fragment element).Sourced fragment := by
  obtain ⟨closing, closingEq⟩ := Option.isSome_iff_exists.mp closed
  obtain ⟨opens, named, kind⟩ := Element.opening_mem_of_mem_pair member
  obtain ⟨closes, sameName, closingKind, behind⟩ :=
    Element.closing_mem_of_mem_pair (Tag.scan_ordered fragment) member closingEq
  have cut := Element.inner?_eq_inside member
  unfold Element.inner? at cut
  rw [Element.innerSpan_of_closing closingEq behind] at cut
  exact .leaf {
    opens := Tag.readIn_of_mem_scan opens
    closes := Tag.readIn_of_mem_scan closes
    opening_kind := kind
    closing_kind := closingKind
    opening_name := rfl
    closing_name := sameName.trans named.symm
    inOrder := behind
    content := ⟨_, cut, rfl⟩
    attributes := element.opening.attributeMap_eq }

theorem leafNodes_sourced (names : List String) (fragment : List Char) :
    ∀ node ∈ leafNodes names fragment, node.Sourced fragment := by
  intro node member
  obtain ⟨name, -, element, paired, closed, rfl⟩ := mem_leafNodes.mp member
  exact leafNode_sourced paired closed

theorem titleNodes_sourced (fragment : List Char) :
    ∀ node ∈ titleNodes fragment, node.Sourced fragment :=
  fun node member => leafNodes_sourced _ fragment node (List.mem_of_mem_take member)

theorem bodyNodes_sourced (fragment : List Char) :
    ∀ node ∈ bodyNodes fragment, node.Sourced fragment :=
  List.forall_mem_append.mpr ⟨leafNodes_sourced _ fragment, leafNodes_sourced _ fragment⟩

theorem containerNode_sourced {name : String} {children : List Char → List Node}
    (named : name ∈ Node.containerNames)
    (inside : ∀ part, ∀ node ∈ children part, node.Sourced part) {element : Element}
    (first : Element.first? (Tag.scan fragment) name = some element) :
    (containerNode name children fragment element).Sourced fragment := by
  obtain ⟨before, after, fragmentEq, -⟩ :=
    Text.slice?_eq_some (Element.inner?_eq_inside (Element.mem_pair_of_first? first))
  refine .container named fun child member => ?_
  exact (inside _ child member).of_fragment fragmentEq

theorem containerNodes_sourced {name : String} {children : List Char → List Node}
    (named : name ∈ Node.containerNames)
    (inside : ∀ part, ∀ node ∈ children part, node.Sourced part) (fragment : List Char) :
    ∀ node ∈ containerNodes name children fragment, node.Sourced fragment := by
  intro node member
  obtain ⟨element, first, rfl⟩ := Option.map_eq_some_iff.mp (Option.mem_toList.mp member)
  exact containerNode_sourced named inside first

theorem headContainer_sourced (fragment : List Char) :
    ∀ node ∈ containerNodes "head" titleNodes fragment, node.Sourced fragment :=
  containerNodes_sourced (by decide) titleNodes_sourced fragment

theorem bodyContainer_sourced (fragment : List Char) :
    ∀ node ∈ containerNodes "body" bodyNodes fragment, node.Sourced fragment :=
  containerNodes_sourced (by decide) bodyNodes_sourced fragment

theorem pageNodes_sourced (fragment : List Char) :
    ∀ node ∈ pageNodes fragment, node.Sourced fragment :=
  List.forall_mem_append.mpr ⟨headContainer_sourced fragment, bodyContainer_sourced fragment⟩

theorem page_sourced (fragment : List Char) :
    ∃ forest, page fragment = some forest ∧ ∀ node ∈ forest, node.Sourced fragment := by
  rw [page_eq]
  refine ⟨_, rfl, ?_⟩
  cases first : Element.first? (Tag.scan fragment) "html" with
  | none => exact pageNodes_sourced fragment
  | some root =>
      exact List.forall_mem_singleton.mpr
        (containerNode_sourced (by decide) pageNodes_sourced first)

end Outline

/-- Apart from the one that takes the whole source, every extractor finds nodes that come
from its fragment. -/
theorem Component.extracts_sourced {component : Component} {extractor : Extractor}
    (extracts : component.extractor? = some extractor) (other : component ≠ .markdown)
    (fragment : List Char) :
    ∃ forest, extractor.run fragment = some forest ∧ ∀ node ∈ forest, node.Sourced fragment := by
  cases component with
  | doctype => cases extracts
  | html =>
      cases extracts
      exact Outline.page_sourced fragment
  | head =>
      cases extracts
      exact ⟨_, Outline.head_eq fragment, Outline.headContainer_sourced fragment⟩
  | body =>
      cases extracts
      exact ⟨_, Outline.body_eq fragment, Outline.bodyContainer_sourced fragment⟩
  | title =>
      cases extracts
      exact ⟨_, Outline.title_eq fragment, Outline.titleNodes_sourced fragment⟩
  | heading =>
      cases extracts
      exact ⟨_, Outline.leaves_eq _ fragment, Outline.leafNodes_sourced _ fragment⟩
  | paragraph =>
      cases extracts
      exact ⟨_, Outline.leaves_eq _ fragment, Outline.leafNodes_sourced _ fragment⟩
  | anchor => cases extracts
  | markdown => exact absurd rfl other

theorem ExtractorChain.run_sourced {registry : Registry} {kind : InputKind}
    {chain : ExtractorChain} (built : ofRegistry registry kind = .ok chain)
    (markup : .markdown ∉ chain.components) (document : Document) :
    ∃ forest, chain.run document = some forest ∧
      ∀ node ∈ forest, node.Sourced document.source := by
  have each : ∀ member ∈ chain.members, ∃ forest,
      member.2.run document.source = some forest ∧
        ∀ node ∈ forest, node.Sourced document.source := by
    intro member present
    have other : member.1 ≠ .markdown := fun same =>
      markup (List.mem_map.mpr ⟨member, present, same⟩)
    exact Component.extracts_sourced (members_eq built member present) other document.source
  obtain ⟨parts, found, sourced⟩ := exists_run_forall each
  exact ⟨parts.flatten, by unfold run; rw [found]; rfl, sourced⟩

/-- A chain of extractors for markup always returns a forest.  Anywhere in it a node is a
container of one of the three names, or a leaf; and a leaf is the trimmed text between
two tags of its name that stand in the source, with the attributes of the first. -/
theorem ExtractorChain.leaves_come_from_source {registry : Registry} {kind : InputKind}
    {chain : ExtractorChain} (built : ofRegistry registry kind = .ok chain)
    (markup : .markdown ∉ chain.components) (document : Document) :
    ∃ forest, chain.run document = some forest ∧
      ∀ node : Node, node.Occurs forest →
        ((node.content = none ∧ node.tagName ∈ ["html", "head", "body"]) ∨
          (node.content.isSome = true ∧ node.children = [])) ∧
        (node.content.isSome = true →
          ∃ opening closing, node.CutFrom document.source opening closing) := by
  obtain ⟨forest, ran, sourced⟩ := run_sourced built markup document
  refine ⟨forest, ran, fun node occurs => ?_⟩
  cases Node.Sourced.of_occurs occurs sourced with
  | leaf cut => exact ⟨.inr ⟨rfl, rfl⟩, fun _ => ⟨_, _, cut⟩⟩
  | container named _ => exact ⟨.inl ⟨rfl, named⟩, nofun⟩

def Registry.overlapping : Registry where
  html := ⟨["html"], ["body", "p"]⟩
  markdown := ⟨["markdown"], ["markdown"]⟩

def tornPage : Document :=
  .ofText "</p><body><P id='a' class=b ID=c> é <b> </p><p>".toList

theorem ExtractorChain.leaves_come_from_source_of_torn_page :
    ∃ chain, ofRegistry .overlapping .html = .ok chain ∧ .markdown ∉ chain.components ∧
      ∃ opening closing, (Node.leaf "p" "é <b>" [("id", "a"), ("class", "b")]).CutFrom
        tornPage.source opening closing := by
  let chain : ExtractorChain :=
    ⟨.html, [(.body, ⟨"body", Outline.body⟩), (.paragraph, ⟨"p", Outline.paragraph⟩)]⟩
  have built : ofRegistry .overlapping .html = .ok chain := rfl
  have markup : Component.markdown ∉ chain.components := by decide
  let leaf := Node.leaf "p" "é <b>" [("id", "a"), ("class", "b")]
  have ran : chain.run tornPage = some [.container "body" [] [leaf], leaf] := rfl
  obtain ⟨forest, found, each⟩ := leaves_come_from_source built markup tornPage
  obtain rfl := Option.some.inj (ran.symm.trans found)
  have inBody : leaf.Occurs [.container "body" [] [leaf], leaf] :=
    .under List.mem_cons_self (.root List.mem_cons_self)
  exact ⟨chain, built, markup, (each leaf inBody).2 rfl⟩

end PageCheck
