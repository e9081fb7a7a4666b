import Mathlib.Data.List.Forall2
import PageCheck.Proofs.AttributeMaps
import PageCheck.Proofs.EqualVerdicts
import PageCheck.Proofs.LetterCase

/-! Letter case does not matter to a page.  Extraction takes the same outline from a
page in lower case, with its content and its attribute values in lower case.  Two
pages that differ in the case of letters alone have their tags at the same places; if
the tags have the same attribute values, each page is the counterpart of the other,
and every chain comes to one verdict on both. -/

set_option autoImplicit false

namespace PageCheck

/-! ### Elements in lower case -/

theorem Attribute.firstValue_lower (entries : List Attribute) (name : String) :
    firstValue (entries.map lower) name = Text.lowerString (firstValue entries name) := by
  unfold firstValue
  rw [List.find?_map, Option.map_map]
  change ((entries.find? (·.name == name)).map _).getD "" = _
  cases entries.find? (·.name == name) with
  | none => rfl
  | some entry => obtain ⟨entryName, value⟩ := entry; cases value <;> rfl

def Node.lowerValues (attributes : List (String × String)) : List (String × String) :=
  attributes.map fun entry => (entry.1, Text.lowerString entry.2)

theorem Tag.attributeMap_lower (tag : Tag) :
    tag.lower.attributeMap = Node.lowerValues tag.attributeMap := by
  have names : tag.lower.attributes.map (·.name) = tag.attributes.map (·.name) := by
    rw [attributes_lower, List.map_map]
    rfl
  rw [attributeMap_eq, attributeMap_eq, names, Node.lowerValues, List.map_map, attributes_lower]
  refine List.map_congr_left fun name _ => ?_
  rw [Attribute.firstValue_lower]
  rfl

namespace Element

def lower (element : Element) : Element :=
  element.map Tag.lower

theorem sortByStart_lower (elements : List Element) :
    sortByStart (elements.map lower) = (sortByStart elements).map lower :=
  sortByStart_map Tag.lower fun _ _ _ _ => Iff.rfl

theorem pair_lower (text : List Char) (name : String) :
    pair (Tag.scan (Text.lower text)) name = (pair (Tag.scan text) name).map lower := by
  rw [Tag.scan_lower]
  exact pair_map Tag.lower (fun _ => rfl) (fun _ => rfl) (fun _ _ _ _ => Iff.rfl) name

theorem first?_lower (text : List Char) (name : String) :
    first? (Tag.scan (Text.lower text)) name = (first? (Tag.scan text) name).map lower := by
  unfold first?
  rw [pair_lower, List.head?_map]

theorem inside_lower (element : Element) (text : List Char) :
    element.lower.inside (Text.lower text) = Text.lower (element.inside text) := by
  have span : element.lower.innerSpan (Text.byteLength (Text.lower text)) =
      element.innerSpan (Text.byteLength text) := by
    obtain ⟨opening, closing⟩ := element
    rw [Text.byteLength_lower]
    cases closing <;> rfl
  unfold inside inner?
  rw [span, Text.slice?_lower]
  cases Text.slice? text (element.innerSpan (Text.byteLength text)) <;> rfl

end Element

/-! ### Outlines in lower case -/

namespace Node

mutual

def lower : Node → Node
  | ⟨tagName, content, attributes, children⟩ =>
      ⟨tagName, content.map Text.lowerString, lowerValues attributes, lowerAll children⟩

def lowerAll : List Node → List Node
  | [] => []
  | node :: rest => lower node :: lowerAll rest

end

theorem lowerAll_eq_map (nodes : List Node) : lowerAll nodes = nodes.map lower := by
  induction nodes with
  | nil => rfl
  | cons node rest ih => rw [lowerAll, ih, List.map_cons]

end Node

namespace Outline

private theorem leafNode_lower (fragment : List Char) (element : Element) :
    leafNode (Text.lower fragment) element.lower = (leafNode fragment element).lower := by
  have attributes : element.lower.opening.attributeMap =
      Node.lowerValues element.opening.attributeMap := Tag.attributeMap_lower element.opening
  unfold leafNode Node.leaf
  rw [Node.lower, Node.lowerAll, attributes, Element.inside_lower, Text.trim_lower,
    ← Text.lowerString_ofList]
  rfl

private theorem closedElements_lower (fragment : List Char) (names : List String) :
    closedElements (Text.lower fragment) names =
      (closedElements fragment names).map Element.lower := by
  have paired : names.flatMap (Element.pair (Tag.scan (Text.lower fragment))) =
      (names.flatMap (Element.pair (Tag.scan fragment))).map Element.lower := by
    rw [List.map_flatMap]
    exact congrArg (List.flatMap · names) (funext (Element.pair_lower fragment))
  have closed : Element.isClosed ∘ Element.lower = Element.isClosed :=
    funext fun _ => Option.isSome_map
  unfold closedElements
  simp only
  rw [paired, List.filter_map, closed, Element.sortByStart_lower]

theorem leafNodes_lower (names : List String) (fragment : List Char) :
    leafNodes names (Text.lower fragment) = (leafNodes names fragment).map Node.lower := by
  unfold leafNodes
  rw [closedElements_lower, List.map_map, List.map_map]
  exact List.map_congr_left fun element _ => leafNode_lower fragment element

private theorem containerNode_lower {children : List Char → List Node}
    (inside : ∀ fragment, children (Text.lower fragment) = (children fragment).map Node.lower)
    (name : String) (fragment : List Char) (element : Element) :
    containerNode name children (Text.lower fragment) element.lower =
      (containerNode name children fragment element).lower := by
  have attributes : element.lower.opening.attributeMap =
      Node.lowerValues element.opening.attributeMap := Tag.attributeMap_lower element.opening
  unfold containerNode Node.container
  rw [Node.lower, Node.lowerAll_eq_map, attributes, Element.inside_lower, inside]
  rfl

theorem containerNodes_lower {children : List Char → List Node}
    (inside : ∀ fragment, children (Text.lower fragment) = (children fragment).map Node.lower)
    (name : String) (fragment : List Char) :
    containerNodes name children (Text.lower fragment) =
      (containerNodes name children fragment).map Node.lower := by
  unfold containerNodes
  rw [Element.first?_lower]
  cases Element.first? (Tag.scan fragment) name with
  | none => rfl
  | some element => exact congrArg ([·]) (containerNode_lower inside name fragment element)

theorem titleNodes_lower (fragment : List Char) :
    titleNodes (Text.lower fragment) = (titleNodes fragment).map Node.lower := by
  unfold titleNodes
  rw [leafNodes_lower, List.map_take]

theorem bodyNodes_lower (fragment : List Char) :
    bodyNodes (Text.lower fragment) = (bodyNodes fragment).map Node.lower := by
  unfold bodyNodes
  rw [leafNodes_lower, leafNodes_lower, List.map_append]

theorem pageNodes_lower (fragment : List Char) :
    pageNodes (Text.lower fragment) = (pageNodes fragment).map Node.lower := by
  unfold pageNodes
  rw [containerNodes_lower titleNodes_lower, containerNodes_lower bodyNodes_lower,
    List.map_append]

theorem page_lower (fragment : List Char) :
    page (Text.lower fragment) = (page fragment).map (List.map Node.lower) := by
  rw [page_eq, page_eq, Element.first?_lower]
  cases Element.first? (Tag.scan fragment) "html" with
  | none => exact congrArg some (pageNodes_lower fragment)
  | some root =>
      exact congrArg (fun node => some [node])
        (containerNode_lower pageNodes_lower "html" fragment root)

end Outline

/-! ### Pages that differ in case -/

theorem Rules.titleText_lower (text : List Char) :
    titleText (Text.lower text) = titleText text := by
  have titled : Text.Caseless isTitleChar := Text.caseless_of_capitals (by decide)
  unfold titleText
  rw [Text.isEmpty_lower, Text.all_lower titled]

theorem Content.alike_of_lower {part other : List Char}
    (same : Text.lower part = Text.lower other) : Content.Alike part other where
  blank := by
    rw [← isBlank_lower other, ← same, isBlank_lower]
  undeclared := by
    have judged (text : List Char) :
        Text.allBlank (Doctype.strip (Comment.strip (Text.lower text))) =
          Text.allBlank (Doctype.strip (Comment.strip text)) := by
      unfold Text.allBlank
      rw [Comment.strip_lower, Doctype.strip_lower, Text.all_lower Text.caseless_isBlank]
    rw [← judged other, ← same, judged]
  declared := by
    unfold Doctype.occurs
    rw [← Doctype.find?_lower other, ← same, Doctype.find?_lower]
  shown := by
    rw [← Text.isEmpty_lower (visible other), ← visible_lower, ← same, visible_lower,
      Text.isEmpty_lower]
  titled := by
    rw [← Rules.titleText_lower (visible other), ← visible_lower, ← same, visible_lower,
      Rules.titleText_lower]

/-- The tags agree in everything that a rule can see. -/
def Tag.Agrees (tag other : Tag) : Prop :=
  other.name = tag.name ∧ other.kind = tag.kind ∧ other.span = tag.span ∧
    other.attributes = tag.attributes

instance (tag other : Tag) : Decidable (tag.Agrees other) := by
  unfold Tag.Agrees
  infer_instance

namespace Tag

def agreeing (tags : List Tag) (tag : Tag) : Tag :=
  (tags.find? fun other => decide (tag.Agrees other)).getD tag

theorem agrees_agreeing (tags : List Tag) (tag : Tag) : tag.Agrees (agreeing tags tag) := by
  unfold agreeing
  cases found : tags.find? fun other => decide (tag.Agrees other) with
  | none => exact ⟨rfl, rfl, rfl, rfl⟩
  | some other => simpa using List.find?_some found

theorem agreeing_eq {tags : List Tag} (ordered : Ordered tags) {tag other : Tag}
    (member : other ∈ tags) (agrees : tag.Agrees other) : agreeing tags tag = other := by
  unfold agreeing
  cases found : tags.find? fun other => decide (tag.Agrees other) with
  | none =>
      have differs := List.find?_eq_none.mp found other member
      exact absurd (decide_eq_true agrees) differs
  | some first =>
      have firstAgrees : tag.Agrees first := by simpa using List.find?_some found
      have present := List.mem_of_find?_eq_some found
      have place : first.span = other.span := firstAgrees.2.2.1.trans agrees.2.2.1.symm
      have filled := ordered.filled present
      rcases ordered.apart present member with same | before | behind
      · exact same
      · rw [place] at before filled
        omega
      · rw [place] at behind filled
        omega

private theorem eq_map_agreeing {tags : List Tag} (ordered : Ordered tags) {some others : List Tag}
    (listed : ∀ other ∈ others, other ∈ tags) (agree : List.Forall₂ Agrees some others) :
    others = some.map (agreeing tags) := by
  induction agree with
  | nil => rfl
  | cons here _ ih =>
      obtain ⟨member, later⟩ := List.forall_mem_cons.mp listed
      rw [List.map_cons, agreeing_eq ordered member here, ← ih later]

end Tag

private theorem forall₂_of_map {α β : Type} {view : α → β} {items others : List α}
    (same : items.map view = others.map view) :
    List.Forall₂ (fun item other => view item = view other) items others := by
  rw [← List.forall₂_eq_eq_eq, List.forall₂_map_left_iff, List.forall₂_map_right_iff] at same
  exact same

private theorem forall₂_of_maps {α β γ : Type} {view : α → β} {aspect : α → γ}
    {items others : List α} (first : items.map view = others.map view)
    (second : items.map aspect = others.map aspect) :
    List.Forall₂ (fun item other => view item = view other ∧ aspect item = aspect other)
      items others :=
  List.Forall₂.mp (fun _ _ left right => ⟨left, right⟩) (forall₂_of_map first)
    (forall₂_of_map second)

private theorem Attribute.eq_of_maps {entries others : List Attribute}
    (names : entries.map (·.name) = others.map (·.name))
    (values : entries.map (·.value) = others.map (·.value)) : entries = others := by
  rw [← List.forall₂_eq_eq_eq]
  refine (forall₂_of_maps names values).imp fun entry other same => ?_
  obtain ⟨name, value⟩ := entry
  obtain ⟨otherName, otherValue⟩ := other
  exact congr (congrArg Attribute.mk same.1) same.2

section Pages

variable {first second : List Char} (same : Text.lower first = Text.lower second)
  (values : (Tag.scan first).map (fun tag => tag.attributes.map (·.value)) =
    (Tag.scan second).map fun tag => tag.attributes.map (·.value))

include same

private theorem slice_alike {span : Span} {part : List Char}
    (cut : Text.slice? first span = some part) :
    ∃ other, Text.slice? second span = some other ∧ Text.lower part = Text.lower other := by
  have lowered := Text.slice?_lower second span
  rw [← same, Text.slice?_lower, cut] at lowered
  obtain ⟨other, otherCut, otherEq⟩ := Option.map_eq_some_iff.mp lowered.symm
  exact ⟨other, otherCut, otherEq.symm⟩

private theorem matches_of_boundaries {start stop : Nat} (le : start ≤ stop)
    (left : Text.Boundary first start) (right : Text.Boundary first stop) :
    Document.Matches (.ofText first) (.ofText second) ⟨start, stop⟩ ⟨start, stop⟩ := by
  obtain ⟨part, cut⟩ := Text.exists_slice le left right
  obtain ⟨other, otherCut, lowered⟩ := slice_alike same cut
  exact ⟨part, other, cut, otherCut, Content.alike_of_lower lowered⟩

include values

private theorem scan_agrees : List.Forall₂ Tag.Agrees (Tag.scan first) (Tag.scan second) := by
  have lowered : (Tag.scan first).map Tag.lower = (Tag.scan second).map Tag.lower := by
    rw [← Tag.scan_lower, same, Tag.scan_lower]
  refine (forall₂_of_maps lowered values).imp fun tag other both => ?_
  have attributes := congrArg Tag.attributes both.1
  rw [Tag.attributes_lower, Tag.attributes_lower] at attributes
  have names := congrArg (List.map (·.name)) attributes
  rw [List.map_map, List.map_map] at names
  exact ⟨(congrArg Tag.name both.1).symm, (congrArg Tag.kind both.1).symm,
    (congrArg Tag.span both.1).symm, (Attribute.eq_of_maps names both.2).symm⟩

/-- A page is the counterpart of every page that differs from it in the case of
letters outside attribute values. -/
theorem counterpart_of_lower :
    Document.Counterpart (.ofText first) (.ofText second) (Tag.agreeing (Tag.scan second)) := by
  have ordered := Tag.scan_ordered second
  have place (tag : Tag) : (Tag.agreeing (Tag.scan second) tag).span = tag.span :=
    (Tag.agrees_agreeing _ tag).2.2.1
  have length : (Document.ofText second).length = (Document.ofText first).length := by
    unfold Document.length Document.ofText
    rw [← Text.byteLength_lower second, ← same, Text.byteLength_lower]
  exact
    { tags_eq := Tag.eq_map_agreeing ordered (fun _ member => member) (scan_agrees same values)
      name_eq := fun tag => (Tag.agrees_agreeing _ tag).1
      kind_eq := fun tag => (Tag.agrees_agreeing _ tag).2.1
      attributes_eq := fun tag => (Tag.agrees_agreeing _ tag).2.2.2
      lead := fun tag member => by
        rw [place]
        exact matches_of_boundaries same (Nat.zero_le _) (Text.boundary_zero _)
          (Document.boundaries member).1
      between := fun tag member later present before => by
        rw [place, place]
        exact matches_of_boundaries same before (Document.boundaries member).2
          (Document.boundaries present).1
      rest := fun tag member => by
        rw [place, length]
        exact matches_of_boundaries same (Document.stop_le_length member)
          (Document.boundaries member).2 (Text.boundary_length _)
      gap := fun root _ _ _ head _ _ _ _ => by
        rw [place, place]
        have lowered := Text.slice?_lower second ⟨root.span.stop, head.span.start⟩
        rw [← same, Text.slice?_lower] at lowered
        have judged := congrArg (Option.map Text.allBlank) lowered
        rw [Option.map_map, Option.map_map] at judged
        have blank : Text.allBlank ∘ Text.lower = Text.allBlank :=
          funext fun text => Text.all_lower Text.caseless_isBlank text
        rw [blank] at judged
        exact judged.symm
      declaration := by
        have found : Doctype.find? second = Doctype.find? first := by
          rw [← Doctype.find?_lower second, ← same, Doctype.find?_lower]
        change Option.Rel _ (Doctype.find? first) (Doctype.find? second)
        rw [found]
        cases declared : Doctype.find? first with
        | none => exact .none
        | some span =>
            have boundary :=
              (Doctype.bracketed.sound.boundaries (List.mem_of_find?_eq_some declared)).1
            exact .some (matches_of_boundaries same (Nat.zero_le _) (Text.boundary_zero _)
              boundary) }

end Pages

/-- Two pages that differ in the case of letters alone, and whose tags have the same
attribute values one after the other, get the same verdict from every chain, and
outlines that differ in case alone. -/
theorem Engine.letter_case_is_irrelevant {first second : List Char}
    (same : Text.lower first = Text.lower second)
    (values : (Tag.scan first).map (fun tag => tag.attributes.map (·.value)) =
      (Tag.scan second).map fun tag => tag.attributes.map (·.value)) :
    (∀ (registry : Registry) (kind : InputKind) (chain : ValidatorChain),
      ValidatorChain.ofRegistry registry kind = .ok chain →
        chain.run (.ofText first) = chain.run (.ofText second)) ∧
      ∃ outline other, Engine.standard.extract (.ofText first) .html = some outline ∧
        Engine.standard.extract (.ofText second) .html = some other ∧
        outline.map Node.lower = other.map Node.lower := by
  refine ⟨fun registry kind chain resolved =>
    ((counterpart_of_lower same values).chain_run resolved).symm, ?_⟩
  rw [Engine.standard_extract, Engine.standard_extract]
  have lowered : (Outline.page first).map (List.map Node.lower) =
      (Outline.page second).map (List.map Node.lower) := by
    rw [← Outline.page_lower, same, Outline.page_lower]
  change ∃ outline other, Outline.page first = some outline ∧
    Outline.page second = some other ∧ _
  rw [Outline.page_eq first, Outline.page_eq second] at lowered ⊢
  exact ⟨_, _, rfl, rfl, Option.some.inj lowered⟩

/-- A page in capitals, with faults that quote the name and the value of an attribute. -/
def shoutedPage : List Char :=
  ("<!DOCTYPE HTML><HTML><HEAD><TITLE>HI</TITLE></HEAD><BODY BGCOLOR='Red'>" ++
    "<P>A<A HREF='a B'>X</A></P></BODY></HTML>").toList

def quietPage : List Char :=
  ("<!doctype html><html><head><title>hi</title></head><body bgcolor='Red'>" ++
    "<p>a<a href='a B'>x</a></p></body></html>").toList

theorem Engine.letter_case_is_irrelevant_in_shouted_page :
    Text.lower shoutedPage = Text.lower quietPage ∧
      (Tag.scan shoutedPage).map (fun tag => tag.attributes.map (·.value)) =
        (Tag.scan quietPage).map (fun tag => tag.attributes.map (·.value)) ∧
      Engine.standard.html.validators.run (.ofText shoutedPage) =
        Engine.standard.html.validators.run (.ofText quietPage) ∧
      ∃ outline other, Engine.standard.extract (.ofText shoutedPage) .html = some outline ∧
        Engine.standard.extract (.ofText quietPage) .html = some other ∧
        outline.map Node.lower = other.map Node.lower := by
  have same : Text.lower shoutedPage = Text.lower quietPage := by decide +kernel
  have values : (Tag.scan shoutedPage).map (fun tag => tag.attributes.map (·.value)) =
      (Tag.scan quietPage).map fun tag => tag.attributes.map (·.value) := by decide +kernel
  have irrelevant := Engine.letter_case_is_irrelevant same values
  exact ⟨same, values, irrelevant.1 Registry.standard .html _ rfl, irrelevant.2⟩

end PageCheck
