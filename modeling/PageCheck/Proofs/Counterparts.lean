import PageCheck.Proofs.Totality

/-! Counterparts.  One document is the counterpart of another if its tags are those of
the other, taken to other places in the same order, and if the texts between them look
alike to the rules.  Searching, pairing and cutting then give the same answers in both,
up to the places of the tags. -/

set_option autoImplicit false

namespace PageCheck

/-- Two parts of sources that look alike to every rule that reads them. -/
structure Content.Alike (part other : List Char) : Prop where
  blank : Content.isBlank other = Content.isBlank part
  undeclared : Text.allBlank (Doctype.strip (Comment.strip other)) =
    Text.allBlank (Doctype.strip (Comment.strip part))
  declared : Doctype.occurs other = Doctype.occurs part
  shown : (Content.visible other).isEmpty = (Content.visible part).isEmpty
  titled : Rules.titleText (Content.visible other) = Rules.titleText (Content.visible part)

theorem Content.Alike.refl (part : List Char) : Content.Alike part part :=
  ⟨rfl, rfl, rfl, rfl, rfl⟩

namespace Document

def Matches (first second : Document) (range other : Span) : Prop :=
  ∃ part counterpart, first.slice? range = some part ∧ second.slice? other = some counterpart ∧
    Content.Alike part counterpart

/-- The second document has the tags of the first at the places that `move` takes them to,
with matching texts between them.  Since white space alone may separate a root tag from a
head, the text there has to agree in that. -/
structure Counterpart (first second : Document) (move : Tag → Tag) : Prop where
  tags_eq : second.tags = first.tags.map move
  name_eq : ∀ tag, (move tag).name = tag.name
  kind_eq : ∀ tag, (move tag).kind = tag.kind
  attributes_eq : ∀ tag, (move tag).attributes = tag.attributes
  lead : ∀ tag ∈ first.tags,
    Matches first second ⟨0, tag.span.start⟩ ⟨0, (move tag).span.start⟩
  between : ∀ tag ∈ first.tags, ∀ later ∈ first.tags, tag.span.stop ≤ later.span.start →
    Matches first second ⟨tag.span.stop, later.span.start⟩
      ⟨(move tag).span.stop, (move later).span.start⟩
  rest : ∀ tag ∈ first.tags,
    Matches first second ⟨tag.span.stop, first.length⟩ ⟨(move tag).span.stop, second.length⟩
  gap : ∀ root ∈ first.tags, root.name = "html" → root.isOpening = true →
    ∀ head ∈ first.tags, head.name = "head" → head.isOpening = true →
      root.span.stop ≤ head.span.start →
      (second.slice? ⟨(move root).span.stop, (move head).span.start⟩).map Text.allBlank =
        (first.slice? ⟨root.span.stop, head.span.start⟩).map Text.allBlank
  declaration : Option.Rel
    (fun found other => Matches first second ⟨0, found.start⟩ ⟨0, other.start⟩)
    (Doctype.find? first.source) (Doctype.find? second.source)

end Document

/-! ### Searching -/

section Search

variable {α : Type} {move : α → α} {items : List α} {kept was : α → Bool}

theorem filter_move (same : ∀ item ∈ items, kept (move item) = was item) :
    (items.map move).filter kept = (items.filter was).map move := by
  rw [List.filter_map]
  exact congrArg (List.map move) (List.filter_congr same)

theorem find?_move (same : ∀ item ∈ items, kept (move item) = was item) :
    (items.map move).find? kept = (items.find? was).map move := by
  rw [← List.head?_filter, filter_move same, List.head?_map, List.head?_filter]

theorem findSome?_move {β : Type} {step : β → β} {find was : α → Option β}
    (same : ∀ item ∈ items, find (move item) = (was item).map step) :
    (items.map move).findSome? find = (items.findSome? was).map step := by
  induction items with
  | nil => rfl
  | cons item rest ih =>
      obtain ⟨here, later⟩ := List.forall_mem_cons.mp same
      rw [List.map_cons, List.findSome?_cons, List.findSome?_cons, here, ih later]
      cases was item <;> rfl

end Search

theorem Tag.Ordered.start_le_iff {tags : List Tag} (ordered : Tag.Ordered tags) {tag other : Tag}
    (member : tag ∈ tags) (present : other ∈ tags) :
    tag.span.start ≤ other.span.start ↔ ¬ other.span.stop ≤ tag.span.start := by
  have filled := ordered.filled member
  have otherFilled := ordered.filled present
  rcases ordered.apart member present with same | before | behind
  · subst same
    omega
  · omega
  · omega

namespace Document.Counterpart

variable {first second : Document} {move : Tag → Tag}

theorem isOpening_eq (counterpart : Counterpart first second move) (tag : Tag) :
    (move tag).isOpening = tag.isOpening := by
  unfold Tag.isOpening
  rw [counterpart.kind_eq]

theorem isClosing_eq (counterpart : Counterpart first second move) (tag : Tag) :
    (move tag).isClosing = tag.isClosing := by
  unfold Tag.isClosing
  rw [counterpart.kind_eq]

theorem isPaired_eq (counterpart : Counterpart first second move) (tag : Tag) :
    (move tag).isPaired = tag.isPaired := by
  unfold Tag.isPaired
  rw [counterpart.kind_eq]

theorem attribute?_eq (counterpart : Counterpart first second move) (tag : Tag) (name : String) :
    (move tag).attribute? name = tag.attribute? name := by
  unfold Tag.attribute?
  rw [counterpart.attributes_eq]

theorem mem (counterpart : Counterpart first second move) {tag : Tag}
    (member : tag ∈ first.tags) : move tag ∈ second.tags := by
  rw [counterpart.tags_eq]
  exact List.mem_map.mpr ⟨tag, member, rfl⟩

theorem named (counterpart : Counterpart first second move) (name : String) :
    second.tagsNamed name = (first.tagsNamed name).map move := by
  unfold tagsNamed Tag.named
  rw [counterpart.tags_eq]
  exact filter_move fun tag _ => by rw [counterpart.name_eq]

theorem openings (counterpart : Counterpart first second move) (name : String) :
    (second.tagsNamed name).filter Tag.isOpening =
      ((first.tagsNamed name).filter Tag.isOpening).map move := by
  rw [counterpart.named]
  exact filter_move fun tag _ => counterpart.isOpening_eq tag

/-! ### Order -/

private theorem follows (counterpart : Counterpart first second move) {tag other : Tag}
    (member : tag ∈ first.tags) (present : other ∈ first.tags)
    (before : tag.span.stop ≤ other.span.start) :
    (move tag).span.stop ≤ (move other).span.start := by
  have ordered := first.tags_ordered
  have moved := second.tags_ordered.pairwise
  rw [counterpart.tags_eq, List.pairwise_map] at moved
  let Kept (tag other : Tag) : Prop :=
    tag.span.stop ≤ other.span.start → (move tag).span.stop ≤ (move other).span.start
  have forward : first.tags.Pairwise Kept := by
    refine moved.imp ?_
    intro tag other after _
    exact after
  have backward : first.tags.Pairwise fun tag other => Kept other tag := by
    refine ordered.pairwise.imp_of_mem ?_
    intro tag other member present before turned
    have filled := ordered.filled member
    have otherFilled := ordered.filled present
    omega
  have same : ∀ tag ∈ first.tags, Kept tag tag := by
    intro tag member turned
    have filled := ordered.filled member
    omega
  exact forward.forall_of_forall_of_flip same backward member present before

theorem follows_iff (counterpart : Counterpart first second move) {tag other : Tag}
    (member : tag ∈ first.tags) (present : other ∈ first.tags) :
    (move tag).span.stop ≤ (move other).span.start ↔ tag.span.stop ≤ other.span.start := by
  refine ⟨fun moved => ?_, counterpart.follows member present⟩
  have filled := second.tags_ordered.filled (counterpart.mem member)
  have otherFilled := second.tags_ordered.filled (counterpart.mem present)
  rcases first.tags_ordered.apart member present with same | before | behind
  · subst same
    omega
  · exact before
  · have turned := counterpart.follows present member behind
    omega

theorem start_le_iff (counterpart : Counterpart first second move) {tag other : Tag}
    (member : tag ∈ first.tags) (present : other ∈ first.tags) :
    (move tag).span.start ≤ (move other).span.start ↔ tag.span.start ≤ other.span.start := by
  rw [second.tags_ordered.start_le_iff (counterpart.mem member) (counterpart.mem present),
    first.tags_ordered.start_le_iff member present, counterpart.follows_iff present member]

theorem behind_eq (counterpart : Counterpart first second move) {opening tag : Tag}
    (opens : opening ∈ first.tags) (member : tag ∈ first.tags) :
    ((move tag).isClosing && decide ((move opening).span.stop ≤ (move tag).span.start)) =
      (tag.isClosing && decide (opening.span.stop ≤ tag.span.start)) := by
  rw [counterpart.isClosing_eq, decide_eq_decide.mpr (counterpart.follows_iff opens member)]

/-! ### Elements -/

theorem pair (counterpart : Counterpart first second move) (name : String) :
    Element.pair second.tags name = (Element.pair first.tags name).map (Element.map move) := by
  rw [counterpart.tags_eq]
  exact Element.pair_map move counterpart.name_eq counterpart.kind_eq
    (fun _ member _ present => counterpart.start_le_iff member present) name

theorem first? (counterpart : Counterpart first second move) (name : String) :
    Element.first? second.tags name = (Element.first? first.tags name).map (Element.map move) := by
  unfold Element.first?
  rw [counterpart.pair, List.head?_map]

private theorem slice_empty {document : Document} {tag : Tag} (member : tag ∈ document.tags) :
    document.slice? ⟨tag.span.stop, tag.span.stop⟩ = some [] := by
  obtain ⟨-, before, after, sourceEq, stopEq⟩ := boundaries member
  unfold slice?
  rw [sourceEq, ← stopEq]
  exact Text.slice?_append before [] after

/-- The insides of elements match, also where the closing tag does not stand behind the
opening tag. -/
theorem inner (counterpart : Counterpart first second move) {element : Element}
    (holds : first.Holds element) :
    Matches first second (element.innerSpan first.length)
      ((element.map move).innerSpan second.length) := by
  obtain ⟨opening, closing⟩ := element
  have opens : opening ∈ first.tags := holds.1
  cases closing with
  | none =>
      have matched := counterpart.rest opening opens
      simp only [Element.innerSpan, Element.map, Option.map_none]
      rwa [Nat.max_eq_left (stop_le_length opens),
        Nat.max_eq_left (stop_le_length (counterpart.mem opens))]
  | some closing =>
      have present := holds.2 closing rfl
      have order := counterpart.follows_iff opens present
      simp only [Element.innerSpan, Element.map, Option.map_some]
      by_cases behind : opening.span.stop ≤ closing.span.start
      · rw [Nat.max_eq_left behind, Nat.max_eq_left (order.mpr behind)]
        exact counterpart.between opening opens closing present behind
      · -- nothing is inside, in either document
        have moved := fun le => behind (order.mp le)
        rw [Nat.max_eq_right (Nat.le_of_not_le behind), Nat.max_eq_right (Nat.le_of_not_le moved)]
        exact ⟨[], [], slice_empty opens, slice_empty (counterpart.mem opens), Content.Alike.refl []⟩

/-- A tag lies inside an element just when the tag it is taken from does. -/
theorem encloses_inner (counterpart : Counterpart first second move) {element : Element}
    (holds : first.Holds element) {tag : Tag} (member : tag ∈ first.tags) :
    ((element.map move).innerSpan second.length).encloses (move tag).span =
      (element.innerSpan first.length).encloses tag.span := by
  have filled := first.tags_ordered.filled member
  have movedFilled := second.tags_ordered.filled (counterpart.mem member)
  have inText := stop_le_length member
  have movedInText := stop_le_length (counterpart.mem member)
  obtain ⟨opening, closing⟩ := element
  have opens : opening ∈ first.tags := holds.1
  have begins := counterpart.follows_iff opens member
  rw [Bool.eq_iff_iff, Span.encloses_iff, Span.encloses_iff]
  cases closing with
  | none =>
      simp only [Element.innerSpan, Element.map, Option.map_none]
      omega
  | some closing =>
      have ends := counterpart.follows_iff member (holds.2 closing rfl)
      simp only [Element.innerSpan, Element.map, Option.map_some]
      omega

theorem within_inner (counterpart : Counterpart first second move) {element : Element}
    (holds : first.Holds element) :
    Tag.within second.tags ((element.map move).innerSpan second.length) =
      (Tag.within first.tags (element.innerSpan first.length)).map move := by
  unfold Tag.within
  rw [counterpart.tags_eq]
  exact filter_move fun tag member => counterpart.encloses_inner holds member

theorem within_between (counterpart : Counterpart first second move) {opening closing : Tag}
    (opens : opening ∈ first.tags) (closes : closing ∈ first.tags) :
    Tag.within second.tags ⟨(move opening).span.stop, (move closing).span.start⟩ =
      (Tag.within first.tags ⟨opening.span.stop, closing.span.start⟩).map move := by
  unfold Tag.within
  rw [counterpart.tags_eq]
  refine filter_move fun tag member => ?_
  rw [Bool.eq_iff_iff, Span.encloses_iff, Span.encloses_iff]
  exact and_congr (counterpart.follows_iff opens member) (counterpart.follows_iff member closes)

end Document.Counterpart

end PageCheck
