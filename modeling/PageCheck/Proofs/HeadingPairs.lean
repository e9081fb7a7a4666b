import Mathlib.Data.List.Forall2
import PageCheck.Proofs.Extraction
import PageCheck.Proofs.MatchedElements
import PageCheck.Proofs.Skeleton

/-! Pairs of headings.  The rule keeps one stack for all six levels and stops at the first
tag that does not fit; extraction pairs the tags of each level alone and passes over what
does not fit.  The rule has no fault to find just when the heading tags are well nested, as
a word over six kinds of brackets, and then both make the same elements of them. -/

set_option autoImplicit false

namespace PageCheck

namespace Tag

/-! ### Well-nested words -/

/-- The word is well nested, and its pairs are the elements, in the order of their opening
tags. -/
inductive Brackets : List Tag → List Element → Prop where
  | empty : Brackets [] []
  | pair {opening closing : Tag} {inside rest : List Tag} {inner later : List Element}
      (opens : opening.kind = .opening) (closes : closing.kind = .closing)
      (level : closing.name = opening.name)
      (nested : Brackets inside inner) (follows : Brackets rest later) :
      Brackets (opening :: (inside ++ closing :: rest)) (⟨opening, some closing⟩ :: (inner ++ later))

def WellNested (word : List Tag) : Prop :=
  ∃ elements, Brackets word elements

/-- The word closes the open tags, the innermost first, and is well nested between the tags
that do so. -/
def Closes : List Tag → List Tag → Prop
  | [], word => WellNested word
  | innermost :: outer, word =>
      ∃ inside closing rest, word = inside ++ closing :: rest ∧ WellNested inside ∧
        closing.kind = .closing ∧ closing.name = innermost.name ∧ Closes outer rest

variable {word inside rest : List Tag} {elements : List Element} {opening closing : Tag}

theorem WellNested.pair (opens : opening.kind = .opening) (closes : closing.kind = .closing)
    (level : closing.name = opening.name) (nested : WellNested inside)
    (follows : WellNested rest) : WellNested (opening :: (inside ++ closing :: rest)) := by
  obtain ⟨inner, nested⟩ := nested
  obtain ⟨later, follows⟩ := follows
  exact ⟨_, .pair opens closes level nested follows⟩

theorem Closes.pair {openTags : List Tag} (opens : opening.kind = .opening)
    (closes : closing.kind = .closing) (level : closing.name = opening.name)
    (nested : WellNested inside) (follows : Closes openTags rest) :
    Closes openTags (opening :: (inside ++ closing :: rest)) := by
  cases openTags with
  | nil => exact WellNested.pair opens closes level nested follows
  | cons innermost outer =>
      obtain ⟨between, last, after, rfl, within, ends, same, others⟩ := follows
      refine ⟨opening :: (inside ++ closing :: between), last, after, ?_, ?_, ends, same, others⟩
      · simp only [List.cons_append, List.append_assoc]
      · exact WellNested.pair opens closes level nested within

namespace Brackets

theorem matched (brackets : Brackets word elements) : ∀ element ∈ elements, element.Matched := by
  induction brackets with
  | empty => exact List.forall_mem_nil _
  | pair opens closes level _ _ inner later =>
      have first : Element.Matched ⟨_, some _⟩ := ⟨opens, _, rfl, closes, level⟩
      exact List.forall_mem_cons.mpr ⟨first, List.forall_mem_append.mpr ⟨inner, later⟩⟩

theorem openings (brackets : Brackets word elements) :
    elements.map (·.opening) = word.filter isOpening := by
  induction brackets with
  | empty => rfl
  | pair opens closes _ _ _ inner later =>
      rw [List.map_cons, List.map_append, inner, later,
        List.filter_cons_of_pos (by simp [isOpening, opens]), List.filter_append,
        List.filter_cons_of_neg (by simp [isOpening, closes])]

theorem rising (brackets : Brackets word elements) (ordered : Ordered word) :
    elements.Pairwise fun earlier later => earlier.start < later.start := by
  apply Element.rising_of_openings
  rw [brackets.openings]
  exact ordered.sublist List.filter_sublist

end Brackets

end Tag

def Document.headingTags (document : Document) : List Tag :=
  (document.tags.filter Rules.isHeading).filter Tag.isPaired

theorem Document.headingTags_ordered (document : Document) : Tag.Ordered document.headingTags :=
  document.tags_ordered.sublist (List.filter_sublist.trans List.filter_sublist)

namespace Rules

/-! ### The steps of pairing -/

section Steps

theorem ok_of_map_eq_ok {α β : Type} {step : α → β} {result : Except Finding α} {made : β}
    (mapped : result.map step = .ok made) : ∃ found, result = .ok found ∧ step found = made := by
  cases result with
  | error finding => cases mapped
  | ok found => exact ⟨found, rfl, Except.ok.inj mapped⟩

theorem error_of_map_eq_error {α β : Type} {step : α → β} {result : Except Finding α}
    {finding : Finding} (mapped : result.map step = .error finding) : result = .error finding := by
  cases result with
  | error found => exact congrArg Except.error (Except.error.inj mapped)
  | ok found => cases mapped

variable {openTags outer rest : List Tag} {innermost tag : Tag}

theorem pairHeadingsFrom_opening (kind : tag.kind = .opening) :
    pairHeadingsFrom openTags (tag :: rest) = pairHeadingsFrom (tag :: openTags) rest := by
  simp only [pairHeadingsFrom, kind]

theorem pairHeadingsFrom_selfClosing (kind : tag.kind = .selfClosing) :
    pairHeadingsFrom openTags (tag :: rest) = pairHeadingsFrom openTags rest := by
  simp only [pairHeadingsFrom, kind]

theorem pairHeadingsFrom_closing (kind : tag.kind = .closing) (level : tag.name = innermost.name) :
    pairHeadingsFrom (innermost :: outer) (tag :: rest) =
      (pairHeadingsFrom outer rest).map (⟨innermost, some tag⟩ :: ·) := by
  simp only [pairHeadingsFrom, kind, level, if_true]

/-- A closing tag that is not at fault closes the innermost open tag. -/
theorem exists_of_pairHeadingsFrom_closing (kind : tag.kind = .closing) {headings : List Element}
    (paired : pairHeadingsFrom openTags (tag :: rest) = .ok headings) :
    ∃ innermost outer later, openTags = innermost :: outer ∧ tag.name = innermost.name ∧
      pairHeadingsFrom outer rest = .ok later ∧ headings = ⟨innermost, some tag⟩ :: later := by
  cases openTags with
  | nil =>
      simp only [pairHeadingsFrom, kind] at paired
      cases paired
  | cons innermost outer =>
      by_cases level : innermost.name = tag.name
      · rw [pairHeadingsFrom_closing kind level.symm] at paired
        obtain ⟨later, inner, rfl⟩ := ok_of_map_eq_ok paired
        exact ⟨innermost, outer, later, rfl, level.symm, inner, rfl⟩
      · simp only [pairHeadingsFrom, kind, if_neg level] at paired
        cases paired

end Steps

theorem pairHeadingsFrom_nil {openTags : List Tag} {headings : List Element}
    (paired : pairHeadingsFrom openTags [] = .ok headings) : openTags = [] ∧ headings = [] := by
  cases openTags with
  | nil =>
      cases paired
      exact ⟨rfl, rfl⟩
  | cons innermost outer => cases paired

private theorem pairHeadingsFrom_filter (name : String) {openTags tags : List Tag}
    {headings : List Element} (paired : pairHeadingsFrom openTags tags = .ok headings) :
    headings.filter (fun heading => heading.opening.name == name) =
      Element.pairFrom (Tag.named openTags name) (Tag.named tags name) := by
  induction tags generalizing openTags headings with
  | nil =>
      obtain ⟨rfl, rfl⟩ := pairHeadingsFrom_nil paired
      rfl
  | cons tag rest ih =>
      cases kind : tag.kind with
      | opening =>
          rw [pairHeadingsFrom_opening kind] at paired
          rw [ih paired]
          by_cases same : tag.name = name
          · rw [Tag.named_cons_of_eq same, Tag.named_cons_of_eq same, Element.pairFrom_opening kind]
          · rw [Tag.named_cons_of_ne same, Tag.named_cons_of_ne same]
      | selfClosing =>
          rw [pairHeadingsFrom_selfClosing kind] at paired
          rw [ih paired]
          by_cases same : tag.name = name
          · rw [Tag.named_cons_of_eq same, Element.pairFrom_selfClosing kind]
          · rw [Tag.named_cons_of_ne same]
      | closing =>
          obtain ⟨innermost, outer, later, rfl, level, inner, rfl⟩ :=
            exists_of_pairHeadingsFrom_closing kind paired
          have deeper := ih inner
          by_cases same : tag.name = name
          · have opens : innermost.name = name := level.symm.trans same
            rw [Tag.named_cons_of_eq same, Tag.named_cons_of_eq opens,
              Element.pairFrom_closing kind, List.filter_cons_of_pos (by simpa using opens), deeper]
          · have opens : innermost.name ≠ name := fun named => same (level.trans named)
            rw [Tag.named_cons_of_ne same, Tag.named_cons_of_ne opens,
              List.filter_cons_of_neg (by simpa using opens), deeper]

/-! ### When pairing succeeds -/

private theorem pairHeadingsFrom_paired (openTags tags : List Tag) :
    pairHeadingsFrom openTags (tags.filter Tag.isPaired) = pairHeadingsFrom openTags tags := by
  induction tags generalizing openTags with
  | nil => rfl
  | cons tag rest ih =>
      cases kind : tag.kind with
      | opening =>
          rw [List.filter_cons_of_pos (by simp [Tag.isPaired, kind]),
            pairHeadingsFrom_opening kind, pairHeadingsFrom_opening kind, ih]
      | selfClosing =>
          rw [List.filter_cons_of_neg (by simp [Tag.isPaired, kind]),
            pairHeadingsFrom_selfClosing kind, ih]
      | closing =>
          rw [List.filter_cons_of_pos (by simp [Tag.isPaired, kind])]
          cases openTags <;> simp only [pairHeadingsFrom, kind, ih]

private theorem pairHeadingsFrom_brackets {word : List Tag} {elements : List Element}
    (brackets : Tag.Brackets word elements) :
    ∃ found : List Element, found.Perm elements ∧ ∀ openTags rest,
      pairHeadingsFrom openTags (word ++ rest) =
        (pairHeadingsFrom openTags rest).map (found ++ ·) := by
  induction brackets with
  | empty =>
      refine ⟨[], List.Perm.refl _, ?_⟩
      intro openTags rest
      rw [List.nil_append]
      cases pairHeadingsFrom openTags rest <;> rfl
  | @pair opening closing inside follow inner later opens closes level _ _ ihInside ihFollow =>
      obtain ⟨first, firstPerm, insideEq⟩ := ihInside
      obtain ⟨second, secondPerm, followEq⟩ := ihFollow
      refine ⟨first ++ ⟨opening, some closing⟩ :: second, ?_, ?_⟩
      · exact List.perm_middle.trans ((firstPerm.append secondPerm).cons _)
      · intro openTags rest
        rw [List.cons_append, List.append_assoc, List.cons_append, pairHeadingsFrom_opening opens,
          insideEq, pairHeadingsFrom_closing closes level, followEq]
        cases pairHeadingsFrom openTags rest with
        | error finding => rfl
        | ok others =>
            simp only [Except.map, List.append_assoc, List.cons_append]

private theorem closes_of_pairHeadingsFrom {openTags tags : List Tag} {headings : List Element}
    (paired : pairHeadingsFrom openTags tags = .ok headings) :
    Tag.Closes openTags (tags.filter Tag.isPaired) := by
  induction tags generalizing openTags headings with
  | nil =>
      obtain ⟨rfl, -⟩ := pairHeadingsFrom_nil paired
      exact ⟨[], .empty⟩
  | cons tag rest ih =>
      cases kind : tag.kind with
      | opening =>
          rw [pairHeadingsFrom_opening kind] at paired
          obtain ⟨inside, closing, after, split, nested, closes, level, follows⟩ := ih paired
          rw [List.filter_cons_of_pos (by simp [Tag.isPaired, kind]), split]
          exact Tag.Closes.pair kind closes level nested follows
      | selfClosing =>
          rw [pairHeadingsFrom_selfClosing kind] at paired
          rw [List.filter_cons_of_neg (by simp [Tag.isPaired, kind])]
          exact ih paired
      | closing =>
          obtain ⟨innermost, outer, later, rfl, level, inner, -⟩ :=
            exists_of_pairHeadingsFrom_closing kind paired
          rw [List.filter_cons_of_pos (by simp [Tag.isPaired, kind])]
          exact ⟨[], tag, rest.filter Tag.isPaired, rfl, ⟨[], .empty⟩, kind, level, ih inner⟩

variable {document : Document} {headings : List Element}

theorem pairHeadings_of_brackets (brackets : Tag.Brackets document.headingTags headings) :
    pairHeadings document = .ok headings := by
  obtain ⟨found, perm, passed⟩ := pairHeadingsFrom_brackets brackets
  have whole : pairHeadingsFrom [] document.headingTags = .ok found := by
    have alone := passed [] []
    rw [List.append_nil] at alone
    rw [alone, pairHeadingsFrom, Except.map, List.append_nil]
  rw [Document.headingTags, pairHeadingsFrom_paired] at whole
  rw [pairHeadings, whole, Except.map,
    Element.sortByStart_eq_of_perm perm (brackets.rising document.headingTags_ordered)]

/-- The rule makes just those elements that the heading tags make as brackets. -/
theorem pairHeadings_eq_ok_iff :
    pairHeadings document = .ok headings ↔ Tag.Brackets document.headingTags headings := by
  constructor
  · intro paired
    obtain ⟨found, made, -⟩ := ok_of_map_eq_ok paired
    obtain ⟨elements, brackets⟩ := closes_of_pairHeadingsFrom made
    obtain rfl := Except.ok.inj ((pairHeadings_of_brackets brackets).symm.trans paired)
    exact brackets
  · exact pairHeadings_of_brackets

/-! ### Headings of one level -/

private theorem named_headings {name : String} (level : name ∈ Vocabulary.headings)
    (tags : List Tag) : Tag.named (tags.filter isHeading) name = Tag.named tags name := by
  unfold Tag.named
  rw [List.filter_filter]
  apply List.filter_congr
  intro tag _
  by_cases same : tag.name = name
  · simp [isHeading, same, level]
  · simp [same]

/-- With one stack for all levels the headings of a level are those that its tags
make alone. -/
theorem pair_eq_filter {name : String} (paired : pairHeadings document = .ok headings)
    (level : name ∈ Vocabulary.headings) :
    Element.pair document.tags name =
      headings.filter fun heading => heading.opening.name == name := by
  have rising := (pairHeadings_eq_ok_iff.mp paired).rising document.headingTags_ordered
  obtain ⟨found, made, rfl⟩ := ok_of_map_eq_ok paired
  have single := pairHeadingsFrom_filter name made
  rw [named_headings level, show Tag.named [] name = [] from rfl] at single
  rw [Element.pair, ← single]
  exact Element.sortByStart_eq_of_perm ((Element.sortByStart_perm found).symm.filter _)
    (rising.sublist List.filter_sublist)

theorem mem_of_mem_pair {name : String} {element : Element}
    (paired : pairHeadings document = .ok headings) (level : name ∈ Vocabulary.headings)
    (member : element ∈ Element.pair document.tags name) : element ∈ headings := by
  rw [pair_eq_filter paired level] at member
  exact (List.mem_filter.mp member).1

/-! ### The pairs of the rule and of extraction -/

theorem isHeading_of_brackets (brackets : Tag.Brackets document.headingTags headings) :
    ∀ heading ∈ headings, isHeading heading.opening = true := by
  intro heading member
  have opening : heading.opening ∈ document.headingTags.filter Tag.isOpening := by
    rw [← brackets.openings]
    exact List.mem_map.mpr ⟨heading, member, rfl⟩
  have listed := (List.mem_filter.mp (List.mem_filter.mp opening).1).1
  exact (List.mem_filter.mp listed).2

/-- The headings of the rule are the closed elements of the six levels. -/
theorem eq_sort_pairs_of_brackets (brackets : Tag.Brackets document.headingTags headings) :
    headings = Element.sortByStart
      ((Vocabulary.headings.flatMap (Element.pair document.tags)).filter Element.isClosed) := by
  have all : headings.filter (fun heading => Vocabulary.headings.contains heading.opening.name) =
      headings := List.filter_eq_self.mpr (isHeading_of_brackets brackets)
  refine (Eq.trans ?_ all).symm
  apply Element.sort_pairs_of_each (by decide)
  · exact fun heading member => (brackets.matched heading member).isClosed
  · exact brackets.rising document.headingTags_ordered
  · exact fun name level => pair_eq_filter (pairHeadings_of_brackets brackets) level

theorem heading_pairings_agree (document : Document) :
    ((∃ headings, pairHeadings document = .ok headings) ↔
        Tag.WellNested document.headingTags) ∧
      ∀ headings, pairHeadings document = .ok headings →
        headings = Element.sortByStart
          ((Vocabulary.headings.flatMap (Element.pair document.tags)).filter Element.isClosed) ∧
        (∀ name ∈ Vocabulary.headings, ∀ element ∈ Element.pair document.tags name,
          element.isClosed = true) ∧
        ∃ leaves, Outline.heading document.source = some leaves ∧
          List.Forall₂ (fun heading leaf => ∃ inner,
            document.slice? (heading.innerSpan document.length) = some inner ∧
              leaf = .leaf heading.opening.name (String.ofList (Text.trim inner))
                heading.opening.attributeMap) headings leaves := by
  constructor
  · constructor
    · rintro ⟨headings, paired⟩
      exact ⟨headings, pairHeadings_eq_ok_iff.mp paired⟩
    · rintro ⟨headings, brackets⟩
      exact ⟨headings, pairHeadings_of_brackets brackets⟩
  · intro headings paired
    have brackets := pairHeadings_eq_ok_iff.mp paired
    have listed := eq_sort_pairs_of_brackets brackets
    refine ⟨listed, ?_, Outline.leafNodes Vocabulary.headings document.source,
      Outline.leaves_eq _ _, ?_⟩
    · intro name level element member
      exact (brackets.matched element (mem_of_mem_pair paired level member)).isClosed
    · have same : Outline.closedElements document.source Vocabulary.headings = headings := by
        rw [listed, document.tags_eq_scan]
        rfl
      rw [Outline.leafNodes, same, List.forall₂_map_right_iff, List.forall₂_same]
      intro heading member
      rw [← same] at member
      obtain ⟨name, -, made, -⟩ := Outline.mem_closedElements.mp member
      exact ⟨heading.inside document.source, Element.inner?_eq_inside made, rfl⟩

def nestedHeadings : Document :=
  .ofText "<h1>A<h2> B<h1/> </h2></h1><h2>C</h2>".toList

theorem heading_pairings_agree_on_nested_headings :
    ∃ headings, pairHeadings nestedHeadings = .ok headings ∧
      headings.map (fun heading => (heading.start, heading.closing.map (·.span.start))) =
        [(0, some 22), (5, some 17), (27, some 32)] ∧
      Tag.WellNested nestedHeadings.headingTags ∧
      (∀ name ∈ Vocabulary.headings, ∀ element ∈ Element.pair nestedHeadings.tags name,
        element.isClosed = true) ∧
      Outline.heading nestedHeadings.source =
        some [.leaf "h1" "A<h2> B<h1/> </h2>" [], .leaf "h2" "B<h1/>" [], .leaf "h2" "C" []] := by
  obtain ⟨nested, agree⟩ := heading_pairings_agree nestedHeadings
  have ok : (pairHeadings nestedHeadings).isOk = true := by decide +kernel
  cases paired : pairHeadings nestedHeadings with
  | error finding =>
      rw [paired] at ok
      cases ok
  | ok headings =>
      obtain ⟨listed, closed, -⟩ := agree headings paired
      refine ⟨headings, rfl, ?_, nested.mp ⟨headings, paired⟩, closed, rfl⟩
      rw [listed]
      decide +kernel

end Rules

end PageCheck
