import PageCheck.Proofs.Extraction
import PageCheck.Proofs.Skeleton

/-! Rules and extraction always come to an answer.  A text can be cut between any two
characters, and every place where a rule cuts the source is the beginning or the end of
a text, of a tag or of a declaration.  So no slice fails, no component has to be given
up, and no chain reports one that was. -/

set_option autoImplicit false

namespace PageCheck

/-! ### Where a text can be cut -/

namespace Text

/-- The offset falls between two characters of the text, or at one of its ends. -/
def Boundary (text : List Char) (offset : Nat) : Prop :=
  ∃ before after, text = before ++ after ∧ byteLength before = offset

theorem boundary_zero (text : List Char) : Boundary text 0 :=
  ⟨[], text, rfl, rfl⟩

theorem boundary_length (text : List Char) : Boundary text (byteLength text) :=
  ⟨text, [], (List.append_nil text).symm, rfl⟩

theorem Boundary.max {text : List Char} {first second : Nat} (left : Boundary text first)
    (right : Boundary text second) : Boundary text (max first second) := by
  rcases Nat.le_total first second with le | ge
  · rwa [Nat.max_eq_right le]
  · rwa [Nat.max_eq_left ge]

/-- A slice fails unless it has two boundaries in order. -/
theorem slice?_isSome_iff {text : List Char} {span : Span} :
    (slice? text span).isSome = true ↔
      span.start ≤ span.stop ∧ Boundary text span.start ∧ Boundary text span.stop := by
  constructor
  · intro cut
    obtain ⟨part, partEq⟩ := Option.isSome_iff_exists.mp cut
    obtain ⟨before, after, rfl, rfl⟩ := slice?_eq_some partEq
    exact ⟨Nat.le_add_right _ _, ⟨before, part ++ after, rfl, rfl⟩,
      ⟨before ++ part, after, (List.append_assoc _ _ _).symm, byteLength_append before part⟩⟩
  · rintro ⟨le, ⟨before, rest, textEq, first⟩, ⟨front, after, sameText, last⟩⟩
    obtain ⟨start, stop⟩ := span
    simp only at le first last
    subst first last
    obtain ⟨part, rfl, rfl⟩ := append_of_byteLength_le (textEq.symm.trans sameText) le
    rw [textEq, byteLength_append, slice?_append]
    rfl

theorem exists_slice {text : List Char} {start stop : Nat} (le : start ≤ stop)
    (first : Boundary text start) (last : Boundary text stop) :
    ∃ part, slice? text ⟨start, stop⟩ = some part :=
  Option.isSome_iff_exists.mp (slice?_isSome_iff.mpr ⟨le, first, last⟩)

end Text

open Text (Boundary boundary_zero boundary_length exists_slice)

namespace Pattern

theorem Sound.boundaries {α : Type} {pattern : Pattern α} (sound : pattern.Sound)
    {text : List Char} {span : Span} (member : span ∈ pattern.spans text) :
    Boundary text span.start ∧ Boundary text span.stop := by
  obtain ⟨found, present, rfl⟩ := List.mem_map.mp member
  obtain ⟨before, reading, after, rfl, -, -, spanEq⟩ := sound.found present
  rw [spanEq]
  exact ⟨⟨before, _, rfl, rfl⟩,
    ⟨before ++ reading.text, after, (List.append_assoc _ _ _).symm, Text.byteLength_append _ _⟩⟩

end Pattern

namespace Document

variable {document : Document}

theorem boundaries {tag : Tag} (member : tag ∈ document.tags) :
    Boundary document.source tag.span.start ∧ Boundary document.source tag.span.stop := by
  rw [document.tags_eq_scan] at member
  exact TagText.bracketed.sound.boundaries (Tag.span_mem_of_mem_scan member)

def Holds (document : Document) (element : Element) : Prop :=
  element.opening ∈ document.tags ∧ ∀ closing ∈ element.closing, closing ∈ document.tags

theorem holds_of_mem_pair {name : String} {element : Element}
    (member : element ∈ Element.pair document.tags name) : document.Holds element :=
  ⟨(Element.opening_mem_of_mem_pair member).1, fun _ closed =>
    (Element.closing_mem_of_mem_pair document.tags_ordered member closed).1⟩

theorem Holds.boundary_stop {element : Element} (holds : document.Holds element) :
    Boundary document.source (element.innerSpan document.length).stop := by
  obtain ⟨opens, closes⟩ := holds
  refine Boundary.max ?_ (boundaries opens).2
  cases closed : element.closing with
  | none => exact boundary_length document.source
  | some closing => exact (boundaries (closes closing closed)).1

/-- The inside of an element can be cut out, whether it is closed or not. -/
theorem Holds.exists_slice {element : Element} (holds : document.Holds element) :
    ∃ part, document.slice? (element.innerSpan document.length) = some part :=
  Text.exists_slice (Nat.le_max_right _ _) (boundaries holds.1).2 holds.boundary_stop

end Document

/-! ### Verdicts -/

/-- A verdict that no component had to be given up for. -/
def Verdict.Ordinary (verdict : Verdict) : Prop :=
  ∀ finding ∈ verdict.errors ++ verdict.warnings, finding.kind ≠ .internal

namespace Rules

def Settled (outcome : Option Verdict) : Prop :=
  ∃ verdict, outcome = some verdict ∧ verdict.Ordinary

/-- The two ways in which a rule ends: it stops at a fault of the page, or it finds none,
and then it may have warnings. -/
inductive Concludes : Option Verdict → Prop where
  | failed {finding : Finding} (kind : finding.kind ≠ .internal) :
      Concludes (some (.failed finding))
  | passed {warnings : List Finding} (kinds : ∀ finding ∈ warnings, finding.kind ≠ .internal) :
      Concludes (some ⟨true, [], warnings⟩)

theorem Concludes.settled {outcome : Option Verdict} (concludes : Concludes outcome) :
    Settled outcome := by
  cases concludes with
  | failed kind =>
      refine ⟨_, rfl, ?_⟩
      simp [Verdict.Ordinary, Verdict.failed, Verdict.addError, Verdict.clean, kind]
  | passed kinds => exact ⟨_, rfl, kinds⟩

theorem concludes_clean : Concludes (some .clean) :=
  .passed nofun

theorem concludes_warned {finding : Finding} (kind : finding.kind ≠ .internal) :
    Concludes (some (Verdict.clean.addWarning finding)) :=
  .passed (List.forall_mem_singleton.mpr kind)

theorem concludes_bind {slice : Option (List Char)} {next : List Char → Option Verdict}
    (cut : ∃ part, slice = some part) (each : ∀ part, Concludes (next part)) :
    Concludes (slice >>= next) := by
  obtain ⟨part, rfl⟩ := cut
  exact each part

variable (document : Document)

theorem doctype_concludes : Concludes (doctype document) := by
  unfold doctype
  split
  · exact .failed nofun
  · rename_i declaration found
    have boundary := (Doctype.bracketed.sound.boundaries (List.mem_of_find?_eq_some found)).1
    refine concludes_bind (exists_slice (Nat.zero_le _) (boundary_zero _) boundary) fun before => ?_
    split
    · exact concludes_clean
    · exact .failed nofun

private theorem rootContent_kind {inside : List Tag} {finding : Finding}
    (found : rootContent inside = some finding) : finding.kind ≠ .internal := by
  unfold rootContent at found
  split at found
  · cases found
    nofun
  · split at found
    · cases found
    · split at found
      · cases found
        nofun
      · cases found
  · cases found
    nofun

theorem root_concludes : Concludes (root document) := by
  unfold root
  simp only
  split
  · exact .failed nofun
  · rename_i opening others openings
    have opens := Document.boundaries (Document.mem_openings openings).1
    split
    · exact .failed nofun
    · rename_i closing last
      have closes := (Tag.mem_named.mp (List.mem_filter.mp (List.mem_of_getLast? last)).1).1
      have inText := Document.stop_le_length closes
      split
      · exact .failed nofun
      · refine concludes_bind (exists_slice (Nat.zero_le _) (boundary_zero _) opens.1)
          fun before => ?_
        split
        · exact .failed nofun
        · refine concludes_bind (exists_slice inText (Document.boundaries closes).2
            (boundary_length _)) fun after => ?_
          split
          · exact .failed nofun
          · split
            · rename_i finding found
              exact .failed (rootContent_kind found)
            · split
              · exact concludes_clean
              · exact concludes_warned nofun

private theorem exists_gapBefore {tag : Tag} (member : tag ∈ document.tags) :
    ∃ gap, gapBefore? document tag.span.start = some gap := by
  unfold gapBefore?
  split
  · exact ⟨[], rfl⟩
  · rename_i opening found
    have before := List.find?_some found
    rw [Bool.and_eq_true, decide_eq_true_eq] at before
    have opens := (Tag.mem_named.mp (List.mem_of_find?_eq_some found)).1
    exact exists_slice before.2 (Document.boundaries opens).2 (Document.boundaries member).1

private theorem headContent_concludes (opening : Tag) :
    Concludes (some (headContent document opening)) := by
  unfold headContent
  split
  · exact .failed nofun
  · split
    · exact concludes_clean
    · exact .failed nofun

theorem head_concludes : Concludes (head document) := by
  unfold head
  split
  · exact .failed nofun
  · rename_i opening others openings
    have opens := (Document.mem_openings openings).1
    split
    · exact .failed nofun
    · refine concludes_bind (exists_gapBefore document opens) fun gap => ?_
      split
      · exact headContent_concludes document opening
      · exact .failed nofun

theorem body_concludes : Concludes (body document) := by
  unfold body
  split
  · exact concludes_clean
  · split
    · exact concludes_clean
    · rename_i element first
      have cut := (Document.holds_of_mem_pair (Element.mem_pair_of_first? first)).exists_slice
      unfold bodyContent
      simp only
      split
      · exact .failed nofun
      · refine concludes_bind cut fun content => ?_
        split
        · exact .failed nofun
        · split
          · rename_i finding found
            obtain ⟨entry, -, rfl⟩ := Option.map_eq_some_iff.mp found
            exact .failed nofun
          · split
            · exact concludes_warned nofun
            · exact concludes_clean
  · exact .failed nofun

private theorem titleText_kind {text : List Char} {finding : Finding}
    (found : titleText text = some finding) : finding.kind ≠ .internal := by
  unfold titleText at found
  split at found
  · cases found
    nofun
  · split at found
    · cases found
    · cases found
      nofun

private theorem exists_slice_title {head title : Element} (headHolds : document.Holds head)
    (titleHolds : document.Holds title) :
    ∃ part, document.slice? (titleSpan title (head.innerSpan document.length)) = some part := by
  have opens := (Document.boundaries titleHolds.1).2
  refine exists_slice (Nat.le_max_right _ _) opens (Text.Boundary.max ?_ opens)
  cases closed : title.closing with
  | none => exact headHolds.boundary_stop
  | some closing => exact (Document.boundaries (titleHolds.2 closing closed)).1

theorem title_concludes : Concludes (title document) := by
  unfold title
  simp only
  split
  · exact .failed nofun
  · rename_i title inside found
    obtain ⟨head, first, found⟩ := Option.bind_eq_some_iff.mp found
    obtain ⟨element, inHead, found⟩ := Option.bind_eq_some_iff.mp found
    cases found
    split
    · exact .failed nofun
    · refine concludes_bind (exists_slice_title document
        (Document.holds_of_mem_pair (Element.mem_pair_of_first? first))
        (Document.holds_of_mem_pair (List.mem_of_find?_eq_some inHead))) fun text => ?_
      split
      · rename_i finding faulty
        exact .failed (titleText_kind faulty)
      · exact concludes_clean

/-! ### Rules for many elements -/

def PairedSoundly (document : Document) : Except Finding (List Element) → Prop
  | .error finding => finding.kind ≠ .internal
  | .ok headings => ∀ heading ∈ headings, document.Holds heading

theorem pairHeadingsFrom_sound {openTags tags : List Tag}
    (opened : ∀ tag ∈ openTags, tag ∈ document.tags)
    (listed : ∀ tag ∈ tags, tag ∈ document.tags) :
    PairedSoundly document (pairHeadingsFrom openTags tags) := by
  induction tags generalizing openTags with
  | nil =>
      cases openTags with
      | nil => exact List.forall_mem_nil _
      | cons innermost outer => exact nofun
  | cons tag rest ih =>
      obtain ⟨here, later⟩ := List.forall_mem_cons.mp listed
      cases kind : tag.kind with
      | opening =>
          simp only [pairHeadingsFrom, kind]
          exact ih (List.forall_mem_cons.mpr ⟨here, opened⟩) later
      | selfClosing =>
          simp only [pairHeadingsFrom, kind]
          exact ih opened later
      | closing =>
          cases openTags with
          | nil =>
              simp only [pairHeadingsFrom, kind]
              exact nofun
          | cons innermost outer =>
              obtain ⟨opens, below⟩ := List.forall_mem_cons.mp opened
              have others := ih below later
              simp only [pairHeadingsFrom, kind]
              split
              · cases inner : pairHeadingsFrom outer rest with
                | error finding =>
                    rw [inner] at others
                    exact others
                | ok headings =>
                    rw [inner] at others
                    refine List.forall_mem_cons.mpr ⟨⟨opens, ?_⟩, others⟩
                    intro closing closed
                    cases closed
                    exact here
              · exact nofun

theorem pairHeadings_sound : PairedSoundly document (pairHeadings document) := by
  have listed : ∀ tag ∈ document.tags.filter isHeading, tag ∈ document.tags :=
    fun tag member => (List.mem_filter.mp member).1
  have sound := pairHeadingsFrom_sound document (List.forall_mem_nil _) listed
  unfold pairHeadings
  cases paired : pairHeadingsFrom [] (document.tags.filter isHeading) with
  | error finding =>
      rw [paired] at sound
      exact sound
  | ok headings =>
      rw [paired] at sound
      intro heading member
      exact sound heading (Element.mem_sortByStart.mp member)

private theorem headingContents_concludes {headings : List Element}
    (holds : ∀ heading ∈ headings, document.Holds heading) :
    Concludes (headingContents document headings) := by
  induction headings with
  | nil => exact concludes_clean
  | cons heading rest ih =>
      obtain ⟨here, later⟩ := List.forall_mem_cons.mp holds
      unfold headingContents
      refine concludes_bind here.exists_slice fun text => ?_
      split
      · exact .failed nofun
      · split
        · exact .failed nofun
        · exact ih later

theorem heading_concludes : Concludes (heading document) := by
  have sound := pairHeadings_sound document
  unfold heading
  cases paired : pairHeadings document with
  | error finding =>
      rw [paired] at sound
      exact .failed sound
  | ok headings =>
      rw [paired] at sound
      exact headingContents_concludes document sound

private theorem turns_kind {name plural : String} {depth : Nat} {tags : List Tag}
    {finding : Finding} (found : turns name plural depth tags = some finding) :
    finding.kind ≠ .internal := by
  induction tags generalizing depth with
  | nil => cases found
  | cons tag rest ih =>
      simp only [turns] at found
      split at found
      · split at found
        · exact ih found
        · cases found
          nofun
      · split at found
        · cases found
          nofun
        · exact ih found

private theorem balance_kind {name plural : String} {finding : Finding}
    (found : balance document name plural = some finding) : finding.kind ≠ .internal := by
  unfold balance at found
  simp only at found
  split at found
  · cases found
    nofun
  · exact turns_kind found

private theorem emptyParagraphs_concludes {paragraphs : List Element}
    (cuts : ∀ element ∈ paragraphs, ∃ part, element.inner? document.source = some part) :
    ∃ warnings, emptyParagraphs document paragraphs = some warnings ∧
      ∀ finding ∈ warnings, finding.kind ≠ .internal := by
  induction paragraphs with
  | nil => exact ⟨[], rfl, nofun⟩
  | cons element rest ih =>
      obtain ⟨⟨part, cut⟩, later⟩ := List.forall_mem_cons.mp cuts
      obtain ⟨warnings, warned, kinds⟩ := ih later
      unfold emptyParagraphs
      rw [cut, warned]
      simp only [Option.bind_eq_bind, Option.bind_some]
      split
      · exact ⟨_, rfl, List.forall_mem_cons.mpr ⟨nofun, kinds⟩⟩
      · exact ⟨warnings, rfl, kinds⟩

private theorem exists_inner {name : String} :
    ∀ element ∈ Element.pair document.tags name,
      ∃ part, element.inner? document.source = some part := by
  intro element member
  exact (Document.holds_of_mem_pair member).exists_slice

theorem paragraph_concludes : Concludes (paragraph document) := by
  unfold paragraph
  split
  · rename_i finding found
    exact .failed (balance_kind document found)
  · simp only
    split
    · exact .failed nofun
    · obtain ⟨warnings, warned, kinds⟩ := emptyParagraphs_concludes document (exists_inner document)
      rw [warned, Option.map_some, Verdict.foldl_addWarning]
      exact .passed kinds

private theorem anchorContents_concludes {anchors : List Element}
    (cuts : ∀ element ∈ anchors, ∃ part, element.inner? document.source = some part) :
    Concludes (anchorContents document anchors) := by
  induction anchors with
  | nil => exact concludes_clean
  | cons anchor rest ih =>
      obtain ⟨cut, later⟩ := List.forall_mem_cons.mp cuts
      unfold anchorContents
      split
      · exact .failed nofun
      · split
        · exact ih later
        · split
          · exact .failed nofun
          · refine concludes_bind cut fun text => ?_
            split
            · exact .failed nofun
            · exact ih later

theorem anchor_concludes : Concludes (anchor document) := by
  unfold anchor
  split
  · rename_i finding found
    exact .failed (balance_kind document found)
  · exact anchorContents_concludes document (exists_inner document)

end Rules

/-! ### Components and chains -/

/-- Every validator stops at the first fault, or passes the page. -/
theorem Component.concludes (component : Component) (document : Document) :
    Rules.Concludes (component.validator.run document) := by
  cases component with
  | doctype => exact Rules.doctype_concludes document
  | html => exact Rules.root_concludes document
  | head => exact Rules.head_concludes document
  | body => exact Rules.body_concludes document
  | title => exact Rules.title_concludes document
  | heading => exact Rules.heading_concludes document
  | paragraph => exact Rules.paragraph_concludes document
  | anchor => exact Rules.anchor_concludes document
  | markdown => exact Rules.concludes_clean

theorem Component.settled (component : Component) (document : Document) :
    Rules.Settled (component.validator.run document) :=
  (component.concludes document).settled

theorem Component.extracts {component : Component} {extractor : Extractor}
    (extracts : component.extractor? = some extractor) (fragment : List Char) :
    ∃ forest, extractor.run fragment = some forest := by
  cases component <;> cases extracts
  · exact ⟨_, Outline.page_eq fragment⟩
  · exact ⟨_, Outline.head_eq fragment⟩
  · exact ⟨_, Outline.body_eq fragment⟩
  · exact ⟨_, Outline.title_eq fragment⟩
  · exact ⟨_, Outline.leaves_eq _ fragment⟩
  · exact ⟨_, Outline.leaves_eq _ fragment⟩
  · exact ⟨_, rfl⟩

namespace ValidatorChain

theorem members_eq {registry : Registry} {kind : InputKind} {chain : ValidatorChain}
    (resolved : ofRegistry registry kind = .ok chain) :
    ∀ member ∈ chain.members, member.2 = member.1.validator := by
  unfold ofRegistry at resolved
  cases components : registry.resolve kind .validator with
  | error defect =>
      rw [components] at resolved
      cases resolved
  | ok found =>
      rw [components] at resolved
      cases resolved
      intro member present
      obtain ⟨component, -, rfl⟩ := List.mem_map.mp present
      rfl

/-- When every member settles, so does their chain. -/
theorem run_ordinary {chain : ValidatorChain} {document : Document}
    (settled : ∀ member ∈ chain.members, Rules.Settled (member.2.run document)) :
    (chain.run document).Ordinary := by
  have own (member : Component × Validator) (present : member ∈ chain.members) :
      (contribution document member).Ordinary := by
    obtain ⟨verdict, ran, ordinary⟩ := settled member present
    unfold contribution
    rw [ran]
    exact ordinary
  rw [run_eq]
  intro finding found
  rcases List.mem_append.mp found with error | warning
  · obtain ⟨member, present, added⟩ := List.mem_flatMap.mp error
    exact own member present finding (List.mem_append_left _ added)
  · obtain ⟨member, present, added⟩ := List.mem_flatMap.mp warning
    exact own member present finding (List.mem_append_right _ added)

end ValidatorChain

namespace ExtractorChain

theorem members_eq {registry : Registry} {kind : InputKind} {chain : ExtractorChain}
    (resolved : ofRegistry registry kind = .ok chain) :
    ∀ member ∈ chain.members, member.1.extractor? = some member.2 := by
  unfold ofRegistry at resolved
  cases components : registry.resolve kind .extractor with
  | error defect =>
      rw [components] at resolved
      cases resolved
  | ok found =>
      rw [components] at resolved
      cases resolved
      intro member present
      obtain ⟨component, -, entry⟩ := List.mem_filterMap.mp present
      obtain ⟨extractor, extracts, rfl⟩ := Option.map_eq_some_iff.mp entry
      exact extracts

theorem exists_run_forall {members : List (Component × Extractor)} {fragment : List Char}
    {property : Node → Prop}
    (each : ∀ member ∈ members, ∃ forest, member.2.run fragment = some forest ∧
      ∀ node ∈ forest, property node) :
    ∃ parts, (members.mapM fun member => member.2.run fragment) = some parts ∧
      ∀ node ∈ parts.flatten, property node := by
  induction members with
  | nil => exact ⟨[], rfl, nofun⟩
  | cons member rest ih =>
      obtain ⟨⟨forest, found, holds⟩, later⟩ := List.forall_mem_cons.mp each
      obtain ⟨parts, others, hold⟩ := ih later
      refine ⟨forest :: parts, by rw [List.mapM_cons, found, others]; rfl, ?_⟩
      rw [List.flatten_cons]
      exact List.forall_mem_append.mpr ⟨holds, hold⟩

theorem exists_run {members : List (Component × Extractor)} {fragment : List Char}
    (total : ∀ member ∈ members, ∃ forest, member.2.run fragment = some forest) :
    ∃ parts, (members.mapM fun member => member.2.run fragment) = some parts := by
  have each : ∀ member ∈ members, ∃ forest, member.2.run fragment = some forest ∧
      ∀ node ∈ forest, True := by
    intro member present
    obtain ⟨forest, found⟩ := total member present
    exact ⟨forest, found, fun _ _ => trivial⟩
  obtain ⟨parts, found, -⟩ := exists_run_forall each
  exact ⟨parts, found⟩

end ExtractorChain

/-- A slice fails just when its ends are not two boundaries in order, and no slice fails:
every component comes to an answer by itself, and no chain that a registry gives holds a
finding about a component that was given up. -/
theorem Component.slices_never_fail (document : Document) :
    (∀ (text : List Char) (span : Span), (Text.slice? text span).isSome = true ↔
        span.start ≤ span.stop ∧ Boundary text span.start ∧ Boundary text span.stop) ∧
      (∀ component : Component,
        ∃ verdict, component.validator.run document = some verdict ∧ verdict.Ordinary) ∧
      (∀ component : Component, ∀ extractor ∈ component.extractor?,
        ∃ forest, extractor.run document.source = some forest) ∧
      ∀ (registry : Registry) (kind : InputKind),
        (∀ chain, ValidatorChain.ofRegistry registry kind = .ok chain →
          (chain.run document).Ordinary) ∧
        ∀ chain, ExtractorChain.ofRegistry registry kind = .ok chain →
          ∃ forest, chain.run document = some forest := by
  refine ⟨fun text span => Text.slice?_isSome_iff, fun component => component.settled document,
    fun component extractor extracts => Component.extracts extracts document.source,
    fun registry kind => ⟨fun chain resolved => ?_, fun chain resolved => ?_⟩⟩
  · apply ValidatorChain.run_ordinary
    intro member present
    rw [ValidatorChain.members_eq resolved member present]
    exact member.1.settled document
  · have total : ∀ member ∈ chain.members,
        ∃ forest, member.2.run document.source = some forest := by
      intro member present
      exact Component.extracts (ExtractorChain.members_eq resolved member present) _
    obtain ⟨parts, found⟩ := ExtractorChain.exists_run total
    exact ⟨parts.flatten, by unfold ExtractorChain.run; rw [found]; rfl⟩

theorem Component.slices_never_fail_in_torn_page :
    ∃ chain, ValidatorChain.ofRegistry Registry.standard .html = .ok chain ∧
      (chain.run (.ofText "é<html><body>ü<!-- ß --><p>€</h1".toList)).Ordinary := by
  have resolved : ValidatorChain.ofRegistry Registry.standard .html =
      .ok Engine.standard.html.validators := rfl
  exact ⟨_, resolved,
    ((Component.slices_never_fail _).2.2.2 Registry.standard .html).1 _ resolved⟩

end PageCheck
