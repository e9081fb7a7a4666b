import PageCheck.Proofs.CleanVerdicts
import PageCheck.Proofs.HeadingPairs
import PageCheck.Proofs.Totality

/-! The language of the heading rule.  The rule pairs headings as brackets, which lets one
heading stand in another, and then looks for block-level tags between the tags of each.
Since headings are block-level themselves, it accepts headings in a row only.  Its one
finding is about the markup if the pairs cannot be made, and else about the first heading
that is at fault. -/

set_option autoImplicit false

namespace PageCheck

open ValidatorChain (Accepts)

namespace Rules

/-- Between the tags of the heading there is visible text, but no block-level tag. -/
def Proper (document : Document) (heading : Element) : Prop :=
  ∃ closing text, heading.closing = some closing ∧
    document.slice? ⟨heading.opening.span.stop, closing.span.start⟩ = some text ∧
    Content.visible text ≠ [] ∧
    ∀ tag ∈ document.tags, heading.opening.span.stop ≤ tag.span.start →
      tag.span.stop ≤ closing.span.start → tag.name ∉ Vocabulary.blockLevel

variable {document : Document} {headings : List Element}

/-! ### What the rule looks at -/

theorem mem_pair_of_brackets (brackets : Tag.Brackets document.headingTags headings)
    {heading : Element} (member : heading ∈ headings) :
    heading ∈ Element.pair document.tags heading.opening.name := by
  have level : heading.opening.name ∈ Vocabulary.headings := by
    simpa [isHeading] using isHeading_of_brackets brackets heading member
  rw [pair_eq_filter (pairHeadings_of_brackets brackets) level]
  exact List.mem_filter.mpr ⟨member, beq_self_eq_true _⟩

/-- What the rule demands of a heading that it has made, seen from its tags. -/
theorem soundHeading_iff_proper (brackets : Tag.Brackets document.headingTags headings)
    {heading : Element} (member : heading ∈ headings) :
    SoundHeading document heading ↔ Proper document heading := by
  obtain ⟨closing, closed, -⟩ := (brackets.matched heading member).closes
  obtain ⟨-, -, -, behind⟩ := Element.closing_mem_of_mem_pair document.tags_ordered
    (mem_pair_of_brackets brackets member) closed
  unfold SoundHeading Proper
  rw [Element.innerSpan_of_closing closed behind, blockLevelIn?_eq_none_iff]
  constructor
  · rintro ⟨text, cut, seen, free⟩
    exact ⟨closing, text, closed, cut, seen, free⟩
  · rintro ⟨last, text, lastClosed, cut, seen, free⟩
    obtain rfl : closing = last := Option.some.inj (closed.symm.trans lastClosed)
    exact ⟨text, cut, seen, free⟩

/-! ### Headings in a row -/

theorem brackets_of_row {elements : List Element}
    (matched : ∀ element ∈ elements, element.Matched) :
    Tag.Brackets (elements.flatMap Element.tags) elements := by
  induction elements with
  | nil => exact .empty
  | cons element rest ih =>
      obtain ⟨⟨opens, closing, closed, closes, level⟩, others⟩ := List.forall_mem_cons.mp matched
      have row := Tag.Brackets.pair opens closes level .empty (ih others)
      rw [List.flatMap_cons, Element.tags, closed]
      rw [← closed] at row
      exact row

private theorem row_of_proper {word : List Tag} {elements : List Element}
    (brackets : Tag.Brackets word elements) (ordered : Tag.Ordered word)
    (listed : ∀ tag ∈ word, tag ∈ document.headingTags)
    (proper : ∀ element ∈ elements, Proper document element) :
    word = elements.flatMap Element.tags := by
  induction brackets with
  | empty => rfl
  | @pair opening closing inside rest inner later _ _ _ nested _ _ ihRest =>
      obtain ⟨here, others⟩ := List.forall_mem_cons.mp proper
      cases inside with
      | nil =>
          cases nested
          have restSublist : rest.Sublist (opening :: ([] ++ closing :: rest)) :=
            (List.sublist_cons_self _ _).cons _
          have row := ihRest (ordered.sublist restSublist)
            (fun tag member => listed tag (restSublist.subset member)) others
          rw [List.nil_append, List.nil_append, List.flatMap_cons, ← row]
          rfl
      | cons first inside =>
          exfalso
          obtain ⟨last, text, closed, -, -, free⟩ := here
          obtain rfl : closing = last := Option.some.inj closed
          obtain ⟨follow, insideOrdered⟩ := List.pairwise_cons.mp ordered.pairwise
          obtain ⟨present, level⟩ := List.mem_filter.mp
            (List.mem_filter.mp (listed first (by simp))).1
          have headingLevel : first.name ∈ Vocabulary.headings := by simpa [isHeading] using level
          have blocks : ∀ name ∈ Vocabulary.headings, name ∈ Vocabulary.blockLevel := by decide
          apply free first present
          · exact follow first (by simp)
          · exact (List.pairwise_cons.mp insideOrdered).1 closing (by simp)
          · exact blocks _ headingLevel

theorem heading_accepts_iff :
    Accepts heading document ↔ ∃ headings : List Element,
      document.headingTags = headings.flatMap Element.tags ∧
        ∀ heading ∈ headings, heading.Matched ∧ Proper document heading := by
  constructor
  · intro accepted
    obtain ⟨headings, paired, sound⟩ := heading_accepts accepted
    have brackets := pairHeadings_eq_ok_iff.mp paired
    have proper : ∀ heading ∈ headings, Proper document heading := fun heading member =>
      (soundHeading_iff_proper brackets member).mp (sound heading member)
    refine ⟨headings, ?_, ?_⟩
    · exact row_of_proper brackets document.headingTags_ordered (fun _ listed => listed) proper
    · exact fun heading member => ⟨brackets.matched heading member, proper heading member⟩
  · rintro ⟨headings, row, each⟩
    have brackets := brackets_of_row fun heading member => (each heading member).1
    rw [← row] at brackets
    refine ⟨.clean, heading_clean (pairHeadings_of_brackets brackets) ?_, rfl⟩
    intro heading member
    exact (soundHeading_iff_proper brackets member).mpr (each heading member).2

/-! ### Findings -/

private theorem pairHeadingsFrom_structural {openTags tags : List Tag} {finding : Finding}
    (failed : pairHeadingsFrom openTags tags = .error finding) : finding.kind = .structural := by
  induction tags generalizing openTags with
  | nil =>
      cases openTags with
      | nil => cases failed
      | cons innermost outer =>
          cases failed
          rfl
  | cons tag rest ih =>
      cases kind : tag.kind with
      | opening =>
          rw [pairHeadingsFrom_opening kind] at failed
          exact ih failed
      | selfClosing =>
          rw [pairHeadingsFrom_selfClosing kind] at failed
          exact ih failed
      | closing =>
          cases openTags with
          | nil =>
              simp only [pairHeadingsFrom, kind] at failed
              cases failed
              rfl
          | cons innermost outer =>
              by_cases level : tag.name = innermost.name
              · rw [pairHeadingsFrom_closing kind level] at failed
                exact ih (error_of_map_eq_error failed)
              · simp only [pairHeadingsFrom, kind, if_neg (Ne.symm level)] at failed
                cases failed
                rfl

/-- If the heading tags are not well nested, the finding is about the markup. -/
theorem heading_of_unnested (unnested : ¬ Tag.WellNested document.headingTags) :
    ∃ finding, heading document = some (.failed finding) ∧ finding.kind = .structural := by
  cases paired : pairHeadings document with
  | ok headings => exact absurd ⟨headings, pairHeadings_eq_ok_iff.mp paired⟩ unnested
  | error finding =>
      refine ⟨finding, by rw [heading, paired], ?_⟩
      exact pairHeadingsFrom_structural (error_of_map_eq_error paired)

theorem headingContents_of_sound {first : Element} (sound : SoundHeading document first)
    (rest : List Element) :
    headingContents document (first :: rest) = headingContents document rest := by
  obtain ⟨text, cut, seen, free⟩ := sound
  rw [headingContents]
  simp only [cut, free, Option.bind_eq_bind, Option.bind_some]
  rw [if_neg (by simpa using seen)]

theorem headingContents_of_unsound {first : Element} (holds : document.Holds first)
    (unsound : ¬ SoundHeading document first) (rest : List Element) :
    ∃ detail, headingContents document (first :: rest) =
      some (.failed (.invalidContent first.opening.name detail)) := by
  obtain ⟨text, cut⟩ := holds.exists_slice
  rw [headingContents]
  simp only [cut, Option.bind_eq_bind, Option.bind_some]
  by_cases blank : (Content.visible text).isEmpty = true
  · rw [if_pos blank]
    exact ⟨_, rfl⟩
  · rw [if_neg blank]
    cases found : blockLevelIn? document (first.innerSpan document.length) with
    | some block => exact ⟨_, rfl⟩
    | none => exact absurd ⟨text, cut, by simpa using blank, found⟩ unsound

/-- The rule stops at the first heading that is at fault. -/
theorem headingContents_first_fault (holds : ∀ heading ∈ headings, document.Holds heading)
    (fault : ¬ ∀ heading ∈ headings, SoundHeading document heading) :
    ∃ before first after detail, headings = before ++ first :: after ∧
      (∀ earlier ∈ before, SoundHeading document earlier) ∧ ¬ SoundHeading document first ∧
      headingContents document headings =
        some (.failed (.invalidContent first.opening.name detail)) := by
  induction headings with
  | nil => exact absurd (List.forall_mem_nil _) fault
  | cons heading rest ih =>
      obtain ⟨here, others⟩ := List.forall_mem_cons.mp holds
      by_cases sound : SoundHeading document heading
      · have later : ¬ ∀ other ∈ rest, SoundHeading document other := by
          intro all
          exact fault (List.forall_mem_cons.mpr ⟨sound, all⟩)
        obtain ⟨before, first, after, detail, rfl, clear, unsound, failed⟩ := ih others later
        refine ⟨heading :: before, first, after, detail, rfl, ?_, unsound, ?_⟩
        · exact List.forall_mem_cons.mpr ⟨sound, clear⟩
        · rw [headingContents_of_sound sound, failed]
      · obtain ⟨detail, failed⟩ := headingContents_of_unsound here sound rest
        exact ⟨[], heading, rest, detail, rfl, List.forall_mem_nil _, sound, failed⟩

/-- If the heading tags are well nested, the finding is about the first heading at fault. -/
theorem heading_of_fault (brackets : Tag.Brackets document.headingTags headings)
    (rejected : ¬ Accepts heading document) :
    ∃ before first after detail, headings = before ++ first :: after ∧
      (∀ earlier ∈ before, Proper document earlier) ∧ ¬ Proper document first ∧
      heading document = some (.failed (.invalidContent first.opening.name detail)) := by
  have paired := pairHeadings_of_brackets brackets
  have holds := pairHeadings_sound document
  rw [paired] at holds
  have fault : ¬ ∀ heading ∈ headings, SoundHeading document heading := by
    intro sound
    exact rejected ⟨.clean, heading_clean paired sound, rfl⟩
  obtain ⟨before, first, after, detail, split, clear, unsound, failed⟩ :=
    headingContents_first_fault holds fault
  refine ⟨before, first, after, detail, split, ?_, ?_, ?_⟩
  · intro earlier member
    have listed : earlier ∈ headings := split ▸ List.mem_append_left _ member
    exact (soundHeading_iff_proper brackets listed).mp (clear earlier member)
  · have listed : first ∈ headings := split ▸ List.mem_append_right _ List.mem_cons_self
    exact fun proper => unsound ((soundHeading_iff_proper brackets listed).mpr proper)
  · rw [heading, paired]
    exact failed

/-- The headings of an accepted document are in a row, each with visible text and no
block-level tag; a document that is not accepted has one finding. -/
theorem heading_language (document : Document) :
    (Accepts heading document ↔ ∃ headings : List Element,
      document.headingTags = headings.flatMap Element.tags ∧
        ∀ heading ∈ headings, heading.Matched ∧ Proper document heading) ∧
      (¬ Accepts heading document → ∃ finding, heading document = some ⟨false, [finding], []⟩ ∧
        (¬ Tag.WellNested document.headingTags → finding.kind = .structural) ∧
        ∀ headings, Tag.Brackets document.headingTags headings →
          finding.kind = .invalidContent ∧
          (headings.Pairwise fun earlier later => earlier.start < later.start) ∧
          ∃ before first after, headings = before ++ first :: after ∧
            (∀ earlier ∈ before, Proper document earlier) ∧ ¬ Proper document first ∧
            finding.subject = first.opening.name) := by
  refine ⟨heading_accepts_iff, ?_⟩
  intro rejected
  by_cases nested : Tag.WellNested document.headingTags
  · obtain ⟨headings, brackets⟩ := nested
    obtain ⟨before, first, after, detail, split, clear, improper, failed⟩ :=
      heading_of_fault brackets rejected
    refine ⟨_, failed, fun unnested => absurd ⟨headings, brackets⟩ unnested, ?_⟩
    intro others same
    have paired := (pairHeadings_of_brackets brackets).symm.trans (pairHeadings_of_brackets same)
    obtain rfl : headings = others := Except.ok.inj paired
    exact ⟨rfl, brackets.rising document.headingTags_ordered, before, first, after, split, clear,
      improper, rfl⟩
  · obtain ⟨finding, failed, kind⟩ := heading_of_unnested nested
    exact ⟨finding, failed, fun _ => kind,
      fun headings brackets => absurd ⟨headings, brackets⟩ nested⟩

theorem heading_language_of_nested_headings :
    ¬ Accepts heading nestedHeadings ∧ Tag.WellNested nestedHeadings.headingTags ∧
      ∃ finding, heading nestedHeadings = some ⟨false, [finding], []⟩ ∧
        finding.kind = .invalidContent ∧ finding.subject = "h1" ∧
        ∃ headings before first after, Tag.Brackets nestedHeadings.headingTags headings ∧
          headings = before ++ first :: after ∧ ¬ Proper nestedHeadings first ∧
          first.opening.name = "h1" := by
  have ran : heading nestedHeadings =
      some (.failed (.invalidContent "h1" "headings must not be nested (found <h2>)")) := by
    decide +kernel
  have rejected : ¬ Accepts heading nestedHeadings := by
    rintro ⟨verdict, same, clean⟩
    rw [ran] at same
    cases same
    cases clean
  obtain ⟨finding, failed, unnested, nested⟩ := (heading_language nestedHeadings).2 rejected
  have found : finding = .invalidContent "h1" "headings must not be nested (found <h2>)" := by
    rw [ran] at failed
    cases failed
    rfl
  have wellNested : Tag.WellNested nestedHeadings.headingTags := by
    apply Classical.byContradiction
    intro absent
    have kind := unnested absent
    rw [found] at kind
    cases kind
  obtain ⟨headings, brackets⟩ := wellNested
  obtain ⟨kind, -, before, first, after, split, -, improper, subject⟩ := nested headings brackets
  rw [found] at subject
  refine ⟨rejected, ⟨headings, brackets⟩, finding, failed, kind, ?_, headings, before, first,
    after, brackets, split, improper, subject.symm⟩
  rw [found]
  rfl

end Rules

end PageCheck
