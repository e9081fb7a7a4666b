import PageCheck.Engine

/-! What the rules accept.  A chain finds no error just when each of its members
comes to a verdict without one, and for each rule of a page the module says what
such a verdict means for the tags and the text of the document. -/

set_option autoImplicit false

namespace PageCheck

/-! ### Chains -/

namespace ValidatorChain

def contribution (document : Document) (member : Component × Validator) : Verdict :=
  (member.2.run document).getD (.aborted member.1 member.2)

/-- A chain merges what its members add, one member after the other. -/
theorem run_eq_foldl (chain : ValidatorChain) (document : Document) :
    chain.run document =
      (chain.members.map (contribution document)).foldl Verdict.merge .clean := by
  rw [List.foldl_map]
  rfl

theorem run_eq (chain : ValidatorChain) (document : Document) :
    chain.run document =
      ⟨chain.members.all fun member => (contribution document member).errors.isEmpty,
        chain.members.flatMap fun member => (contribution document member).errors,
        chain.members.flatMap fun member => (contribution document member).warnings⟩ := by
  rw [run_eq_foldl, Verdict.foldl_merge, List.all_map, List.flatMap_map, List.flatMap_map]
  rfl

def Accepts (rule : Document → Option Verdict) (document : Document) : Prop :=
  ∃ verdict, rule document = some verdict ∧ verdict.errors = []

theorem not_accepts_of_failed {rule : Document → Option Verdict} {document : Document}
    {finding : Finding} (failed : rule document = some (.failed finding)) :
    ¬ Accepts rule document := by
  rintro ⟨verdict, same, clean⟩
  rw [failed, Option.some.injEq] at same
  rw [← same] at clean
  cases clean

theorem run_errors_eq_nil_iff (chain : ValidatorChain) (document : Document) :
    (chain.run document).errors = [] ↔
      ∀ member ∈ chain.members, Accepts member.2.run document := by
  rw [run_eq]
  simp only [List.flatMap_eq_nil_iff]
  constructor
  · intro clean member present
    have none := clean member present
    unfold contribution at none
    cases ran : member.2.run document with
    | none =>
        rw [ran] at none
        cases none
    | some verdict =>
        rw [ran] at none
        exact ⟨verdict, ran, none⟩
  · intro accepted member present
    obtain ⟨verdict, ran, none⟩ := accepted member present
    unfold contribution
    rw [ran]
    exact none

end ValidatorChain

open ValidatorChain (Accepts)

theorem Engine.standard_validators :
    Engine.standard.html.validators.members =
      [.html, .head, .body, .title, .heading, .paragraph, .anchor].map
        fun component : Component => (component, component.validator) := rfl

theorem Engine.standard_extract (document : Document) :
    Engine.standard.extract document .html = Outline.page document.source := by
  have members : Engine.standard.html.extractors.members =
      [(Component.html, ⟨"html", Outline.page⟩)] := rfl
  unfold extract chains ExtractorChain.run
  rw [members]
  cases ran : Outline.page document.source <;> simp [ran]

/-- A page is accepted when all the standard rules accept it. -/
structure Document.Accepted (document : Document) : Prop where
  root : Accepts Rules.root document
  head : Accepts Rules.head document
  body : Accepts Rules.body document
  title : Accepts Rules.title document
  heading : Accepts Rules.heading document
  paragraph : Accepts Rules.paragraph document
  anchor : Accepts Rules.anchor document

theorem Document.accepted_iff (document : Document) :
    (Engine.standard.validate document .html).errors = [] ↔ document.Accepted := by
  have members := Engine.standard.html.validators.run_errors_eq_nil_iff document
  rw [Engine.standard_validators] at members
  refine members.trans ⟨fun accepted => ?_, fun accepted member present => ?_⟩
  · have holds (component : Component)
        (listed : component ∈
          [Component.html, .head, .body, .title, .heading, .paragraph, .anchor]) :
        Accepts component.validator.run document :=
      accepted (component, component.validator) (List.mem_map.mpr ⟨component, listed, rfl⟩)
    exact ⟨holds .html (by decide), holds .head (by decide), holds .body (by decide),
      holds .title (by decide), holds .heading (by decide), holds .paragraph (by decide),
      holds .anchor (by decide)⟩
  · obtain ⟨component, listed, rfl⟩ := List.mem_map.mp present
    simp only [List.mem_cons, List.not_mem_nil, or_false] at listed
    rcases listed with rfl | rfl | rfl | rfl | rfl | rfl | rfl
    · exact accepted.root
    · exact accepted.head
    · exact accepted.body
    · exact accepted.title
    · exact accepted.heading
    · exact accepted.paragraph
    · exact accepted.anchor

/-! ### The skeleton of a page -/

namespace Rules

variable {document : Document}

private theorem not_accepts_failed {finding : Finding} {verdict : Verdict}
    (ran : some (Verdict.failed finding) = some verdict) : verdict.errors ≠ [] := by
  cases ran
  exact List.cons_ne_nil _ _

theorem rootContent_eq_none {inside : List Tag} (accepted : rootContent inside = none) :
    ∃ body, (inside.filter fun tag => tag.name == "body" && tag.isOpening) = [body] ∧
      ∀ head, (inside.find? fun tag => tag.name == "head" && tag.isOpening) = some head →
        head.span.start ≤ body.span.start := by
  unfold rootContent at accepted
  split at accepted
  · cases accepted
  · rename_i body single
    refine ⟨body, single, ?_⟩
    intro head found
    rw [found] at accepted
    simp only at accepted
    split at accepted
    · cases accepted
    · omega
  · cases accepted

theorem root_accepts (accepted : Accepts root document) :
    ∃ opening closing before after,
      (document.tagsNamed "html").filter Tag.isOpening = [opening] ∧
      ((document.tagsNamed "html").filter fun tag =>
        tag.isClosing && decide (opening.span.stop ≤ tag.span.start)).getLast? = some closing ∧
      document.slice? ⟨0, opening.span.start⟩ = some before ∧
      Text.allBlank (Doctype.strip (Comment.strip before)) = true ∧
      document.slice? ⟨closing.span.stop, document.length⟩ = some after ∧
      Content.isBlank after = true ∧
      rootContent (Tag.within document.tags ⟨opening.span.stop, closing.span.start⟩) = none := by
  obtain ⟨verdict, ran, clean⟩ := accepted
  unfold root at ran
  simp only at ran
  split at ran
  · exact absurd clean (not_accepts_failed ran)
  · rename_i opening others openings
    split at ran
    · exact absurd clean (not_accepts_failed ran)
    · rename_i closing last
      split at ran
      · exact absurd clean (not_accepts_failed ran)
      · rename_i alone
        rw [Decidable.not_not] at alone
        subst alone
        obtain ⟨before, beforeCut, ran⟩ := Option.bind_eq_some_iff.mp ran
        split at ran
        · exact absurd clean (not_accepts_failed ran)
        · rename_i beforeBlank
          obtain ⟨after, afterCut, ran⟩ := Option.bind_eq_some_iff.mp ran
          split at ran
          · exact absurd clean (not_accepts_failed ran)
          · rename_i afterBlank
            split at ran
            · exact absurd clean (not_accepts_failed ran)
            · rename_i content
              exact ⟨opening, closing, before, after, openings, last, beforeCut,
                by simpa using beforeBlank, afterCut, by simpa using afterBlank, content⟩

theorem head_accepts (accepted : Accepts head document) :
    ∃ opening closing gap,
      (document.tagsNamed "head").filter Tag.isOpening = [opening] ∧
      gapBefore? document opening.span.start = some gap ∧ Text.allBlank gap = true ∧
      ((document.tagsNamed "head").find? fun tag =>
        tag.isClosing && decide (opening.span.stop ≤ tag.span.start)) = some closing ∧
      ∀ tag ∈ Tag.within document.tags ⟨opening.span.stop, closing.span.start⟩,
        tag.name ≠ "html" ∧ tag.name ≠ "body" := by
  obtain ⟨verdict, ran, clean⟩ := accepted
  unfold head at ran
  split at ran
  · exact absurd clean (not_accepts_failed ran)
  · rename_i opening others openings
    split at ran
    · exact absurd clean (not_accepts_failed ran)
    · rename_i alone
      rw [Decidable.not_not] at alone
      subst alone
      obtain ⟨gap, gapCut, ran⟩ := Option.bind_eq_some_iff.mp ran
      split at ran
      · rename_i blank
        unfold headContent at ran
        split at ran
        · exact absurd clean (not_accepts_failed ran)
        · rename_i closing closed
          split at ran
          · rename_i none
            refine ⟨opening, closing, gap, openings, gapCut, blank, closed, ?_⟩
            intro tag member
            have other := List.find?_eq_none.mp none tag member
            simpa using other
          · exact absurd clean (not_accepts_failed ran)
      · exact absurd clean (not_accepts_failed ran)

theorem body_accepts (accepted : Accepts body document) :
    (document.tagsNamed "body").filter Tag.isOpening = [] ∨
      ∃ opening, (document.tagsNamed "body").filter Tag.isOpening = [opening] ∧
        ∀ element, Element.first? document.tags "body" = some element →
          ∀ tag ∈ Tag.within document.tags (element.innerSpan document.length),
            tag.name ∉ Vocabulary.notInBody := by
  obtain ⟨verdict, ran, clean⟩ := accepted
  unfold body at ran
  split at ran
  · rename_i none
    exact Or.inl none
  · rename_i opening openings
    refine Or.inr ⟨opening, openings, ?_⟩
    intro element first
    rw [first] at ran
    simp only [bodyContent] at ran
    split at ran
    · exact absurd clean (not_accepts_failed ran)
    · rename_i none
      intro tag member
      have allowed := List.find?_eq_none.mp none tag member
      simpa using allowed
  · exact absurd clean (not_accepts_failed ran)

theorem titleText_eq_none {text : List Char} (accepted : titleText text = none) :
    text ≠ [] ∧ text.all isTitleChar = true := by
  unfold titleText at accepted
  split at accepted
  · cases accepted
  · rename_i nonempty
    split at accepted
    · rename_i chars
      exact ⟨by simpa using nonempty, chars⟩
    · cases accepted

theorem title_accepts (accepted : Accepts title document) :
    ∃ head title text,
      Element.first? document.tags "head" = some head ∧
      ((Element.pair document.tags "title").find? fun title =>
        (head.innerSpan document.length).contains title.start) = some title ∧
      (Element.pair document.tags "title").length ≤ 1 ∧
      document.slice? (titleSpan title (head.innerSpan document.length)) = some text ∧
      Content.visible text ≠ [] := by
  obtain ⟨verdict, ran, clean⟩ := accepted
  unfold title at ran
  simp only at ran
  split at ran
  · exact absurd clean (not_accepts_failed ran)
  · rename_i title inside found
    obtain ⟨head, first, found⟩ := Option.bind_eq_some_iff.mp found
    obtain ⟨element, inHead, found⟩ := Option.bind_eq_some_iff.mp found
    cases found
    split at ran
    · exact absurd clean (not_accepts_failed ran)
    · rename_i single
      obtain ⟨text, cut, ran⟩ := Option.bind_eq_some_iff.mp ran
      split at ran
      · exact absurd clean (not_accepts_failed ran)
      · rename_i none
        exact ⟨head, title, text, first, inHead, by omega, cut, (titleText_eq_none none).1⟩

/-! ### Headings and paragraphs -/

def SoundHeading (document : Document) (heading : Element) : Prop :=
  ∃ text, document.slice? (heading.innerSpan document.length) = some text ∧
    Content.visible text ≠ [] ∧
    blockLevelIn? document (heading.innerSpan document.length) = none

private theorem headingContents_accepts {headings : List Element} {verdict : Verdict}
    (ran : headingContents document headings = some verdict) (clean : verdict.errors = []) :
    ∀ heading ∈ headings, SoundHeading document heading := by
  induction headings with
  | nil =>
      intro heading member
      cases member
  | cons first rest ih =>
      obtain ⟨text, cut, ran⟩ := Option.bind_eq_some_iff.mp ran
      split at ran
      · exact absurd clean (not_accepts_failed ran)
      · rename_i seen
        split at ran
        · exact absurd clean (not_accepts_failed ran)
        · rename_i free
          intro heading member
          rcases List.mem_cons.mp member with rfl | later
          · exact ⟨text, cut, by simpa using seen, free⟩
          · exact ih ran heading later

theorem heading_accepts (accepted : Accepts heading document) :
    ∃ headings, pairHeadings document = .ok headings ∧
      ∀ heading ∈ headings, SoundHeading document heading := by
  obtain ⟨verdict, ran, clean⟩ := accepted
  unfold heading at ran
  split at ran
  · exact absurd clean (not_accepts_failed ran)
  · rename_i headings paired
    exact ⟨headings, paired, headingContents_accepts ran clean⟩

theorem paragraph_accepts (accepted : Accepts paragraph document) :
    balance document "p" "paragraphs" = none ∧
      ∀ element ∈ Element.pair document.tags "p",
        blockLevelIn? document (element.innerSpan document.length) = none := by
  obtain ⟨verdict, ran, clean⟩ := accepted
  unfold paragraph at ran
  split at ran
  · exact absurd clean (not_accepts_failed ran)
  · rename_i balanced
    simp only at ran
    split at ran
    · exact absurd clean (not_accepts_failed ran)
    · rename_i none
      exact ⟨balanced, List.findSome?_eq_none_iff.mp none⟩

end Rules

end PageCheck
