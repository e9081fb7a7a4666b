import PageCheck.Proofs.Acceptance
import PageCheck.Proofs.MatchedElements

/-! Verdicts without findings.  For the rules on the skeleton of a page and on headings the
module says what suffices for them to find nothing at all, be it an error or a warning.  A
document in which no rule finds anything is processed into a clean report with what
extraction returns. -/

set_option autoImplicit false

namespace PageCheck

namespace Rules

variable {document : Document}

private theorem filter_named (inside : List Tag) (name : String) :
    (inside.filter fun tag => tag.name == name && tag.isOpening) =
      (Tag.named inside name).filter Tag.isOpening := by
  rw [Tag.named, List.filter_filter]
  congr 1
  funext tag
  exact Bool.and_comm _ _

theorem rootContent_clean {inside : List Tag} {head body : Tag}
    (heads : (Tag.named inside "head").filter Tag.isOpening = [head])
    (bodies : (Tag.named inside "body").filter Tag.isOpening = [body])
    (before : head.span.start ≤ body.span.start) : rootContent inside = none := by
  have first : (inside.find? fun tag => tag.name == "head" && tag.isOpening) = some head := by
    rw [← List.head?_filter, filter_named, heads]
    rfl
  unfold rootContent
  simp only [filter_named, bodies, first]
  rw [if_neg (Nat.not_lt.mpr before)]

theorem root_clean {opening closing : Tag} {before after : List Char}
    (named : document.tagsNamed "html" = [opening, closing]) (opens : opening.kind = .opening)
    (closes : closing.kind = .closing) (behind : opening.span.stop ≤ closing.span.start)
    (beforeCut : document.slice? ⟨0, opening.span.start⟩ = some before)
    (beforeBlank : Text.allBlank (Doctype.strip (Comment.strip before)) = true)
    (afterCut : document.slice? ⟨closing.span.stop, document.length⟩ = some after)
    (afterBlank : Content.isBlank after = true)
    (content :
      rootContent (Tag.within document.tags ⟨opening.span.stop, closing.span.start⟩) = none)
    (language : declaresLanguage opening = true) : root document = some .clean := by
  have openings : [opening, closing].filter Tag.isOpening = [opening] := by
    simp [Tag.isOpening, opens, closes]
  have last : ([opening, closing].filter fun tag =>
      tag.isClosing && decide (opening.span.stop ≤ tag.span.start)).getLast? = some closing := by
    simp [Tag.isClosing, opens, closes, behind]
  unfold root
  simp only [named, openings, last, beforeCut, afterCut]
  simp [beforeBlank, afterBlank, content, language]

theorem head_clean {opening closing : Tag} {gap : List Char}
    (named : document.tagsNamed "head" = [opening, closing]) (opens : opening.kind = .opening)
    (closes : closing.kind = .closing) (behind : opening.span.stop ≤ closing.span.start)
    (gapCut : gapBefore? document opening.span.start = some gap)
    (gapBlank : Text.allBlank gap = true)
    (content : ∀ tag ∈ Tag.within document.tags ⟨opening.span.stop, closing.span.start⟩,
      tag.name ≠ "html" ∧ tag.name ≠ "body") : head document = some .clean := by
  have openings : [opening, closing].filter Tag.isOpening = [opening] := by
    simp [Tag.isOpening, opens, closes]
  have first : ([opening, closing].find? fun tag =>
      tag.isClosing && decide (opening.span.stop ≤ tag.span.start)) = some closing := by
    simp [Tag.isClosing, opens, closes, behind]
  have none : ((Tag.within document.tags ⟨opening.span.stop, closing.span.start⟩).find? fun tag =>
      tag.name == "html" || tag.name == "body") = none := by
    rw [List.find?_eq_none]
    intro tag member
    simpa using content tag member
  unfold head headContent
  simp only [named, openings, gapCut, first, none]
  simp [gapBlank]

theorem body_clean {opening : Tag} {element : Element} {content : List Char}
    (single : (document.tagsNamed "body").filter Tag.isOpening = [opening])
    (first : Element.first? document.tags "body" = some element)
    (allowed : ∀ tag ∈ Tag.within document.tags (element.innerSpan document.length),
      tag.name ∉ Vocabulary.notInBody)
    (cut : document.slice? (element.innerSpan document.length) = some content)
    (undeclared : Doctype.occurs content = false) (bare : element.opening.attributes = [])
    (seen : Content.isBlank content = false) : body document = some .clean := by
  have none : ((Tag.within document.tags (element.innerSpan document.length)).find? fun tag =>
      Vocabulary.notInBody.contains tag.name) = none := by
    rw [List.find?_eq_none]
    intro tag member
    simpa using allowed tag member
  unfold body
  rw [single]
  simp only [first, bodyContent, none, cut, bodyAttributes, bare]
  simp [undeclared, seen]

theorem titleText_clean {text : List Char} (seen : text ≠ [])
    (chars : ∀ char ∈ text, isTitleChar char = true) : titleText text = none := by
  unfold titleText
  rw [if_neg (by simpa using seen), if_pos (List.all_eq_true.mpr chars)]

theorem title_clean {head title : Element} {text : List Char}
    (first : Element.first? document.tags "head" = some head)
    (single : Element.pair document.tags "title" = [title])
    (inHead : (head.innerSpan document.length).contains title.start = true)
    (cut : document.slice? (titleSpan title (head.innerSpan document.length)) = some text)
    (content : titleText (Content.visible text) = none) :
    Rules.title document = some .clean := by
  have found : [title].find? (fun title =>
      (head.innerSpan document.length).contains title.start) = some title := by
    simp [inHead]
  unfold Rules.title
  simp only [first, single, Option.bind_eq_bind, Option.bind_some, found, pure]
  simp [cut, content]

theorem blockLevelIn?_eq_none_iff {range : Span} :
    blockLevelIn? document range = none ↔
      ∀ tag ∈ document.tags, range.start ≤ tag.span.start → tag.span.stop ≤ range.stop →
        tag.name ∉ Vocabulary.blockLevel := by
  unfold blockLevelIn? Tag.within
  rw [List.find?_eq_none]
  constructor
  · intro free tag present starts stops
    have inRange : range.encloses tag.span = true := Span.encloses_iff.mpr ⟨starts, stops⟩
    simpa using free tag (List.mem_filter.mpr ⟨present, inRange⟩)
  · intro free tag member
    obtain ⟨present, inRange⟩ := List.mem_filter.mp member
    obtain ⟨starts, stops⟩ := Span.encloses_iff.mp inRange
    simpa using free tag present starts stops

theorem headingContents_clean {headings : List Element}
    (sound : ∀ heading ∈ headings, SoundHeading document heading) :
    headingContents document headings = some .clean := by
  induction headings with
  | nil => rfl
  | cons first rest ih =>
      obtain ⟨text, cut, seen, free⟩ := sound first List.mem_cons_self
      have others := ih fun heading later => sound heading (List.mem_cons_of_mem _ later)
      unfold headingContents
      simp only [cut, free, Option.bind_eq_bind, Option.bind_some]
      rw [if_neg (by simpa using seen)]
      exact others

theorem heading_clean {headings : List Element} (paired : pairHeadings document = .ok headings)
    (sound : ∀ heading ∈ headings, SoundHeading document heading) :
    heading document = some .clean := by
  unfold heading
  rw [paired]
  exact headingContents_clean sound

end Rules

structure Document.Clean (document : Document) : Prop where
  root : Rules.root document = some .clean
  head : Rules.head document = some .clean
  body : Rules.body document = some .clean
  title : Rules.title document = some .clean
  heading : Rules.heading document = some .clean
  paragraph : Rules.paragraph document = some .clean
  anchor : Rules.anchor document = some .clean

theorem Document.Clean.validate {document : Document} (clean : document.Clean) :
    Engine.standard.validate document .html = .clean := by
  have silent : ∀ component ∈
      [Component.html, .head, .body, .title, .heading, .paragraph, .anchor],
      component.validator.run document = some .clean := by
    simp only [List.forall_mem_cons]
    exact ⟨clean.root, clean.head, clean.body, clean.title, clean.heading, clean.paragraph,
      clean.anchor, by simp⟩
  have contributions : ∀ member ∈ Engine.standard.html.validators.members,
      ValidatorChain.contribution document member = .clean := by
    intro member present
    rw [Engine.standard_validators] at present
    obtain ⟨component, listed, rfl⟩ := List.mem_map.mp present
    unfold ValidatorChain.contribution
    rw [silent component listed]
    rfl
  have run := Engine.standard.html.validators.run_eq document
  have valid : Engine.standard.html.validators.members.all (fun member =>
      (ValidatorChain.contribution document member).errors.isEmpty) = true :=
    List.all_eq_true.mpr fun member present => by rw [contributions member present]; rfl
  have errors : Engine.standard.html.validators.members.flatMap (fun member =>
      (ValidatorChain.contribution document member).errors) = [] :=
    List.flatMap_eq_nil_iff.mpr fun member present => by rw [contributions member present]; rfl
  have warnings : Engine.standard.html.validators.members.flatMap (fun member =>
      (ValidatorChain.contribution document member).warnings) = [] :=
    List.flatMap_eq_nil_iff.mpr fun member present => by rw [contributions member present]; rfl
  rw [valid, errors, warnings] at run
  exact run

theorem Document.Clean.process {document : Document} (clean : document.Clean)
    {tree : List Node} (extracted : Outline.page document.source = some tree) :
    Engine.standard.process document .html = some ⟨.html, .clean, some tree⟩ := by
  unfold Engine.process
  rw [clean.validate, Engine.standard_extract, extracted]
  rfl

end PageCheck
