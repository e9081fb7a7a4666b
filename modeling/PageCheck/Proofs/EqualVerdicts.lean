import PageCheck.Proofs.Counterparts

/-! Equal verdicts.  Every rule comes to the same verdict on a document and on its
counterpart, because it only asks for the names, kinds, attributes and order of tags and
for what is visible of the texts between them.  So does every chain. -/

set_option autoImplicit false

namespace PageCheck

namespace Rules

open Document (Counterpart Matches)

variable {first second : Document} {move : Tag → Tag}

/-! ### Document type and root element -/

theorem doctype_eq (counterpart : Counterpart first second move) :
    doctype second = doctype first := by
  have declared := counterpart.declaration
  unfold doctype
  cases found : Doctype.find? first.source with
  | none =>
      cases other : Doctype.find? second.source with
      | none => rfl
      | some declaration =>
          rw [found, other] at declared
          cases declared
  | some declaration =>
      cases other : Doctype.find? second.source with
      | none =>
          rw [found, other] at declared
          cases declared
      | some moved =>
          rw [found, other] at declared
          cases declared with
          | some matched =>
              obtain ⟨part, counter, cut, otherCut, alike⟩ := matched
              simp only [cut, otherCut, Option.bind_eq_bind, Option.bind_some, alike.blank]

private theorem rootContent_eq (counterpart : Counterpart first second move) {inside : List Tag}
    (listed : ∀ tag ∈ inside, tag ∈ first.tags) :
    rootContent (inside.map move) = rootContent inside := by
  have named (name : String) (tag : Tag) :
      ((move tag).name == name && (move tag).isOpening) = (tag.name == name && tag.isOpening) := by
    rw [counterpart.name_eq, counterpart.isOpening_eq]
  unfold rootContent
  rw [filter_move fun tag _ => named "body" tag, find?_move fun tag _ => named "head" tag]
  match bodies : inside.filter fun tag => tag.name == "body" && tag.isOpening with
  | [] => rw [bodies, List.map_nil]
  | body :: next :: others =>
      simp only [bodies, List.map_cons, List.length_cons, List.length_map]
  | [body] =>
      rw [bodies]
      cases found : inside.find? fun tag => tag.name == "head" && tag.isOpening with
      | none => rfl
      | some head =>
          have bodyPresent : body ∈ first.tags := by
            have kept : body ∈ inside.filter fun tag => tag.name == "body" && tag.isOpening := by
              rw [bodies]
              exact List.mem_singleton_self body
            exact listed body (List.mem_filter.mp kept).1
          have headPresent := listed head (List.mem_of_find?_eq_some found)
          have order := counterpart.start_le_iff headPresent bodyPresent
          simp only [List.map_cons, List.map_nil, Option.map_some, ← Nat.not_le, order]

theorem root_eq (counterpart : Counterpart first second move) : root second = root first := by
  have openings := counterpart.openings "html"
  unfold root
  simp only [openings]
  match opened : (first.tagsNamed "html").filter Tag.isOpening with
  | [] => rfl
  | opening :: others =>
      obtain ⟨opens, -, -⟩ := Document.mem_openings opened
      have closings : (second.tagsNamed "html").filter (fun tag =>
          tag.isClosing && decide ((move opening).span.stop ≤ tag.span.start)) =
          ((first.tagsNamed "html").filter fun tag =>
            tag.isClosing && decide (opening.span.stop ≤ tag.span.start)).map move := by
        rw [counterpart.named]
        exact filter_move fun tag named => counterpart.behind_eq opens (Tag.mem_named.mp named).1
      simp only [List.map_cons, closings, List.getLast?_map]
      cases last : ((first.tagsNamed "html").filter fun tag =>
          tag.isClosing && decide (opening.span.stop ≤ tag.span.start)).getLast? with
      | none => rfl
      | some closing =>
          have closes : closing ∈ first.tags :=
            (Tag.mem_named.mp (List.mem_filter.mp (List.mem_of_getLast? last)).1).1
          obtain ⟨before, otherBefore, lead, otherLead, ahead⟩ := counterpart.lead opening opens
          obtain ⟨after, otherAfter, rest, otherRest, behind⟩ := counterpart.rest closing closes
          have content : rootContent
              ((Tag.within first.tags ⟨opening.span.stop, closing.span.start⟩).map move) =
              rootContent (Tag.within first.tags ⟨opening.span.stop, closing.span.start⟩) :=
            rootContent_eq counterpart fun tag member => (List.mem_filter.mp member).1
          have language : declaresLanguage (move opening) = declaresLanguage opening := by
            unfold declaresLanguage
            rw [counterpart.attribute?_eq]
          simp only [Option.map_some, ne_eq, List.map_eq_nil_iff, List.length_map, lead, otherLead,
            rest, otherRest, Option.bind_eq_bind, Option.bind_some, ahead.undeclared, behind.blank,
            counterpart.within_between opens closes, content, language]

/-! ### Head, body and title -/

private theorem gapBefore_eq (counterpart : Counterpart first second move) {head : Tag}
    (present : head ∈ first.tags) (named : head.name = "head") (opens : head.isOpening = true) :
    (gapBefore? second (move head).span.start).map Text.allBlank =
      (gapBefore? first head.span.start).map Text.allBlank := by
  have roots : (second.tagsNamed "html").find? (fun tag =>
      tag.isOpening && decide (tag.span.stop ≤ (move head).span.start)) =
      ((first.tagsNamed "html").find? fun tag =>
        tag.isOpening && decide (tag.span.stop ≤ head.span.start)).map move := by
    rw [counterpart.named]
    refine find?_move fun tag member => ?_
    rw [counterpart.isOpening_eq, decide_eq_decide.mpr
      (counterpart.follows_iff (Tag.mem_named.mp member).1 present)]
  unfold gapBefore?
  rw [roots]
  cases found : (first.tagsNamed "html").find? fun tag =>
      tag.isOpening && decide (tag.span.stop ≤ head.span.start) with
  | none => rfl
  | some root =>
      obtain ⟨inTags, rootNamed⟩ := Tag.mem_named.mp (List.mem_of_find?_eq_some found)
      have before := List.find?_some found
      rw [Bool.and_eq_true, decide_eq_true_eq] at before
      exact counterpart.gap root inTags rootNamed before.1 head present named opens before.2

private theorem headContent_eq (counterpart : Counterpart first second move) {opening : Tag}
    (opens : opening ∈ first.tags) :
    headContent second (move opening) = headContent first opening := by
  have closings : (second.tagsNamed "head").find? (fun tag =>
      tag.isClosing && decide ((move opening).span.stop ≤ tag.span.start)) =
      ((first.tagsNamed "head").find? fun tag =>
        tag.isClosing && decide (opening.span.stop ≤ tag.span.start)).map move := by
    rw [counterpart.named]
    exact find?_move fun tag named => counterpart.behind_eq opens (Tag.mem_named.mp named).1
  unfold headContent
  rw [closings]
  cases found : (first.tagsNamed "head").find? fun tag =>
      tag.isClosing && decide (opening.span.stop ≤ tag.span.start) with
  | none => rfl
  | some closing =>
      have closes := (Tag.mem_named.mp (List.mem_of_find?_eq_some found)).1
      have nested : ((Tag.within first.tags ⟨opening.span.stop, closing.span.start⟩).map move).find?
          (fun tag => tag.name == "html" || tag.name == "body") =
          ((Tag.within first.tags ⟨opening.span.stop, closing.span.start⟩).find? fun tag =>
            tag.name == "html" || tag.name == "body").map move :=
        find?_move fun tag _ => by rw [counterpart.name_eq]
      simp only [Option.map_some, counterpart.within_between opens closes, nested]
      cases (Tag.within first.tags ⟨opening.span.stop, closing.span.start⟩).find? fun tag =>
          tag.name == "html" || tag.name == "body" with
      | none => rfl
      | some tag => simp only [Option.map_some, counterpart.name_eq]

theorem head_eq (counterpart : Counterpart first second move) : head second = head first := by
  have openings := counterpart.openings "head"
  unfold head
  rw [openings]
  match opened : (first.tagsNamed "head").filter Tag.isOpening with
  | [] => rfl
  | opening :: others =>
      obtain ⟨opens, named, isOpening⟩ := Document.mem_openings opened
      have gaps := gapBefore_eq counterpart opens named isOpening
      simp only [List.map_cons, ne_eq, List.map_eq_nil_iff, List.length_map,
        headContent_eq counterpart opens]
      cases gap : gapBefore? first opening.span.start with
      | none =>
          rw [gap, Option.map_none, Option.map_eq_none_iff] at gaps
          rw [gaps]
      | some part =>
          rw [gap, Option.map_some, Option.map_eq_some_iff] at gaps
          obtain ⟨other, otherGap, blank⟩ := gaps
          simp only [otherGap, Option.bind_eq_bind, Option.bind_some, blank]

private theorem bodyContent_eq (counterpart : Counterpart first second move) {body : Element}
    (holds : first.Holds body) : bodyContent second (body.map move) = bodyContent first body := by
  obtain ⟨part, other, cut, otherCut, alike⟩ := counterpart.inner holds
  have disallowed : ((Tag.within first.tags (body.innerSpan first.length)).map move).find?
      (fun tag => Vocabulary.notInBody.contains tag.name) =
      ((Tag.within first.tags (body.innerSpan first.length)).find? fun tag =>
        Vocabulary.notInBody.contains tag.name).map move :=
    find?_move fun tag _ => by rw [counterpart.name_eq]
  have attributes : bodyAttributes (body.map move).opening = bodyAttributes body.opening := by
    unfold bodyAttributes
    rw [show (body.map move).opening = move body.opening from rfl, counterpart.attributes_eq]
  unfold bodyContent
  simp only [counterpart.within_inner holds, disallowed]
  cases (Tag.within first.tags (body.innerSpan first.length)).find? fun tag =>
      Vocabulary.notInBody.contains tag.name with
  | some tag => simp only [Option.map_some, counterpart.name_eq]
  | none =>
      simp only [Option.map_none, cut, otherCut, Option.bind_eq_bind, Option.bind_some,
        alike.declared, alike.blank, attributes]

theorem body_eq (counterpart : Counterpart first second move) : body second = body first := by
  have openings := counterpart.openings "body"
  unfold body
  rw [openings, counterpart.first?]
  match (first.tagsNamed "body").filter Tag.isOpening with
  | [] => rfl
  | opening :: next :: others => simp only [List.map_cons, List.length_cons, List.length_map]
  | [opening] =>
      cases found : Element.first? first.tags "body" with
      | none => rfl
      | some element =>
          exact bodyContent_eq counterpart
            (Document.holds_of_mem_pair (Element.mem_pair_of_first? found))

private theorem titleSpan_eq {head title : Element} {length : Nat}
    (inside : (head.innerSpan length).contains title.start = true) :
    titleSpan title (head.innerSpan length) =
      Element.innerSpan ⟨title.opening, title.closing.or head.closing⟩ length := by
  obtain ⟨opening, closing⟩ := title
  obtain ⟨headOpening, headClosing⟩ := head
  rw [Span.contains_iff] at inside
  cases closing with
  | some tag => simp only [titleSpan, Element.innerSpan, Option.some_or]
  | none =>
      cases headClosing with
      | none =>
          simp only [Element.innerSpan] at inside
          simp only [titleSpan, Element.innerSpan, Option.none_or, Span.mk.injEq, true_and]
          omega
      | some tag =>
          simp only [Element.innerSpan] at inside
          simp only [titleSpan, Element.innerSpan, Option.none_or, Span.mk.injEq, true_and]
          omega

private theorem contains_eq (counterpart : Counterpart first second move) {head : Element}
    (holds : first.Holds head) {title : Tag} (present : title ∈ first.tags) :
    ((head.map move).innerSpan second.length).contains (move title).span.start =
      (head.innerSpan first.length).contains title.span.start := by
  have filled := first.tags_ordered.filled present
  have movedFilled := second.tags_ordered.filled (counterpart.mem present)
  have inText := Document.stop_le_length present
  have movedInText := Document.stop_le_length (counterpart.mem present)
  obtain ⟨opening, closing⟩ := head
  have opens : opening ∈ first.tags := holds.1
  have begins := counterpart.follows_iff opens present
  rw [Bool.eq_iff_iff, Span.contains, Span.contains, Bool.and_eq_true, Bool.and_eq_true,
    decide_eq_true_eq, decide_eq_true_eq, decide_eq_true_eq, decide_eq_true_eq]
  cases closing with
  | none =>
      simp only [Element.innerSpan, Element.map, Option.map_none]
      omega
  | some closing =>
      have ends := counterpart.start_le_iff (holds.2 closing rfl) present
      simp only [Element.innerSpan, Element.map, Option.map_some]
      omega

theorem title_eq (counterpart : Counterpart first second move) : title second = title first := by
  unfold title
  simp only [counterpart.pair, counterpart.first?, List.length_map]
  cases headFirst : Element.first? first.tags "head" with
  | none => rfl
  | some head =>
      have headHolds := Document.holds_of_mem_pair (Element.mem_pair_of_first? headFirst)
      have titles : ((Element.pair first.tags "title").map (Element.map move)).find? (fun title =>
          ((head.map move).innerSpan second.length).contains title.start) =
          ((Element.pair first.tags "title").find? fun title =>
            (head.innerSpan first.length).contains title.start).map (Element.map move) :=
        find?_move fun title member =>
          contains_eq counterpart headHolds (Document.holds_of_mem_pair member).1
      simp only [Option.map_some, Option.bind_eq_bind, Option.bind_some, titles]
      cases found : (Element.pair first.tags "title").find? fun title =>
          (head.innerSpan first.length).contains title.start with
      | none => rfl
      | some title =>
          have inside := List.find?_some found
          have titleHolds := Document.holds_of_mem_pair (List.mem_of_find?_eq_some found)
          have movedInside : ((head.map move).innerSpan second.length).contains
              (title.map move).start = true :=
            (contains_eq counterpart headHolds titleHolds.1).trans inside
          have textHolds : first.Holds ⟨title.opening, title.closing.or head.closing⟩ := by
            refine ⟨titleHolds.1, fun closing closes => ?_⟩
            rcases Option.or_eq_some_iff.mp closes with own | ⟨-, outer⟩
            · exact titleHolds.2 closing own
            · exact headHolds.2 closing outer
          obtain ⟨part, other, cut, otherCut, alike⟩ := counterpart.inner textHolds
          rw [← titleSpan_eq inside] at cut
          have moved : Element.map move ⟨title.opening, title.closing.or head.closing⟩ =
              ⟨(title.map move).opening, (title.map move).closing.or (head.map move).closing⟩ := by
            simp only [Element.map, Option.map_or]
          rw [moved, ← titleSpan_eq movedInside] at otherCut
          simp only [Option.map_some, Option.bind_some, pure, cut, otherCut, alike.titled]

/-! ### Headings -/

private theorem blockLevelIn?_eq (counterpart : Counterpart first second move) {element : Element}
    (holds : first.Holds element) :
    blockLevelIn? second ((element.map move).innerSpan second.length) =
      (blockLevelIn? first (element.innerSpan first.length)).map move := by
  unfold blockLevelIn?
  rw [counterpart.within_inner holds]
  exact find?_move fun tag _ => by rw [counterpart.name_eq]

private theorem isHeading_eq (counterpart : Counterpart first second move) (tag : Tag) :
    isHeading (move tag) = isHeading tag := by
  unfold isHeading
  rw [counterpart.name_eq]

private theorem pairHeadingsFrom_eq (counterpart : Counterpart first second move)
    (openTags tags : List Tag) :
    pairHeadingsFrom (openTags.map move) (tags.map move) =
      (pairHeadingsFrom openTags tags).map (List.map (Element.map move)) := by
  induction tags generalizing openTags with
  | nil =>
      cases openTags with
      | nil => rfl
      | cons innermost outer =>
          simp only [List.map_nil, List.map_cons, pairHeadingsFrom, counterpart.name_eq]
          rfl
  | cons tag rest ih =>
      have kindEq := counterpart.kind_eq tag
      cases kind : tag.kind with
      | opening =>
          rw [kind] at kindEq
          simp only [List.map_cons, pairHeadingsFrom, kind, kindEq]
          exact ih (tag :: openTags)
      | selfClosing =>
          rw [kind] at kindEq
          simp only [List.map_cons, pairHeadingsFrom, kind, kindEq]
          exact ih openTags
      | closing =>
          rw [kind] at kindEq
          cases openTags with
          | nil =>
              simp only [List.map_nil, List.map_cons, pairHeadingsFrom, kind, kindEq,
                counterpart.name_eq]
              rfl
          | cons innermost outer =>
              simp only [List.map_cons, pairHeadingsFrom, kind, kindEq, counterpart.name_eq, ih]
              split
              · cases pairHeadingsFrom outer rest <;> rfl
              · rfl

private theorem pairHeadings_eq (counterpart : Counterpart first second move) :
    pairHeadings second = (pairHeadings first).map (List.map (Element.map move)) := by
  have tags : second.tags.filter isHeading = (first.tags.filter isHeading).map move := by
    rw [counterpart.tags_eq]
    exact filter_move fun tag _ => isHeading_eq counterpart tag
  have listed : ∀ tag ∈ first.tags.filter isHeading, tag ∈ first.tags :=
    fun tag member => (List.mem_filter.mp member).1
  have sound := pairHeadingsFrom_sound first (List.forall_mem_nil _) listed
  have paired : pairHeadingsFrom [] ((first.tags.filter isHeading).map move) =
      (pairHeadingsFrom [] (first.tags.filter isHeading)).map (List.map (Element.map move)) :=
    pairHeadingsFrom_eq counterpart [] _
  unfold pairHeadings
  rw [tags, paired]
  cases result : pairHeadingsFrom [] (first.tags.filter isHeading) with
  | error finding => rfl
  | ok headings =>
      rw [result] at sound
      exact congrArg Except.ok (Element.sortByStart_map move fun heading member next present =>
        counterpart.start_le_iff (sound heading member).1 (sound next present).1)

private theorem headingContents_eq (counterpart : Counterpart first second move)
    {headings : List Element} (holds : ∀ heading ∈ headings, first.Holds heading) :
    headingContents second (headings.map (Element.map move)) = headingContents first headings := by
  induction headings with
  | nil => rfl
  | cons heading rest ih =>
      obtain ⟨here, later⟩ := List.forall_mem_cons.mp holds
      obtain ⟨part, other, cut, otherCut, alike⟩ := counterpart.inner here
      have named : (heading.map move).opening.name = heading.opening.name :=
        counterpart.name_eq heading.opening
      simp only [List.map_cons, headingContents, cut, otherCut, Option.bind_eq_bind,
        Option.bind_some, alike.shown, named, blockLevelIn?_eq counterpart here, ih later]
      cases blockLevelIn? first (heading.innerSpan first.length) with
      | none => rfl
      | some block =>
          simp only [Option.map_some, blockInHeading, isHeading_eq counterpart, counterpart.name_eq]

theorem heading_eq (counterpart : Counterpart first second move) :
    heading second = heading first := by
  have sound := pairHeadings_sound first
  unfold heading
  rw [pairHeadings_eq counterpart]
  cases paired : pairHeadings first with
  | error finding => rfl
  | ok headings =>
      rw [paired] at sound
      exact headingContents_eq counterpart sound

/-! ### Paragraphs and anchors -/

private theorem turns_eq (counterpart : Counterpart first second move) (name plural : String)
    (depth : Nat) (tags : List Tag) :
    turns name plural depth (tags.map move) = turns name plural depth tags := by
  induction tags generalizing depth with
  | nil => rfl
  | cons tag rest ih =>
      simp only [List.map_cons, turns, counterpart.isOpening_eq, ih]

private theorem balance_eq (counterpart : Counterpart first second move) (name plural : String) :
    balance second name plural = balance first name plural := by
  have paired : (second.tagsNamed name).filter Tag.isPaired =
      ((first.tagsNamed name).filter Tag.isPaired).map move := by
    rw [counterpart.named]
    exact filter_move fun tag _ => counterpart.isPaired_eq tag
  have opening : (((first.tagsNamed name).filter Tag.isPaired).map move).filter Tag.isOpening =
      (((first.tagsNamed name).filter Tag.isPaired).filter Tag.isOpening).map move :=
    filter_move fun tag _ => counterpart.isOpening_eq tag
  unfold balance
  simp only [paired, opening, List.length_map, turns_eq counterpart]

private theorem emptyParagraphs_eq (counterpart : Counterpart first second move)
    {paragraphs : List Element} (holds : ∀ element ∈ paragraphs, first.Holds element) :
    emptyParagraphs second (paragraphs.map (Element.map move)) =
      emptyParagraphs first paragraphs := by
  induction paragraphs with
  | nil => rfl
  | cons paragraph rest ih =>
      obtain ⟨here, later⟩ := List.forall_mem_cons.mp holds
      obtain ⟨part, other, cut, otherCut, alike⟩ := counterpart.inner here
      have inner : paragraph.inner? first.source = some part := cut
      have otherInner : (paragraph.map move).inner? second.source = some other := otherCut
      simp only [List.map_cons, emptyParagraphs, inner, otherInner, ih later,
        Option.bind_eq_bind, Option.bind_some, alike.blank]

theorem paragraph_eq (counterpart : Counterpart first second move) :
    paragraph second = paragraph first := by
  have holds : ∀ element ∈ Element.pair first.tags "p", first.Holds element :=
    fun element member => Document.holds_of_mem_pair member
  have blocks : ((Element.pair first.tags "p").map (Element.map move)).findSome? (fun paragraph =>
      blockLevelIn? second (paragraph.innerSpan second.length)) =
      ((Element.pair first.tags "p").findSome? fun paragraph =>
        blockLevelIn? first (paragraph.innerSpan first.length)).map move :=
    findSome?_move fun element member => blockLevelIn?_eq counterpart (holds element member)
  unfold paragraph
  simp only [balance_eq counterpart, counterpart.pair, blocks,
    emptyParagraphs_eq counterpart holds]
  cases balance first "p" "paragraphs" with
  | some finding => rfl
  | none =>
      cases (Element.pair first.tags "p").findSome? fun paragraph =>
          blockLevelIn? first (paragraph.innerSpan first.length) with
      | none => rfl
      | some block => simp only [Option.map_some, counterpart.name_eq]

private theorem anchorContents_eq (counterpart : Counterpart first second move)
    {anchors : List Element} (holds : ∀ element ∈ anchors, first.Holds element) :
    anchorContents second (anchors.map (Element.map move)) = anchorContents first anchors := by
  induction anchors with
  | nil => rfl
  | cons anchor rest ih =>
      obtain ⟨here, later⟩ := List.forall_mem_cons.mp holds
      obtain ⟨part, other, cut, otherCut, alike⟩ := counterpart.inner here
      have inner : anchor.inner? first.source = some part := cut
      have otherInner : (anchor.map move).inner? second.source = some other := otherCut
      have attributes : (anchor.map move).opening.attributes = anchor.opening.attributes :=
        counterpart.attributes_eq anchor.opening
      have target : (anchor.map move).opening.attribute? "href" =
          anchor.opening.attribute? "href" := counterpart.attribute?_eq anchor.opening "href"
      simp only [List.map_cons, anchorContents, attributes, target, inner, otherInner, ih later,
        Option.bind_eq_bind, Option.bind_some, alike.shown]

theorem anchor_eq (counterpart : Counterpart first second move) : anchor second = anchor first := by
  have holds : ∀ element ∈ Element.pair first.tags "a", first.Holds element :=
    fun element member => Document.holds_of_mem_pair member
  unfold anchor
  rw [balance_eq counterpart, counterpart.pair, anchorContents_eq counterpart holds]

end Rules

/-! ### Components and chains -/

namespace Document.Counterpart

variable {first second : Document} {move : Tag → Tag}

theorem validator_run (counterpart : Counterpart first second move) (component : Component) :
    component.validator.run second = component.validator.run first := by
  cases component with
  | doctype => exact Rules.doctype_eq counterpart
  | html => exact Rules.root_eq counterpart
  | head => exact Rules.head_eq counterpart
  | body => exact Rules.body_eq counterpart
  | title => exact Rules.title_eq counterpart
  | heading => exact Rules.heading_eq counterpart
  | paragraph => exact Rules.paragraph_eq counterpart
  | anchor => exact Rules.anchor_eq counterpart
  | markdown => rfl

/-- No chain of a registry tells a document from its counterpart. -/
theorem chain_run (counterpart : Counterpart first second move) {registry : Registry}
    {kind : InputKind} {chain : ValidatorChain}
    (resolved : ValidatorChain.ofRegistry registry kind = .ok chain) :
    chain.run second = chain.run first := by
  have each (member : Component × Validator) (present : member ∈ chain.members) :
      ValidatorChain.contribution second member = ValidatorChain.contribution first member := by
    unfold ValidatorChain.contribution
    rw [ValidatorChain.members_eq resolved member present, counterpart.validator_run]
  rw [ValidatorChain.run_eq_foldl, ValidatorChain.run_eq_foldl, List.map_congr_left each]

end Document.Counterpart

end PageCheck
