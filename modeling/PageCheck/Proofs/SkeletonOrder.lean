import PageCheck.Proofs.Skeleton
import PageCheck.Proofs.VisibleText

/-! The order of the tags of the skeleton.  The rules for the root element, the head, the
body and the title look at different tags and at different parts of the text; together
they leave one arrangement only, in which the head is closed before the body begins and
the body before the root element ends. -/

set_option autoImplicit false

namespace PageCheck

open ValidatorChain (Accepts)

namespace Tag

theorem not_in_blank {text part : List Char} {tag : Tag} (member : tag ∈ scan text)
    {span : Span} (cut : Text.slice? text span = some part) (blank : Text.allBlank part = true) :
    ¬ (span.start ≤ tag.span.start ∧ tag.span.stop ≤ span.stop) := by
  rintro ⟨starts, stops⟩
  obtain ⟨left, right, textEq, rfl⟩ := Text.slice?_eq_some cut
  obtain ⟨before, written, after, -, same, rfl⟩ := exists_text_of_mem_scan member
  simp only [TagText.placed] at starts stops
  obtain ⟨lead, rfl, rest⟩ := Text.append_of_byteLength_le (textEq.symm.trans same) starts
  have joined : (lead ++ written.text) ++ after = part ++ right := by
    rw [List.append_assoc, ← rest]
  have short : Text.byteLength (lead ++ written.text) ≤ Text.byteLength part := by
    rw [Text.byteLength_append] at stops ⊢
    omega
  obtain ⟨trail, rfl, -⟩ := Text.append_of_byteLength_le joined short
  have bracket : '<' ∈ written.text := List.mem_cons_self
  exact Text.not_mem_of_allBlank blank Text.isBlank_bracket
    (List.mem_append_left _ (List.mem_append_right _ bracket))

/-- The last of the tags, where one of them stands behind an offset, stands there too. -/
theorem Ordered.getLast?_of_filter {tags : List Tag} (ordered : Ordered tags) (offset : Nat)
    {last : Tag}
    (found : (tags.filter fun tag => decide (offset ≤ tag.span.start)).getLast? = some last) :
    tags.getLast? = some last := by
  rcases List.eq_nil_or_concat tags with rfl | ⟨front, final, rfl⟩
  · cases found
  · rw [List.concat_eq_append] at ordered found ⊢
    have behind : offset ≤ final.span.start := by
      obtain ⟨present, later⟩ := List.mem_filter.mp (List.mem_of_getLast? found)
      rw [decide_eq_true_eq] at later
      rcases List.mem_append.mp present with earlier | same
      · have apart := ordered.append earlier (List.mem_singleton_self final)
        have filled := ordered.filled (List.mem_append_left _ earlier)
        omega
      · rw [← List.mem_singleton.mp same]
        exact later
    rw [List.filter_append, List.filter_cons_of_pos (by simpa using behind), List.filter_nil,
      List.getLast?_concat] at found
    rw [List.getLast?_concat, found]

end Tag

namespace Document

/-- One opening tag each for the root element, the head, the body and the title, with the
closing tags that go with them, in the order in which a page has them. -/
structure Layout (document : Document)
    (root head body title headEnd bodyEnd rootEnd : Tag) : Prop where
  root_only : (document.tagsNamed "html").filter Tag.isOpening = [root]
  head_only : (document.tagsNamed "head").filter Tag.isOpening = [head]
  body_only : (document.tagsNamed "body").filter Tag.isOpening = [body]
  title_only : (document.tagsNamed "title").filter Tag.isOpening = [title]
  head_end : ((document.tagsNamed "head").find? fun tag =>
    tag.isClosing && decide (head.span.stop ≤ tag.span.start)) = some headEnd
  body_end : ((document.tagsNamed "body").find? fun tag =>
    tag.isClosing && decide (body.span.stop ≤ tag.span.start)) = some bodyEnd
  root_end : ((document.tagsNamed "html").filter Tag.isClosing).getLast? = some rootEnd
  root_before_body : root.span.stop ≤ body.span.start
  head_closed : head.span.stop ≤ headEnd.span.start
  head_before_body : headEnd.span.stop ≤ body.span.start
  body_closed : body.span.stop ≤ bodyEnd.span.start
  body_before_root_end : bodyEnd.span.stop ≤ rootEnd.span.start
  title_in_head : head.span.stop ≤ title.span.start ∧ title.span.start < headEnd.span.start
  head_free : ∀ tag ∈ document.tags, head.span.stop ≤ tag.span.start →
    tag.span.stop ≤ headEnd.span.start → tag.name ≠ "html" ∧ tag.name ≠ "body"
  body_free : ∀ tag ∈ document.tags, body.span.stop ≤ tag.span.start →
    tag.span.stop ≤ bodyEnd.span.start → tag.name ∉ Vocabulary.notInBody

variable {document : Document}

/-! ### What each rule adds -/

/-- The root element is closed by the last closing tag of its name, and a body opens
between its tags. -/
theorem exists_root_end (accepted : Accepts Rules.root document) :
    ∃ root rootEnd body, (document.tagsNamed "html").filter Tag.isOpening = [root] ∧
      ((document.tagsNamed "html").filter Tag.isClosing).getLast? = some rootEnd ∧
      body ∈ (document.tagsNamed "body").filter Tag.isOpening ∧
      root.span.stop ≤ body.span.start ∧ body.span.stop ≤ rootEnd.span.start := by
  obtain ⟨root, rootEnd, -, -, openings, last, -, -, -, -, content⟩ := Rules.root_accepts accepted
  obtain ⟨body, opens, inside⟩ := exists_body_within content
  refine ⟨root, rootEnd, body, openings, ?_, opens, Span.encloses_iff.mp inside⟩
  have ordered : Tag.Ordered ((document.tagsNamed "html").filter Tag.isClosing) :=
    (document.tags_ordered.named "html").sublist List.filter_sublist
  apply ordered.getLast?_of_filter root.span.stop
  rw [List.filter_filter]
  simpa only [Bool.and_comm] using last

/-- A body that holds no closing root tag, though one follows its opening tag, is closed
before that tag. -/
theorem exists_body_end (accepted : Accepts Rules.body document) {body rootEnd : Tag}
    (only : (document.tagsNamed "body").filter Tag.isOpening = [body])
    (present : rootEnd ∈ document.tags) (named : rootEnd.name = "html")
    (behind : body.span.stop ≤ rootEnd.span.start) :
    ∃ bodyEnd, ((document.tagsNamed "body").find? fun tag =>
        tag.isClosing && decide (body.span.stop ≤ tag.span.start)) = some bodyEnd ∧
      bodyEnd.span.stop ≤ rootEnd.span.start ∧
      ∀ tag ∈ document.tags, body.span.stop ≤ tag.span.start →
        tag.span.stop ≤ bodyEnd.span.start → tag.name ∉ Vocabulary.notInBody := by
  have single := Element.pair_single document.tags_ordered only
  rcases Rules.body_accepts accepted with none | ⟨_, -, free⟩
  · rw [none] at only
    cases only
  have allowed := free _ (Element.first?_of_pair single)
  have disallowed : rootEnd.name ∈ Vocabulary.notInBody := by
    rw [named]
    decide
  cases closed : (Tag.named document.tags "body").find? (fun tag =>
      tag.isClosing && decide (body.span.stop ≤ tag.span.start)) with
  | none =>
      rw [closed] at allowed
      have inText := stop_le_length present
      refine absurd disallowed (allowed rootEnd (List.mem_filter.mpr ⟨present, ?_⟩))
      exact Span.encloses_iff.mpr ⟨behind, Nat.le_trans inText (Nat.le_max_left _ _)⟩
  | some bodyEnd =>
      rw [closed] at allowed
      obtain ⟨listed, alsoNamed, closes⟩ := mem_closing closed
      rw [Element.innerSpan_of_closing rfl closes] at allowed
      refine ⟨bodyEnd, closed, ?_, fun tag member starts stops =>
        allowed tag (List.mem_filter.mpr ⟨member, Span.encloses_iff.mpr ⟨starts, stops⟩⟩)⟩
      rcases document.tags_ordered.apart present listed with same | before | after
      · rw [same, alsoNamed] at named
        exact absurd named (by decide)
      · refine absurd disallowed (allowed rootEnd (List.mem_filter.mpr ⟨present, ?_⟩))
        exact Span.encloses_iff.mpr ⟨behind, before⟩
      · exact after

/-- The head is closed before a body that opens inside the root element. -/
theorem exists_head_end (accepted : Accepts Rules.head document) {root body : Tag}
    (rootOnly : (document.tagsNamed "html").filter Tag.isOpening = [root])
    (bodyOnly : (document.tagsNamed "body").filter Tag.isOpening = [body])
    (behind : root.span.stop ≤ body.span.start) :
    ∃ head headEnd, (document.tagsNamed "head").filter Tag.isOpening = [head] ∧
      ((document.tagsNamed "head").find? fun tag =>
        tag.isClosing && decide (head.span.stop ≤ tag.span.start)) = some headEnd ∧
      headEnd.span.stop ≤ body.span.start ∧
      ∀ tag ∈ document.tags, head.span.stop ≤ tag.span.start →
        tag.span.stop ≤ headEnd.span.start → tag.name ≠ "html" ∧ tag.name ≠ "body" := by
  obtain ⟨head, headEnd, gap, headOnly, gapCut, blank, closed, within⟩ :=
    Rules.head_accepts accepted
  have ordered := document.tags_ordered
  obtain ⟨rootPresent, rootNamed, -⟩ := mem_openings rootOnly
  obtain ⟨headPresent, headNamed, -⟩ := mem_openings headOnly
  obtain ⟨bodyPresent, bodyNamed, -⟩ := mem_openings bodyOnly
  obtain ⟨endPresent, endNamed, closes⟩ := mem_closing closed
  have free : ∀ tag ∈ document.tags, head.span.stop ≤ tag.span.start →
      tag.span.stop ≤ headEnd.span.start → tag.name ≠ "html" ∧ tag.name ≠ "body" :=
    fun tag member starts stops =>
      within tag (List.mem_filter.mpr ⟨member, Span.encloses_iff.mpr ⟨starts, stops⟩⟩)
  refine ⟨head, headEnd, headOnly, closed, ?_, free⟩
  have behindEnd {tag : Tag} (member : tag ∈ document.tags)
      (named : tag.name = "html" ∨ tag.name = "body") (starts : head.span.stop ≤ tag.span.start) :
      headEnd.span.stop ≤ tag.span.start := by
    rcases ordered.apart member endPresent with same | before | after
    · rw [same, endNamed] at named
      exact absurd named (by decide)
    · have excluded := free tag member starts before
      exact absurd named (not_or.mpr excluded)
    · exact after
  rcases ordered.apart rootPresent headPresent with same | rootFirst | headFirst
  · rw [same, headNamed] at rootNamed
    exact absurd rootNamed (by decide)
  · have cut := Accepted.gap_blank rootOnly gapCut rootFirst
    rcases ordered.apart bodyPresent headPresent with same | bodyFirst | headFirst
    · rw [same, headNamed] at bodyNamed
      exact absurd bodyNamed (by decide)
    · exact absurd ⟨behind, bodyFirst⟩
        (Tag.not_in_blank (document.tags_eq_scan ▸ bodyPresent) cut blank)
    · exact behindEnd bodyPresent (Or.inr bodyNamed) headFirst
  · have filled := ordered.filled rootPresent
    have before := behindEnd rootPresent (Or.inl rootNamed) headFirst
    omega

theorem exists_title (accepted : Accepts Rules.title document) {head headEnd : Tag}
    (only : (document.tagsNamed "head").filter Tag.isOpening = [head])
    (closed : ((document.tagsNamed "head").find? fun tag =>
      tag.isClosing && decide (head.span.stop ≤ tag.span.start)) = some headEnd) :
    ∃ title, (document.tagsNamed "title").filter Tag.isOpening = [title] ∧
      head.span.stop ≤ title.span.start ∧ title.span.start < headEnd.span.start := by
  obtain ⟨-, -, closes⟩ := mem_closing closed
  have single := Element.pair_single document.tags_ordered only
  have closedBy : (Tag.named document.tags "head").find? (fun tag =>
      tag.isClosing && decide (head.span.stop ≤ tag.span.start)) = some headEnd := closed
  rw [closedBy] at single
  obtain ⟨title, -, titles, inside, -⟩ :=
    exists_only_title accepted (Element.first?_of_pair single)
  have openings := Element.pair_openings document.tags_ordered "title"
  rw [titles] at openings
  rw [Element.innerSpan_of_closing rfl closes] at inside
  rw [Span.contains_iff] at inside
  exact ⟨title.opening, openings.symm, inside⟩

/-! ### All of them together -/

/-- A document that the rules for the root element, the head, the body and the title accept
has the layout of a page. -/
theorem exists_layout (document : Document) (root : Accepts Rules.root document)
    (head : Accepts Rules.head document) (body : Accepts Rules.body document)
    (title : Accepts Rules.title document) :
    ∃ root head body title headEnd bodyEnd rootEnd,
      document.Layout root head body title headEnd bodyEnd rootEnd := by
  obtain ⟨rootTag, rootEnd, bodyTag, rootOnly, rootLast, bodyListed, rootBefore, bodyBefore⟩ :=
    exists_root_end root
  have bodyOnly : (document.tagsNamed "body").filter Tag.isOpening = [bodyTag] := by
    rcases Rules.body_accepts body with none | ⟨only, single, -⟩
    · rw [none] at bodyListed
      cases bodyListed
    · rw [single] at bodyListed ⊢
      rw [List.mem_singleton.mp bodyListed]
  obtain ⟨rootEndPresent, rootEndNamed⟩ :=
    Tag.mem_named.mp (List.mem_filter.mp (List.mem_of_getLast? rootLast)).1
  obtain ⟨bodyEnd, bodyClosed, bodyEnds, bodyFree⟩ :=
    exists_body_end body bodyOnly rootEndPresent rootEndNamed bodyBefore
  obtain ⟨headTag, headEnd, headOnly, headClosed, headEnds, headFree⟩ :=
    exists_head_end head rootOnly bodyOnly rootBefore
  obtain ⟨titleTag, titleOnly, titleInside⟩ := exists_title title headOnly headClosed
  exact ⟨rootTag, headTag, bodyTag, titleTag, headEnd, bodyEnd, rootEnd,
    { root_only := rootOnly
      head_only := headOnly
      body_only := bodyOnly
      title_only := titleOnly
      head_end := headClosed
      body_end := bodyClosed
      root_end := rootLast
      root_before_body := rootBefore
      head_closed := (mem_closing headClosed).2.2
      head_before_body := headEnds
      body_closed := (mem_closing bodyClosed).2.2
      body_before_root_end := bodyEnds
      title_in_head := titleInside
      head_free := headFree
      body_free := bodyFree }⟩

def overclosedPage : Document :=
  .ofText ("<html lang=\"en\"><head><title>T</title></head><body>x</p></body>" ++
    "</head></html> </html>").toList

theorem exists_layout_of_overclosed_page :
    Accepts Rules.root overclosedPage ∧ Accepts Rules.head overclosedPage ∧
      Accepts Rules.body overclosedPage ∧ Accepts Rules.title overclosedPage ∧
      ∃ root head body title headEnd bodyEnd rootEnd,
        overclosedPage.Layout root head body title headEnd bodyEnd rootEnd := by
  have root : Accepts Rules.root overclosedPage := ⟨.clean, by decide +kernel, rfl⟩
  have head : Accepts Rules.head overclosedPage := ⟨.clean, by decide +kernel, rfl⟩
  have body : Accepts Rules.body overclosedPage := ⟨.clean, by decide +kernel, rfl⟩
  have title : Accepts Rules.title overclosedPage := ⟨.clean, by decide +kernel, rfl⟩
  exact ⟨root, head, body, title, exists_layout overclosedPage root head body title⟩

end Document

end PageCheck
