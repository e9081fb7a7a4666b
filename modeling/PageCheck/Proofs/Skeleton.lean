import PageCheck.Proofs.Acceptance
import PageCheck.Proofs.Rescanning

/-! The skeleton of an accepted page: the root element, its head with the title, and
its body.  There is exactly one element of each name, though the rules do not say
that one lies inside the other. -/

set_option autoImplicit false

namespace PageCheck

namespace Element

theorem innerSpan_of_closing {element : Element} {closing : Tag}
    (closed : element.closing = some closing)
    (behind : element.opening.span.stop ≤ closing.span.start) (length : Nat) :
    element.innerSpan length = ⟨element.opening.span.stop, closing.span.start⟩ := by
  simp only [innerSpan, closed, Nat.max_eq_left behind]

theorem innerSpan_of_unclosed {element : Element} (unclosed : element.closing = none)
    {length : Nat} (inText : element.opening.span.stop ≤ length) :
    element.innerSpan length = ⟨element.opening.span.stop, length⟩ := by
  simp only [innerSpan, unclosed, Nat.max_eq_left inText]

end Element

namespace Document

theorem tags_ordered (document : Document) : Tag.Ordered document.tags := by
  rw [document.tags_eq_scan]
  exact Tag.scan_ordered document.source

theorem stop_le_length {document : Document} {tag : Tag} (member : tag ∈ document.tags) :
    tag.span.stop ≤ document.length := by
  rw [document.tags_eq_scan] at member
  exact Tag.stop_le_byteLength member

/-- The first opening tag of a name is a tag of the document. -/
theorem mem_openings {document : Document} {name : String} {opening : Tag} {others : List Tag}
    (openings : (document.tagsNamed name).filter Tag.isOpening = opening :: others) :
    opening ∈ document.tags ∧ opening.name = name ∧ opening.isOpening = true := by
  have member : opening ∈ (document.tagsNamed name).filter Tag.isOpening := by
    rw [openings]
    exact List.mem_cons_self
  obtain ⟨named, opens⟩ := List.mem_filter.mp member
  obtain ⟨present, same⟩ := Tag.mem_named.mp named
  exact ⟨present, same, opens⟩

theorem mem_closing {document : Document} {name : String} {offset : Nat} {closing : Tag}
    (found : ((document.tagsNamed name).find? fun tag =>
      tag.isClosing && decide (offset ≤ tag.span.start)) = some closing) :
    closing ∈ document.tags ∧ closing.name = name ∧ offset ≤ closing.span.start := by
  obtain ⟨present, same⟩ := Tag.mem_named.mp (List.mem_of_find?_eq_some found)
  have behind := List.find?_some found
  rw [Bool.and_eq_true, decide_eq_true_eq] at behind
  exact ⟨present, same, behind.2⟩

/-- No comment begins inside an opening tag with one of the names and ends behind it. -/
def Uncut (document : Document) (names : List String) : Prop :=
  ∀ tag ∈ document.tags, tag.kind = .opening → tag.name ∈ names →
    ∀ comment ∈ Comment.spans document.source, ¬ comment.Crosses tag.span.stop

instance (document : Document) (names : List String) : Decidable (document.Uncut names) := by
  unfold Uncut
  infer_instance

/-- The elements of an accepted page, with what the rules say of each. -/
structure Skeleton (document : Document) (root head title body : Element) : Prop where
  root_eq : Element.pair document.tags "html" = [root]
  head_eq : Element.pair document.tags "head" = [head]
  title_eq : Element.pair document.tags "title" = [title]
  body_eq : Element.pair document.tags "body" = [body]
  root_closed : root.isClosed = true
  head_closed : head.isClosed = true
  gap_blank : root.opening.span.stop ≤ head.opening.span.start →
    ∃ gap, document.slice? ⟨root.opening.span.stop, head.opening.span.start⟩ = some gap ∧
      Text.allBlank gap = true
  head_free : ∀ tag ∈ Tag.within document.tags (head.innerSpan document.length),
    tag.name ≠ "html" ∧ tag.name ≠ "body"
  title_inside : (head.innerSpan document.length).contains title.start = true
  title_text : ∃ text,
    document.slice? (Rules.titleSpan title (head.innerSpan document.length)) = some text ∧
      Content.visible text ≠ []

/-- The root element holds an opening body tag. -/
theorem exists_body_within {document : Document} {range : Span}
    (accepted : Rules.rootContent (Tag.within document.tags range) = none) :
    ∃ body ∈ (document.tagsNamed "body").filter Tag.isOpening,
      range.encloses body.span = true := by
  obtain ⟨body, bodies, -⟩ := Rules.rootContent_eq_none accepted
  have listed : body ∈ (Tag.within document.tags range).filter
      fun tag => tag.name == "body" && tag.isOpening := by
    rw [bodies]
    exact List.mem_singleton_self body
  obtain ⟨within, opens⟩ := List.mem_filter.mp listed
  obtain ⟨present, inside⟩ := List.mem_filter.mp within
  rw [Bool.and_eq_true, beq_iff_eq] at opens
  exact ⟨body, List.mem_filter.mpr ⟨Tag.mem_named.mpr ⟨present, opens.1⟩, opens.2⟩, inside⟩

/-- A title that the rule for it accepts is the only one, and lies in the head given. -/
theorem exists_only_title {document : Document}
    (accepted : ValidatorChain.Accepts Rules.title document) {head : Element}
    (first : Element.first? document.tags "head" = some head) :
    ∃ title text, Element.pair document.tags "title" = [title] ∧
      (head.innerSpan document.length).contains title.start = true ∧
      document.slice? (Rules.titleSpan title (head.innerSpan document.length)) = some text ∧
      Content.visible text ≠ [] := by
  obtain ⟨other, title, text, otherFirst, found, atMost, cut, seen⟩ :=
    Rules.title_accepts accepted
  rw [first, Option.some.injEq] at otherFirst
  subst otherFirst
  have inside := List.find?_some found
  refine ⟨title, text, ?_, inside, cut, seen⟩
  have present := List.mem_of_find?_eq_some found
  match titles : Element.pair document.tags "title", atMost, present with
  | [single], _, present => rw [List.mem_singleton.mp present]

namespace Accepted

variable {document : Document}

theorem exists_root (accepted : document.Accepted) :
    ∃ root, Element.pair document.tags "html" = [root] ∧ root.isClosed = true := by
  obtain ⟨opening, closing, -, -, openings, last, -⟩ := Rules.root_accepts accepted.root
  have single := Element.pair_single document.tags_ordered openings
  refine ⟨_, single, ?_⟩
  obtain ⟨present, behind⟩ := List.mem_filter.mp (List.mem_of_getLast? last)
  exact List.find?_isSome.mpr ⟨closing, present, behind⟩

theorem exists_body (accepted : document.Accepted) :
    ∃ body, Element.pair document.tags "body" = [body] := by
  rcases Rules.body_accepts accepted.body with none | ⟨opening, openings, -⟩
  · obtain ⟨opening, closing, -, -, -, -, -, -, -, -, content⟩ := Rules.root_accepts accepted.root
    obtain ⟨body, opens, -⟩ := exists_body_within content
    rw [none] at opens
    cases opens
  · exact ⟨_, Element.pair_single document.tags_ordered openings⟩

/-- There is a gap of white space between the root tag and the head behind it. -/
theorem gap_blank {document : Document} {opening offset} {gap : List Char}
    (openings : (document.tagsNamed "html").filter Tag.isOpening = [opening])
    (cut : Rules.gapBefore? document offset = some gap)
    (before : opening.span.stop ≤ offset) :
    document.slice? ⟨opening.span.stop, offset⟩ = some gap := by
  have found : (document.tagsNamed "html").find? (fun tag =>
      tag.isOpening && decide (tag.span.stop ≤ offset)) = some opening := by
    have narrowed := congrArg
      (List.find? fun tag : Tag => decide (tag.span.stop ≤ offset)) openings
    rw [List.find?_cons_of_pos (by simpa using before), List.find?_filter] at narrowed
    simpa using narrowed
  unfold Rules.gapBefore? at cut
  rw [found] at cut
  exact cut

theorem exists_skeleton (accepted : document.Accepted) :
    ∃ root head title body, document.Skeleton root head title body := by
  obtain ⟨root, rootEq, rootClosed⟩ := accepted.exists_root
  obtain ⟨body, bodyEq⟩ := accepted.exists_body
  obtain ⟨opening, closing, gap, openings, gapCut, gapBlank, closes, free⟩ :=
    Rules.head_accepts accepted.head
  have headEq := Element.pair_single document.tags_ordered openings
  have closingEq : (Tag.named document.tags "head").find? (fun tag =>
      tag.isClosing && decide (opening.span.stop ≤ tag.span.start)) = some closing := closes
  rw [closingEq] at headEq
  obtain ⟨-, -, behind⟩ := mem_closing closes
  obtain ⟨title, text, titleEq, inside, cut, seen⟩ :=
    exists_only_title accepted.title (Element.first?_of_pair headEq)
  refine ⟨root, ⟨opening, some closing⟩, title, body, rootEq, headEq, titleEq, bodyEq, rootClosed,
    rfl, ?_, ?_, inside, text, cut, seen⟩
  · intro before
    have opens := Element.pair_openings document.tags_ordered "html"
    rw [rootEq] at opens
    exact ⟨gap, gap_blank opens.symm gapCut before, gapBlank⟩
  · rw [Element.innerSpan_of_closing rfl behind]
    exact free

end Accepted

end Document

end PageCheck
