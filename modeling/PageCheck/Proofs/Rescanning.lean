import PageCheck.Proofs.Excerpts
import PageCheck.Proofs.Pairing

/-! The inside of an element.  It can always be cut out of the text.  Unless a
comment begins in the opening tag and ends behind it, the inside is an excerpt, so
that scanning it again gives the tags and the comments that the text has there. -/

set_option autoImplicit false

namespace PageCheck

namespace Element

variable {text : List Char} {name : String} {element : Element}

private theorem innerSpan_stop (member : element ∈ pair (Tag.scan text) name) :
    ∃ before after, text = before ++ after ∧
      (element.innerSpan (Text.byteLength text)).stop = Text.byteLength before ∧
      element.opening.span.stop ≤ Text.byteLength before ∧
      (∀ span ∈ TagText.pattern.spans text, ¬ span.Crosses (Text.byteLength before)) ∧
      ∀ span ∈ Comment.spans text, ¬ span.Crosses (Text.byteLength before) := by
  have opening := (opening_mem_of_mem_pair member).1
  cases closed : element.closing with
  | none =>
      have inText := Tag.stop_le_byteLength opening
      refine ⟨text, [], by simp, ?_, inText, ?_, ?_⟩
      · simp only [innerSpan, closed]
        omega
      · intro span present crossed
        exact Nat.not_lt.mpr (TagText.bracketed.sound.stop_le present) crossed.2
      · intro span present crossed
        exact Nat.not_lt.mpr (Comment.bracketed.sound.stop_le present) crossed.2
  | some closing =>
      obtain ⟨present, -, -, behind⟩ :=
        closing_mem_of_mem_pair (Tag.scan_ordered text) member closed
      obtain ⟨before, written, after, -, textEq, placed⟩ := Tag.exists_text_of_mem_scan present
      have start : closing.span.start = Text.byteLength before := by
        rw [placed]
        rfl
      refine ⟨before, written.text ++ after, textEq, ?_, by omega, ?_, ?_⟩
      · simp only [innerSpan, closed]
        omega
      · intro span inSpans
        rw [← start]
        exact ((TagText.bracketed.sound.ordered text).uncut
          (Tag.span_mem_of_mem_scan present) inSpans).1
      · intro span inSpans crossed
        rw [← start] at crossed
        exact Tag.start_outside_comments present span inSpans
          ⟨Nat.le_of_lt crossed.1, crossed.2⟩

private theorem exists_parts (member : element ∈ pair (Tag.scan text) name) :
    ∃ before inside after, text = before ++ (inside ++ after) ∧
      Text.byteLength before = element.opening.span.stop ∧
      element.innerSpan (Text.byteLength text) =
        ⟨Text.byteLength before, Text.byteLength before + Text.byteLength inside⟩ ∧
      TagText.pattern.Seam before (inside ++ after) ∧
      TagText.pattern.Seam (before ++ inside) after ∧
      Comment.pattern.Seam (before ++ inside) after := by
  have opening := (opening_mem_of_mem_pair member).1
  obtain ⟨start, written, rest, -, textEq, placed⟩ := Tag.exists_text_of_mem_scan opening
  obtain ⟨whole, after, wholeEq, stopEq, le, tagsUncut, commentsUncut⟩ := innerSpan_stop member
  have stop : element.opening.span.stop = Text.byteLength (start ++ written.text) := by
    rw [placed, Text.byteLength_append]
    rfl
  rw [stop] at le
  have same : (start ++ written.text) ++ rest = whole ++ after := by
    rw [List.append_assoc, ← textEq, wholeEq]
  obtain ⟨inside, rfl, rfl⟩ := Text.append_of_byteLength_le same le
  refine ⟨start ++ written.text, inside, after, by rw [textEq, List.append_assoc], stop.symm,
    ?_, ?_, ?_, ?_⟩
  · rw [← Text.byteLength_append, ← stopEq, ← stop]
    rfl
  · apply TagText.bracketed.seam
    intro span present
    rw [List.append_assoc, ← textEq] at present
    rw [← stop]
    exact ((TagText.bracketed.sound.ordered text).uncut
      (Tag.span_mem_of_mem_scan opening) present).2
  · apply TagText.bracketed.seam
    rw [← wholeEq]
    exact tagsUncut
  · apply Comment.bracketed.seam
    rw [← wholeEq]
    exact commentsUncut

/-- The inside of an element of a text, which can always be cut out. -/
def inside (element : Element) (text : List Char) : List Char :=
  (element.inner? text).getD []

theorem inner?_eq_inside (member : element ∈ pair (Tag.scan text) name) :
    element.inner? text = some (element.inside text) := by
  obtain ⟨before, inside, after, textEq, -, spanEq, -⟩ := exists_parts member
  have cut : element.inner? text = some inside := by
    unfold inner?
    rw [spanEq, textEq]
    exact Text.slice?_append before inside after
  unfold Element.inside
  rw [cut]
  rfl

/-- The inside is an excerpt if no comment begins in the opening tag and ends behind it. -/
theorem exists_excerpt (member : element ∈ pair (Tag.scan text) name)
    (uncut : ∀ comment ∈ Comment.spans text, ¬ comment.Crosses element.opening.span.stop) :
    ∃ excerpt : Excerpt text (element.inside text),
      excerpt.offset = element.opening.span.stop ∧
        excerpt.span = element.innerSpan (Text.byteLength text) := by
  obtain ⟨before, inside, after, textEq, start, spanEq, tagsLeft, tagsRight, commentsRight⟩ :=
    exists_parts member
  have commentsLeft : Comment.pattern.Seam before (inside ++ after) := by
    apply Comment.bracketed.seam
    rw [← textEq, start]
    exact uncut
  have right : Seam inside after :=
    ⟨TagText.bracketed.seam_between tagsLeft tagsRight,
      Comment.bracketed.seam_between commentsLeft commentsRight⟩
  let excerpt : Excerpt text inside := ⟨before, after, textEq, ⟨tagsLeft, commentsLeft⟩, right⟩
  have insideEq : element.inside text = inside := by
    have cut := inner?_eq_inside member
    unfold inner? at cut
    rw [spanEq] at cut
    exact Option.some.inj (cut.symm.trans excerpt.slice)
  rw [insideEq]
  exact ⟨excerpt, start, spanEq.symm⟩

/-- Unless a comment begins in the opening tag and ends behind it, the inside of an element
has just the tags and the comments that the whole text has there. -/
theorem rescan_inside (member : element ∈ pair (Tag.scan text) name)
    (uncut : ∀ comment ∈ Comment.spans text,
      ¬ (element.opening.span.contains comment.start = true ∧
        element.opening.span.stop < comment.stop)) :
    ∃ inside, element.inner? text = some inside ∧
      (Tag.scan inside).map (Tag.shift element.opening.span.stop) =
        Tag.within (Tag.scan text) (element.innerSpan (Text.byteLength text)) ∧
      (Comment.spans inside).map (Span.shift element.opening.span.stop) =
        (Comment.spans text).filter (element.innerSpan (Text.byteLength text)).encloses := by
  have opening := (opening_mem_of_mem_pair member).1
  have filled := Tag.start_lt_stop opening
  have whole : ∀ comment ∈ Comment.spans text,
      ¬ comment.Crosses element.opening.span.stop := by
    intro comment present crossed
    unfold Span.Crosses at crossed
    -- a comment that begins before the opening tag would cover where that tag begins
    have outside := Tag.start_outside_comments opening comment present
    apply uncut comment present
    rw [Span.contains_iff]
    omega
  obtain ⟨excerpt, start, spanEq⟩ := exists_excerpt member whole
  refine ⟨element.inside text, inner?_eq_inside member, ?_, ?_⟩
  · rw [← start, ← spanEq]
    exact excerpt.scan_eq_within
  · rw [← start, ← spanEq]
    exact excerpt.comments_eq_within

def unclosedText : List Char :=
  "é<div title='<!-- > -->'>ü<!-- </div> --><div class=x>b</div><p".toList

theorem rescan_inside_of_unclosed :
    ∃ element ∈ pair (Tag.scan unclosedText) "div", element.closing = none ∧
      (∀ comment ∈ Comment.spans unclosedText,
        ¬ (element.opening.span.contains comment.start = true ∧
          element.opening.span.stop < comment.stop)) ∧
      ∃ inside, element.inner? unclosedText = some inside ∧
        (Tag.scan inside).map (Tag.shift element.opening.span.stop) =
          Tag.within (Tag.scan unclosedText)
            (element.innerSpan (Text.byteLength unclosedText)) ∧
        (Comment.spans inside).map (Span.shift element.opening.span.stop) =
          (Comment.spans unclosedText).filter
            (element.innerSpan (Text.byteLength unclosedText)).encloses := by
  let element : Element :=
    ⟨⟨"div", .opening, ⟨2, 26⟩, " title='<!-- > -->'".toList⟩, none⟩
  have member : element ∈ pair (Tag.scan unclosedText) "div" := by decide +kernel
  have uncut : ∀ comment ∈ Comment.spans unclosedText,
      ¬ (element.opening.span.contains comment.start = true ∧
        element.opening.span.stop < comment.stop) := by decide +kernel
  exact ⟨element, member, rfl, uncut, rescan_inside member uncut⟩

end Element

/-! ### Elements of an excerpt -/

namespace Excerpt

variable {text fragment : List Char} {name : String} {element : Element}

/-- A closed element of an excerpt is an element of the whole text. -/
theorem closed_mem_pair (excerpt : Excerpt text fragment)
    (member : element ∈ Element.pair (Tag.scan fragment) name)
    (closed : element.isClosed = true) :
    element.shift excerpt.offset ∈ Element.pair (Tag.scan text) name := by
  rw [excerpt.scan_parts]
  apply Element.closed_mem_pair_of_part
  · rw [Element.pair_shift]
    exact List.mem_map.mpr ⟨element, member, rfl⟩
  · rw [Element.isClosed_shift]
    exact closed

/-- The inside of an element of an excerpt, as an excerpt of the whole text. -/
theorem exists_inside (excerpt : Excerpt text fragment)
    (member : element ∈ Element.pair (Tag.scan fragment) name)
    (uncut : ∀ comment ∈ Comment.spans text,
      ¬ comment.Crosses (element.opening.shift excerpt.offset).span.stop) :
    ∃ inside : Excerpt text (element.inside fragment),
      inside.span = (element.innerSpan (Text.byteLength fragment)).shift excerpt.offset := by
  obtain ⟨within, start, spanEq⟩ := Element.exists_excerpt member (excerpt.uncut uncut)
  refine ⟨excerpt.trans within, ?_⟩
  unfold span
  rw [excerpt.trans_offset, ← spanEq, Nat.add_assoc]
  rfl

theorem opening_of_single (excerpt : Excerpt text fragment)
    (single : Element.pair (Tag.scan text) name = [element]) {inner : Element}
    (member : inner ∈ Element.pair (Tag.scan fragment) name) :
    inner.opening.shift excerpt.offset = element.opening ∧
      excerpt.span.encloses element.opening.span = true := by
  obtain ⟨opening, named, kind⟩ := Element.opening_mem_of_mem_pair member
  have opens : inner.opening.shift excerpt.offset ∈
      (Tag.named (Tag.scan text) name).filter Tag.isOpening :=
    List.mem_filter.mpr
      ⟨Tag.mem_named.mpr ⟨excerpt.mem_scan opening, named⟩, Tag.isOpening_iff.mpr kind⟩
  rw [← Element.pair_openings (Tag.scan_ordered text), single, List.map_singleton,
    List.mem_singleton] at opens
  exact ⟨opens, opens ▸ excerpt.encloses_shift opening⟩

private theorem find?_filter_of_find? {items : List Tag} {wanted kept : Tag → Bool} {item : Tag}
    (found : items.find? wanted = some item) (keeps : kept item = true) :
    (items.filter kept).find? wanted = some item := by
  obtain ⟨wants, before, after, rfl, passed⟩ := List.find?_eq_some_iff_append.mp found
  rw [List.filter_append, List.filter_cons_of_pos keeps]
  refine List.find?_eq_some_iff_append.mpr ⟨wants, _, _, rfl, ?_⟩
  intro other member
  exact passed other (List.mem_filter.mp member).1

private theorem named_eq_filter (excerpt : Excerpt text fragment) (name : String) :
    (Tag.named (Tag.scan fragment) name).map (Tag.shift excerpt.offset) =
      (Tag.named (Tag.scan text) name).filter fun tag => excerpt.span.encloses tag.span := by
  rw [← Tag.named_shift, excerpt.scan_eq_within]
  unfold Tag.within Tag.named
  rw [List.filter_filter, List.filter_filter]
  simp only [Bool.and_comm]

/-- The only element of its name, once more in an excerpt that holds its opening tag. -/
theorem exists_pair_single (excerpt : Excerpt text fragment)
    (single : Element.pair (Tag.scan text) name = [element])
    (opens : excerpt.span.encloses element.opening.span = true) :
    ∃ inner, Element.pair (Tag.scan fragment) name = [inner] ∧
      inner.opening.shift excerpt.offset = element.opening ∧
      ∀ closing, element.closing = some closing → excerpt.span.encloses closing.span = true →
        inner.shift excerpt.offset = element := by
  have ordered := Tag.scan_ordered text
  have moved := excerpt.named_eq_filter name
  have openings := Element.pair_openings ordered name
  rw [single, List.map_singleton] at openings
  have innerOpenings : ((Tag.named (Tag.scan fragment) name).filter Tag.isOpening).map
      (Tag.shift excerpt.offset) = [element.opening] := by
    have swapped : ((Tag.named (Tag.scan fragment) name).map (Tag.shift excerpt.offset)).filter
        Tag.isOpening = [element.opening] := by
      rw [moved, List.filter_filter]
      simp only [Bool.and_comm]
      rw [← List.filter_filter, ← openings, List.filter_cons, if_pos opens, List.filter_nil]
    rw [List.filter_map] at swapped
    exact swapped
  obtain ⟨opening, innerOpening, openingEq⟩ := List.map_eq_singleton_iff.mp innerOpenings
  refine ⟨_, Element.pair_single (Tag.scan_ordered fragment) innerOpening, openingEq, ?_⟩
  intro closing closed closes
  have whole := Element.pair_single ordered openings.symm
  rw [single, List.cons.injEq] at whole
  have found := closed
  rw [whole.1] at found
  have kept : ((Tag.named (Tag.scan text) name).filter fun tag =>
      excerpt.span.encloses tag.span).find? (fun tag =>
        tag.isClosing && decide (element.opening.span.stop ≤ tag.span.start)) = some closing :=
    find?_filter_of_find? found closes
  have behind : (fun tag : Tag =>
      tag.isClosing && decide (element.opening.span.stop ≤ tag.span.start)) ∘
        Tag.shift excerpt.offset = fun tag =>
          tag.isClosing && decide (opening.span.stop ≤ tag.span.start) := by
    funext tag
    have same : (opening.shift excerpt.offset).span.stop ≤ (tag.shift excerpt.offset).span.start ↔
        opening.span.stop ≤ tag.span.start := Nat.add_le_add_iff_left
    rw [← openingEq, Function.comp_apply, decide_eq_decide.mpr same]
    rfl
  rw [← moved, List.find?_map, behind] at kept
  unfold Element.shift
  rw [openingEq, kept, ← closed]

end Excerpt

end PageCheck
