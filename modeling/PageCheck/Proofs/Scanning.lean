import PageCheck.Proofs.Brackets

/-! The tags of a text.  The cursor that runs through the comments leaves out just
the tags that begin inside one; the tags that remain follow one another, and each
can be read again at its place.  An excerpt is a part of a text with a seam at
either end: scanned on its own it has the tags and the comments that the whole
text has there. -/

set_option autoImplicit false

namespace PageCheck

namespace Comment

theorem covers_eq_true {comments : List Span} {offset : Nat} :
    covers comments offset = true ↔
      ∃ comment ∈ comments, comment.start ≤ offset ∧ offset < comment.stop := by
  simp only [covers, List.any_eq_true, Span.contains_iff]

theorem spans_ordered (text : List Char) : Span.Ordered (spans text) :=
  bracketed.sound.ordered text

theorem spans_append {before after : List Char} (seam : pattern.Seam before after) :
    spans (before ++ after) =
      spans before ++ (spans after).map (Span.shift (Text.byteLength before)) :=
  seam.spans bracketed.sound

theorem covers_left {before after : List Char} (seam : pattern.Seam before after) {offset : Nat}
    (inside : offset < Text.byteLength before) :
    covers (spans (before ++ after)) offset = covers (spans before) offset :=
  seam.takes_left bracketed.sound inside

theorem covers_right {before after : List Char} (seam : pattern.Seam before after)
    (offset : Nat) :
    covers (spans (before ++ after)) (Text.byteLength before + offset) =
      covers (spans after) offset :=
  seam.takes_right bracketed.sound offset

theorem covers_zero (text : List Char) : covers (spans text) 0 = (pattern text).isSome :=
  bracketed.sound.takes_zero text

private theorem covers_dropWhile (comments : List Span) {bound offset : Nat}
    (le : bound ≤ offset) :
    covers (comments.dropWhile fun comment => decide (comment.stop ≤ bound)) offset =
      covers comments offset := by
  induction comments with
  | nil => rfl
  | cons comment rest ih =>
      by_cases passed : comment.stop ≤ bound
      · have outside : comment.contains offset = false := by
          simp only [Span.contains, Bool.and_eq_false_iff, decide_eq_false_iff_not]
          omega
        rw [List.dropWhile_cons_of_pos (by simpa using passed), ih, covers, covers,
          List.any_cons, outside, Bool.false_or]
      · rw [List.dropWhile_cons_of_neg (by simpa using passed)]

private theorem head_contains {comments : List Span} (ordered : Span.Ordered comments)
    {offset : Nat} (ahead : ∀ comment ∈ comments.head?, ¬ comment.stop ≤ offset) :
    comments.head?.any (·.contains offset) = covers comments offset := by
  cases comments with
  | nil => rfl
  | cons comment rest =>
      have later : rest.any (·.contains offset) = false := by
        rw [List.any_eq_false]
        intro other member contained
        have follows := List.rel_of_pairwise_cons ordered.1 member
        have reaches := ahead comment rfl
        rw [Span.contains_iff] at contained
        omega
      rw [covers, List.any_cons, later, Bool.or_false]
      rfl

end Comment

namespace Tag

/-- The cursor drops what begins in a comment, and nothing else. -/
theorem outsideComments_eq_filter {α : Type} {comments : List Span} {founds : List (Found α)}
    (ordered : Span.Ordered comments)
    (rising : founds.Pairwise fun earlier later => earlier.span.start ≤ later.span.start) :
    outsideComments comments founds =
      founds.filter fun found => !Comment.covers comments found.span.start := by
  induction founds generalizing comments with
  | nil => rfl
  | cons found rest ih =>
      obtain ⟨first, rising⟩ := List.pairwise_cons.mp rising
      have ahead : Span.Ordered
          (comments.dropWhile fun comment => decide (comment.stop ≤ found.span.start)) :=
        ⟨ordered.1.sublist (List.dropWhile_sublist _),
          fun span member => ordered.2 span ((List.dropWhile_sublist _).subset member)⟩
      have reaches : ∀ comment ∈ (comments.dropWhile fun comment =>
          decide (comment.stop ≤ found.span.start)).head?, ¬ comment.stop ≤ found.span.start := by
        intro comment member
        have stopped := List.head?_dropWhile_not
          (fun comment : Span => decide (comment.stop ≤ found.span.start)) comments
        rw [Option.mem_def.mp member] at stopped
        simpa using stopped
      have same : ∀ other ∈ rest,
          (!Comment.covers (comments.dropWhile fun comment =>
            decide (comment.stop ≤ found.span.start)) other.span.start) =
          !Comment.covers comments other.span.start := by
        intro other member
        rw [Comment.covers_dropWhile comments (first other member)]
      rw [outsideComments]
      simp only [Comment.head_contains ahead reaches,
        Comment.covers_dropWhile comments (Nat.le_refl _)]
      rw [ih ahead rising, List.filter_congr same, List.filter_cons]
      cases Comment.covers comments found.span.start <;> rfl

/-! ### What is scanned -/

def shift (count : Nat) (tag : Tag) : Tag :=
  { tag with span := tag.span.shift count }

def Ordered (tags : List Tag) : Prop :=
  Span.Ordered (tags.map (·.span))

theorem scan_eq_filter (text : List Char) :
    scan text =
      ((TagText.pattern.findAll text).filter fun found =>
        !Comment.covers (Comment.spans text) found.span.start).map fun found =>
          found.value.placed found.span := by
  have ordered := TagText.bracketed.sound.ordered text
  have rising : (TagText.pattern.findAll text).Pairwise fun earlier later =>
      earlier.span.start ≤ later.span.start := by
    have follow := List.pairwise_map.mp ordered.1
    refine follow.imp_of_mem ?_
    intro earlier later member _ before
    have filled := ordered.2 earlier.span (List.mem_map.mpr ⟨earlier, member, rfl⟩)
    omega
  unfold scan
  rw [outsideComments_eq_filter (Comment.spans_ordered text) rising]

theorem mem_scan {text : List Char} {tag : Tag} :
    tag ∈ scan text ↔
      ∃ found ∈ TagText.pattern.findAll text,
        Comment.covers (Comment.spans text) found.span.start = false ∧
          tag = found.value.placed found.span := by
  rw [scan_eq_filter, List.mem_map]
  constructor
  · rintro ⟨found, member, rfl⟩
    obtain ⟨present, outside⟩ := List.mem_filter.mp member
    exact ⟨found, present, by simpa using outside, rfl⟩
  · rintro ⟨found, present, outside, rfl⟩
    exact ⟨found, List.mem_filter.mpr ⟨present, by simp [outside]⟩, rfl⟩

theorem span_mem_of_mem_scan {text : List Char} {tag : Tag} (member : tag ∈ scan text) :
    tag.span ∈ TagText.pattern.spans text := by
  obtain ⟨found, present, -, rfl⟩ := mem_scan.mp member
  exact List.mem_map.mpr ⟨found, present, rfl⟩

theorem start_outside_comments {text : List Char} {tag : Tag} (member : tag ∈ scan text) :
    ∀ comment ∈ Comment.spans text, ¬ (comment.start ≤ tag.span.start ∧
      tag.span.start < comment.stop) := by
  obtain ⟨found, -, outside, rfl⟩ := mem_scan.mp member
  intro comment present inside
  have covered := Comment.covers_eq_true.mpr ⟨comment, present, inside⟩
  rw [show (found.value.placed found.span).span = found.span from rfl, outside] at covered
  cases covered

/-- The pattern of tags reads the tag where it stands in the text. -/
def ReadIn (text : List Char) (tag : Tag) : Prop :=
  ∃ before reading after, text = before ++ (reading.text ++ after) ∧
    TagText.pattern (reading.text ++ after) = some reading ∧
    tag = reading.value.placed ⟨Text.byteLength before,
      Text.byteLength before + Text.byteLength reading.text⟩

theorem readIn_of_mem_scan {text : List Char} {tag : Tag} (member : tag ∈ scan text) :
    tag.ReadIn text := by
  obtain ⟨found, present, -, rfl⟩ := mem_scan.mp member
  obtain ⟨before, reading, after, textEq, read, valueEq, spanEq⟩ :=
    TagText.bracketed.sound.found present
  exact ⟨before, reading, after, textEq, read, by rw [valueEq, spanEq]⟩

/-- A scanned tag is proper and stands in the text as it is written. -/
theorem exists_text_of_mem_scan {text : List Char} {tag : Tag} (member : tag ∈ scan text) :
    ∃ (before : List Char) (written : TagText) (after : List Char), written.Proper ∧
      text = before ++ (written.text ++ after) ∧
      tag = written.placed ⟨Text.byteLength before,
        Text.byteLength before + Text.byteLength written.text⟩ := by
  obtain ⟨before, reading, after, textEq, read, rfl⟩ := readIn_of_mem_scan member
  obtain ⟨proper, shape, -⟩ := TagText.pattern_eq_some read
  rw [shape] at textEq ⊢
  exact ⟨before, reading.value, after, proper, textEq, rfl⟩

theorem scan_ordered (text : List Char) : Ordered (scan text) := by
  obtain ⟨follow, filled⟩ := TagText.bracketed.sound.ordered text
  have kept : ((scan text).map (·.span)).Sublist (TagText.pattern.spans text) := by
    rw [scan_eq_filter, List.map_map]
    exact (List.filter_sublist).map _
  exact ⟨follow.sublist kept, fun span member => filled span (kept.subset member)⟩

theorem stop_le_byteLength {text : List Char} {tag : Tag} (member : tag ∈ scan text) :
    tag.span.stop ≤ Text.byteLength text := by
  obtain ⟨before, written, after, -, textEq, rfl⟩ := exists_text_of_mem_scan member
  rw [textEq, Text.byteLength_append, Text.byteLength_append]
  simp only [TagText.placed]
  omega

theorem start_lt_stop {text : List Char} {tag : Tag} (member : tag ∈ scan text) :
    tag.span.start < tag.span.stop :=
  (scan_ordered text).2 tag.span (List.mem_map.mpr ⟨tag, member, rfl⟩)

end Tag

end PageCheck
