import PageCheck.Proofs.Scanning

/-! Excerpts: parts of a text with a seam at either end, where neither a tag nor
a comment of the text is cut.  Scanned on its own an excerpt has the tags and the
comments that the whole text has there, moved to its beginning.  An excerpt of an
excerpt is an excerpt of the whole text. -/

set_option autoImplicit false

namespace PageCheck

/-! ### Slices -/

namespace Text

theorem slice?_append (before inside after : List Char) :
    slice? (before ++ (inside ++ after))
        ⟨byteLength before, byteLength before + byteLength inside⟩ =
      some inside := by
  unfold slice? Span.length
  rw [if_pos (Nat.le_add_right _ _), dropBytes?_append, Nat.add_sub_cancel_left]
  exact takeBytes?_append inside after

private theorem dropBytes?_eq_some {text rest : List Char} {count : Nat}
    (cut : dropBytes? text count = some rest) :
    ∃ before, text = before ++ rest ∧ byteLength before = count := by
  induction text generalizing count with
  | nil =>
      cases count with
      | zero =>
          rw [dropBytes?, Option.some.injEq] at cut
          exact ⟨[], cut, rfl⟩
      | succ count => cases cut
  | cons char text ih =>
      cases count with
      | zero =>
          rw [dropBytes?, Option.some.injEq] at cut
          exact ⟨[], cut, rfl⟩
      | succ count =>
          rw [dropBytes?] at cut
          split at cut
          · rename_i fits
            obtain ⟨before, rfl, size⟩ := ih cut
            refine ⟨char :: before, rfl, ?_⟩
            rw [byteLength, size]
            omega
          · cases cut

private theorem takeBytes?_eq_some {text part : List Char} {count : Nat}
    (cut : takeBytes? text count = some part) :
    ∃ rest, text = part ++ rest ∧ byteLength part = count := by
  induction text generalizing count part with
  | nil =>
      cases count with
      | zero =>
          rw [takeBytes?, Option.some.injEq] at cut
          exact ⟨[], by rw [← cut]; rfl, by rw [← cut]; rfl⟩
      | succ count => cases cut
  | cons char text ih =>
      cases count with
      | zero =>
          rw [takeBytes?, Option.some.injEq] at cut
          exact ⟨char :: text, by rw [← cut]; rfl, by rw [← cut]; rfl⟩
      | succ count =>
          rw [takeBytes?] at cut
          split at cut
          · rename_i fits
            obtain ⟨tail, tailCut, rfl⟩ := Option.map_eq_some_iff.mp cut
            obtain ⟨rest, rfl, size⟩ := ih tailCut
            refine ⟨rest, rfl, ?_⟩
            rw [byteLength, size]
            omega
          · cases cut

theorem slice?_eq_some {text part : List Char} {span : Span} (cut : slice? text span = some part) :
    ∃ before after, text = before ++ (part ++ after) ∧
      span = ⟨byteLength before, byteLength before + byteLength part⟩ := by
  unfold slice? at cut
  split at cut
  · rename_i le
    obtain ⟨rest, dropped, taken⟩ := Option.bind_eq_some_iff.mp cut
    obtain ⟨before, rfl, first⟩ := dropBytes?_eq_some dropped
    obtain ⟨after, rfl, size⟩ := takeBytes?_eq_some taken
    refine ⟨before, after, rfl, ?_⟩
    obtain ⟨start, stop⟩ := span
    simp only [Span.length] at first size le
    rw [Span.mk.injEq]
    omega
  · cases cut

/-- The slice of a part of a text is the slice of the text at the same place. -/
theorem slice?_shift {text before fragment after part : List Char} {span : Span}
    (text_eq : text = before ++ (fragment ++ after)) (cut : slice? fragment span = some part) :
    slice? text (span.shift (byteLength before)) = some part := by
  obtain ⟨first, last, rfl, rfl⟩ := slice?_eq_some cut
  have whole := slice?_append (before ++ first) part (last ++ after)
  rw [byteLength_append, Nat.add_assoc] at whole
  have joined : before ++ first ++ (part ++ (last ++ after)) = text := by
    rw [text_eq]
    simp only [List.append_assoc]
  rw [joined] at whole
  exact whole

end Text

/-! ### Seams -/

/-- A place where a text can be cut in two without changing its tags and comments. -/
structure Seam (before after : List Char) : Prop where
  tags : TagText.pattern.Seam before after
  comments : Comment.pattern.Seam before after

namespace Seam

theorem of_left {first second third : List Char} (outer : Seam first (second ++ third))
    (inner : Seam second third) : Seam (first ++ second) third where
  tags := (TagText.bracketed.seam_of_left outer.tags inner.tags).1
  comments := (Comment.bracketed.seam_of_left outer.comments inner.comments).1

theorem of_right {first second third : List Char} (outer : Seam (first ++ second) third)
    (inner : Seam first second) : Seam first (second ++ third) ∧ Seam second third :=
  have tags := TagText.bracketed.seam_of_right outer.tags inner.tags
  have comments := Comment.bracketed.seam_of_right outer.comments inner.comments
  ⟨⟨tags.1, comments.1⟩, ⟨tags.2, comments.2⟩⟩

theorem nil_right (text : List Char) : Seam text [] := by
  constructor <;> simp [Pattern.Seam, Pattern.pieces_nil]

theorem spans_comments {before after : List Char} (seam : Seam before after) :
    Comment.spans (before ++ after) =
      Comment.spans before ++
        (Comment.spans after).map (Span.shift (Text.byteLength before)) :=
  Comment.spans_append seam.comments

/-- At a seam the tags of a text fall into those of its two parts. -/
theorem scan {before after : List Char} (seam : Seam before after) :
    Tag.scan (before ++ after) =
      Tag.scan before ++ (Tag.scan after).map (Tag.shift (Text.byteLength before)) := by
  have left : ∀ found ∈ TagText.pattern.findAll before,
      (!Comment.covers (Comment.spans (before ++ after)) found.span.start) =
        !Comment.covers (Comment.spans before) found.span.start := by
    intro found present
    have listed : found.span ∈ TagText.pattern.spans before :=
      List.mem_map.mpr ⟨found, present, rfl⟩
    have bound := TagText.bracketed.sound.stop_le listed
    have filled := (TagText.bracketed.sound.ordered before).2 found.span listed
    rw [Comment.covers_left seam.comments (by omega)]
  rw [Tag.scan_eq_filter, seam.tags.findAll TagText.bracketed.sound, List.filter_append,
    List.map_append, List.filter_congr left, ← Tag.scan_eq_filter, List.filter_map,
    List.map_map]
  congr 1
  rw [Tag.scan_eq_filter, List.map_map]
  have right : ((fun found : Found TagText =>
      !Comment.covers (Comment.spans (before ++ after)) found.span.start) ∘
        Found.shift (Text.byteLength before)) =
      fun found => !Comment.covers (Comment.spans after) found.span.start := by
    funext found
    simp only [Function.comp_apply, Found.shift, Span.shift]
    rw [Comment.covers_right seam.comments]
  rw [right]
  rfl

end Seam

/-! ### Excerpts -/

/-- A place of `inside` in `text` with a seam at its beginning and at its end. -/
structure Excerpt (text inside : List Char) where
  before : List Char
  after : List Char
  text_eq : text = before ++ (inside ++ after)
  left : Seam before (inside ++ after)
  right : Seam inside after

namespace Excerpt

variable {text inside inner : List Char}

def offset (excerpt : Excerpt text inside) : Nat :=
  Text.byteLength excerpt.before

def span (excerpt : Excerpt text inside) : Span :=
  ⟨excerpt.offset, excerpt.offset + Text.byteLength inside⟩

private theorem seams_trans {before first second after : List Char}
    (left : Seam before ((first ++ (inner ++ second)) ++ after))
    (right : Seam (first ++ (inner ++ second)) after)
    (innerLeft : Seam first (inner ++ second)) (innerRight : Seam inner second) :
    Seam (before ++ first) (inner ++ (second ++ after)) ∧ Seam inner (second ++ after) := by
  obtain ⟨starts, ends⟩ := right.of_right innerLeft
  rw [List.append_assoc, List.append_assoc] at left
  rw [List.append_assoc] at starts
  exact ⟨left.of_left starts, (ends.of_right innerRight).1⟩

def whole (text : List Char) : Excerpt text text where
  before := []
  after := []
  text_eq := by simp
  left := by constructor <;> rfl
  right := Seam.nil_right text

def trans (outer : Excerpt text inside) (within : Excerpt inside inner) : Excerpt text inner :=
  have seams := seams_trans (within.text_eq ▸ outer.left) (within.text_eq ▸ outer.right)
    within.left within.right
  { before := outer.before ++ within.before
    after := within.after ++ outer.after
    text_eq := by
      have joined := congrArg (fun part => outer.before ++ (part ++ outer.after)) within.text_eq
      exact outer.text_eq.trans (joined.trans (by simp only [List.append_assoc]))
    left := seams.1
    right := seams.2 }

theorem trans_offset (outer : Excerpt text inside) (within : Excerpt inside inner) :
    (outer.trans within).offset = outer.offset + within.offset :=
  Text.byteLength_append outer.before within.before

theorem slice (excerpt : Excerpt text inside) : Text.slice? text excerpt.span = some inside := by
  have cut := Text.slice?_append excerpt.before inside excerpt.after
  rwa [← excerpt.text_eq] at cut

theorem slice_shift (excerpt : Excerpt text inside) {span : Span} {part : List Char}
    (cut : Text.slice? inside span = some part) :
    Text.slice? text (span.shift excerpt.offset) = some part :=
  Text.slice?_shift excerpt.text_eq cut

theorem scan_parts (excerpt : Excerpt text inside) :
    Tag.scan text =
      Tag.scan excerpt.before ++
        ((Tag.scan inside).map (Tag.shift excerpt.offset) ++
          (Tag.scan excerpt.after).map (Tag.shift excerpt.span.stop)) := by
  have whole := excerpt.left.scan
  rw [← excerpt.text_eq] at whole
  rw [whole, excerpt.right.scan, List.map_append, List.map_map]
  congr 3
  funext tag
  simp only [Function.comp_apply, Tag.shift, Span.shift, span, offset, Nat.add_assoc]

theorem comments_parts (excerpt : Excerpt text inside) :
    Comment.spans text =
      Comment.spans excerpt.before ++
        ((Comment.spans inside).map (Span.shift excerpt.offset) ++
          (Comment.spans excerpt.after).map (Span.shift excerpt.span.stop)) := by
  have whole := excerpt.left.spans_comments
  rw [← excerpt.text_eq] at whole
  rw [whole, excerpt.right.spans_comments, List.map_append, List.map_map]
  congr 3
  funext comment
  simp only [Function.comp_apply, Span.shift, span, offset, Nat.add_assoc]

theorem mem_scan (excerpt : Excerpt text inside) {tag : Tag} (member : tag ∈ Tag.scan inside) :
    tag.shift excerpt.offset ∈ Tag.scan text := by
  rw [excerpt.scan_parts]
  exact List.mem_append_right _
    (List.mem_append_left _ (List.mem_map.mpr ⟨tag, member, rfl⟩))

theorem encloses_shift (excerpt : Excerpt text inside) {tag : Tag}
    (member : tag ∈ Tag.scan inside) :
    excerpt.span.encloses (tag.shift excerpt.offset).span = true :=
  Span.encloses_iff.mpr ⟨Nat.le_add_right _ _,
    Nat.add_le_add_left (Tag.stop_le_byteLength member) _⟩

theorem mem_comments (excerpt : Excerpt text inside) {comment : Span}
    (member : comment ∈ Comment.spans inside) :
    comment.shift excerpt.offset ∈ Comment.spans text := by
  rw [excerpt.comments_parts]
  exact List.mem_append_right _
    (List.mem_append_left _ (List.mem_map.mpr ⟨comment, member, rfl⟩))

/-- Where no comment of the text is cut, none of an excerpt is. -/
theorem uncut (excerpt : Excerpt text inside) {place : Nat}
    (whole : ∀ comment ∈ Comment.spans text, ¬ comment.Crosses (excerpt.offset + place)) :
    ∀ comment ∈ Comment.spans inside, ¬ comment.Crosses place := by
  intro comment member crossed
  refine whole _ (excerpt.mem_comments member) ⟨?_, ?_⟩
  · exact Nat.add_lt_add_left crossed.1 _
  · exact Nat.add_lt_add_left crossed.2 _

private theorem filter_encloses {α : Type} {place : α → Span} {range : Span}
    {earlier held later : List α} (before : ∀ item ∈ earlier, (place item).start < range.start)
    (inside : ∀ item ∈ held, range.encloses (place item) = true)
    (behind : ∀ item ∈ later, range.stop < (place item).stop) :
    (earlier ++ (held ++ later)).filter (fun item => range.encloses (place item)) = held := by
  have none : earlier.filter (fun item => range.encloses (place item)) = [] := by
    rw [List.filter_eq_nil_iff]
    intro item member enclosed
    have first := (Span.encloses_iff.mp enclosed).1
    have starts := before item member
    omega
  have rest : later.filter (fun item => range.encloses (place item)) = [] := by
    rw [List.filter_eq_nil_iff]
    intro item member enclosed
    have last := (Span.encloses_iff.mp enclosed).2
    have stops := behind item member
    omega
  rw [List.filter_append, List.filter_append, none, List.filter_eq_self.mpr inside, rest,
    List.append_nil, List.nil_append]

/-- Scanning an excerpt gives the tags that the whole text has there. -/
theorem scan_eq_within (excerpt : Excerpt text inside) :
    (Tag.scan inside).map (Tag.shift excerpt.offset) =
      Tag.within (Tag.scan text) excerpt.span := by
  unfold Tag.within
  rw [excerpt.scan_parts]
  symm
  apply filter_encloses
  · intro tag member
    have bound := Tag.stop_le_byteLength member
    have filled := Tag.start_lt_stop member
    exact Nat.lt_of_lt_of_le filled bound
  · intro tag member
    obtain ⟨moved, present, rfl⟩ := List.mem_map.mp member
    exact excerpt.encloses_shift present
  · intro tag member
    obtain ⟨moved, present, rfl⟩ := List.mem_map.mp member
    have filled := Tag.start_lt_stop present
    exact Nat.lt_add_of_pos_right (Nat.zero_lt_of_lt filled)

/-- The comments of an excerpt are those that the whole text has there. -/
theorem comments_eq_within (excerpt : Excerpt text inside) :
    (Comment.spans inside).map (Span.shift excerpt.offset) =
      (Comment.spans text).filter excerpt.span.encloses := by
  rw [excerpt.comments_parts]
  symm
  apply filter_encloses
  · intro comment member
    have bound := Comment.bracketed.sound.stop_le member
    have filled := (Comment.spans_ordered excerpt.before).2 comment member
    exact Nat.lt_of_lt_of_le filled bound
  · intro comment member
    obtain ⟨moved, present, rfl⟩ := List.mem_map.mp member
    have bound := Comment.bracketed.sound.stop_le present
    exact Span.encloses_iff.mpr ⟨Nat.le_add_right _ _, Nat.add_le_add_left bound _⟩
  · intro comment member
    obtain ⟨moved, present, rfl⟩ := List.mem_map.mp member
    have filled := (Comment.spans_ordered excerpt.after).2 moved present
    exact Nat.lt_add_of_pos_right (Nat.zero_lt_of_lt filled)

end Excerpt

end PageCheck
