import PageCheck.Text.Pattern

/-! What a pass over a text finds.  The division into pieces is first described
as a relation, without the count of characters that the pass still has to skip.
From it come the places of the readings, which follow one another without
overlap, and the main statement: a text cut where no reading is cut falls into
two texts that are divided like the whole. -/

set_option autoImplicit false

namespace PageCheck

variable {α : Type}

namespace Span

/-- The offset lies inside the span, with bytes of it on either side. -/
def Crosses (span : Span) (offset : Nat) : Prop :=
  span.start < offset ∧ offset < span.stop

instance (span : Span) (offset : Nat) : Decidable (span.Crosses offset) := by
  unfold Crosses
  infer_instance

def shift (count : Nat) (span : Span) : Span :=
  ⟨count + span.start, count + span.stop⟩

theorem contains_iff {span : Span} {offset : Nat} :
    span.contains offset = true ↔ span.start ≤ offset ∧ offset < span.stop := by
  unfold contains
  rw [Bool.and_eq_true, decide_eq_true_eq, decide_eq_true_eq]

theorem encloses_iff {outer inner : Span} :
    outer.encloses inner = true ↔ outer.start ≤ inner.start ∧ inner.stop ≤ outer.stop := by
  unfold encloses
  rw [Bool.and_eq_true, decide_eq_true_eq, decide_eq_true_eq]

def Ordered (spans : List Span) : Prop :=
  spans.Pairwise (fun earlier later => earlier.stop ≤ later.start) ∧
    ∀ span ∈ spans, span.start < span.stop

theorem Ordered.apart {spans : List Span} (ordered : Ordered spans) {span other : Span}
    (member : span ∈ spans) (present : other ∈ spans) :
    span = other ∨ span.stop ≤ other.start ∨ other.stop ≤ span.start := by
  have follow := ordered.1
  clear ordered
  induction follow with
  | nil => cases member
  | @cons first rest before _ ih =>
      rw [List.mem_cons] at member present
      rcases member with rfl | member <;> rcases present with rfl | present
      · exact Or.inl rfl
      · exact Or.inr (Or.inl (before other present))
      · exact Or.inr (Or.inr (before span member))
      · exact ih member present

theorem Ordered.uncut {spans : List Span} (ordered : Ordered spans) {span other : Span}
    (member : span ∈ spans) (present : other ∈ spans) :
    ¬ other.Crosses span.start ∧ ¬ other.Crosses span.stop := by
  have spanFilled := ordered.2 span member
  have otherFilled := ordered.2 other present
  unfold Crosses
  rcases ordered.apart member present with same | before | behind
  · rw [same]
    omega
  · omega
  · omega

end Span

namespace Text

theorem byteLength_pos {text : List Char} (nonempty : text ≠ []) : 0 < byteLength text := by
  cases text with
  | nil => exact absurd rfl nonempty
  | cons char rest =>
      have := char.utf8Size_pos
      simp only [byteLength]
      omega

theorem eq_nil_of_byteLength_le {text more : List Char}
    (le : byteLength (text ++ more) ≤ byteLength text) : more = [] := by
  apply Classical.byContradiction
  intro nonempty
  have positive := byteLength_pos nonempty
  rw [byteLength_append] at le
  omega

theorem append_of_byteLength_le {first second left right : List Char}
    (same : first ++ left = second ++ right) (le : byteLength first ≤ byteLength second) :
    ∃ middle, second = first ++ middle ∧ left = middle ++ right := by
  rcases List.append_eq_append_iff.mp same with
    ⟨middle, secondEq, leftEq⟩ | ⟨middle, firstEq, rightEq⟩
  · exact ⟨middle, secondEq, leftEq⟩
  · have empty : middle = [] := by
      rw [firstEq] at le
      exact eq_nil_of_byteLength_le le
    subst empty
    exact ⟨[], by simpa using firstEq.symm, by simpa using rightEq.symm⟩

theorem byteLength_lt_append (lead : List Char) (char : Char) (trail : List Char) :
    byteLength lead < byteLength (lead ++ char :: trail) := by
  have positive := byteLength_pos (List.cons_ne_nil char trail)
  rw [byteLength_append]
  omega

theorem append_of_byteLength_eq {first second left right : List Char}
    (same : first ++ left = second ++ right) (size : byteLength first = byteLength second) :
    first = second ∧ left = right := by
  obtain ⟨middle, rfl, rfl⟩ := append_of_byteLength_le same (Nat.le_of_eq size)
  have empty : middle = [] := eq_nil_of_byteLength_le (Nat.le_of_eq size.symm)
  subst empty
  simp

end Text

def Piece.text : Piece α → List Char
  | .plain char => [char]
  | .hit reading => reading.text

def Found.shift (count : Nat) (found : Found α) : Found α :=
  ⟨found.value, found.span.shift count⟩

namespace Pattern

structure Sound (pattern : Pattern α) : Prop where
  begins : ∀ {text : List Char} {reading : Reading α},
    pattern text = some reading → ∃ rest, text = reading.text ++ rest
  nonempty : ∀ {text : List Char} {reading : Reading α},
    pattern text = some reading → reading.text ≠ []

/-- What the pattern reads stands between angle brackets, and reading it does not
depend on the text behind it. -/
structure Bracketed (pattern : Pattern α) : Prop where
  bracketed : ∀ {text : List Char} {reading : Reading α}, pattern text = some reading →
    ∃ body rest, reading.text = '<' :: (body ++ ['>']) ∧ text = reading.text ++ rest
  settled : ∀ {reading : Reading α} {rest : List Char} (other : List Char),
    pattern (reading.text ++ rest) = some reading →
      pattern (reading.text ++ other) = some reading

theorem Bracketed.sound {pattern : Pattern α} (brackets : pattern.Bracketed) :
    pattern.Sound where
  begins := by
    intro text reading found
    obtain ⟨_body, rest, _shape, textEq⟩ := brackets.bracketed found
    exact ⟨rest, textEq⟩
  nonempty := by
    intro text reading found
    obtain ⟨body, _rest, shape, _textEq⟩ := brackets.bracketed found
    rw [shape]
    exact List.cons_ne_nil _ _

/-! ### The steps of a pass -/

private theorem piecesAfter_eq_drop (pattern : Pattern α) (skip : Nat) (text : List Char) :
    piecesAfter pattern skip text = pattern.pieces (text.drop skip) := by
  induction text generalizing skip with
  | nil => cases skip <;> rfl
  | cons char rest ih =>
      cases skip with
      | zero => rfl
      | succ skip =>
          rw [piecesAfter, ih, List.drop_succ_cons]

theorem pieces_nil (pattern : Pattern α) : pattern.pieces [] = [] := rfl

theorem pieces_plain {pattern : Pattern α} {char : Char} {rest : List Char}
    (unread : pattern (char :: rest) = none) :
    pattern.pieces (char :: rest) = .plain char :: pattern.pieces rest := by
  unfold pieces
  rw [piecesAfter, unread]

theorem pieces_hit {pattern : Pattern α} {reading : Reading α} {rest : List Char}
    (nonempty : reading.text ≠ [])
    (read : pattern (reading.text ++ rest) = some reading) :
    pattern.pieces (reading.text ++ rest) = .hit reading :: pattern.pieces rest := by
  obtain ⟨char, body, shape⟩ := List.exists_cons_of_ne_nil nonempty
  rw [shape, List.cons_append] at read ⊢
  have step : pattern.pieces (char :: (body ++ rest)) =
      .hit reading :: piecesAfter pattern (reading.text.length - 1) (body ++ rest) := by
    unfold pieces
    rw [piecesAfter, read]
  rw [step, piecesAfter_eq_drop, shape, List.length_cons, Nat.add_sub_cancel, List.drop_left]

theorem values_plain {pattern : Pattern α} {char : Char} {rest : List Char}
    (unread : pattern (char :: rest) = none) :
    pattern.values (char :: rest) = pattern.values rest := by
  unfold values
  rw [pieces_plain unread]
  rfl

theorem values_hit {pattern : Pattern α} {reading : Reading α} {rest : List Char}
    (nonempty : reading.text ≠ [])
    (read : pattern (reading.text ++ rest) = some reading) :
    pattern.values (reading.text ++ rest) = reading.value :: pattern.values rest := by
  unfold values
  rw [pieces_hit nonempty read]
  rfl

theorem erase_plain {pattern : Pattern α} {char : Char} {rest : List Char}
    (unread : pattern (char :: rest) = none) :
    pattern.erase (char :: rest) = char :: pattern.erase rest := by
  unfold erase
  rw [pieces_plain unread]
  rfl

theorem erase_hit {pattern : Pattern α} {reading : Reading α} {rest : List Char}
    (nonempty : reading.text ≠ [])
    (read : pattern (reading.text ++ rest) = some reading) :
    pattern.erase (reading.text ++ rest) = pattern.erase rest := by
  unfold erase
  rw [pieces_hit nonempty read]
  rfl

/-- The division of a text by a pass. -/
inductive Divides (pattern : Pattern α) : List Char → List (Piece α) → Prop where
  | nil : Divides pattern [] []
  | plain {char : Char} {rest : List Char} {pieces : List (Piece α)} :
      pattern (char :: rest) = none → Divides pattern rest pieces →
        Divides pattern (char :: rest) (.plain char :: pieces)
  | hit {reading : Reading α} {rest : List Char} {pieces : List (Piece α)} :
      pattern (reading.text ++ rest) = some reading → Divides pattern rest pieces →
        Divides pattern (reading.text ++ rest) (.hit reading :: pieces)

theorem Sound.divides {pattern : Pattern α} (sound : pattern.Sound) (text : List Char) :
    pattern.Divides text (pattern.pieces text) := by
  cases text with
  | nil => exact .nil
  | cons char rest =>
      cases read : pattern (char :: rest) with
      | none =>
          rw [pieces_plain read]
          exact .plain read (sound.divides rest)
      | some reading =>
          obtain ⟨behind, shape⟩ := sound.begins read
          have nonempty := sound.nonempty read
          have shorter : behind.length < rest.length + 1 := by
            have lengths := congrArg List.length shape
            have positive := List.length_pos_iff.mpr nonempty
            rw [List.length_cons, List.length_append] at lengths
            omega
          rw [shape] at read ⊢
          rw [pieces_hit nonempty read]
          exact .hit read (sound.divides behind)
termination_by text.length

theorem Divides.eq_pieces {pattern : Pattern α} (sound : pattern.Sound) {text : List Char}
    {pieces : List (Piece α)} (division : pattern.Divides text pieces) :
    pieces = pattern.pieces text := by
  induction division with
  | nil => rfl
  | plain unread _ ih => rw [pieces_plain unread, ih]
  | hit read _ ih => rw [pieces_hit (sound.nonempty read) read, ih]

theorem Divides.flatMap_text {pattern : Pattern α} {text : List Char} {pieces : List (Piece α)}
    (division : pattern.Divides text pieces) : pieces.flatMap Piece.text = text := by
  induction division with
  | nil => rfl
  | plain _ _ ih => rw [List.flatMap_cons, ih]; rfl
  | hit _ _ ih => rw [List.flatMap_cons, ih]; rfl

/-- No part of a text is lost by a pass over it. -/
theorem Sound.flatMap_pieces {pattern : Pattern α} (sound : pattern.Sound) (text : List Char) :
    (pattern.pieces text).flatMap Piece.text = text :=
  (sound.divides text).flatMap_text

/-! ### Places -/

theorem locate_append (offset : Nat) (first second : List (Piece α)) :
    locate offset (first ++ second) =
      locate offset first ++
        locate (offset + Text.byteLength (first.flatMap Piece.text)) second := by
  induction first generalizing offset with
  | nil => rfl
  | cons piece rest ih =>
      cases piece with
      | plain char =>
          rw [List.cons_append, locate, ih, locate, List.flatMap_cons, Text.byteLength_append]
          simp only [Piece.text, Text.byteLength, Nat.add_zero, Nat.add_assoc]
      | hit reading =>
          rw [List.cons_append, locate, ih, locate, List.flatMap_cons, Text.byteLength_append]
          simp only [Piece.text, List.cons_append, Nat.add_assoc]

theorem locate_shift (count offset : Nat) (pieces : List (Piece α)) :
    locate (count + offset) pieces = (locate offset pieces).map (Found.shift count) := by
  induction pieces generalizing offset with
  | nil => rfl
  | cons piece rest ih =>
      cases piece with
      | plain char => rw [locate, locate, Nat.add_assoc, ih]
      | hit reading =>
          rw [locate, locate, List.map_cons, Nat.add_assoc, ih]
          rfl

theorem locate_bounds {offset : Nat} {pieces : List (Piece α)} {found : Found α}
    (member : found ∈ locate offset pieces) :
    offset ≤ found.span.start ∧
      found.span.stop ≤ offset + Text.byteLength (pieces.flatMap Piece.text) := by
  induction pieces generalizing offset with
  | nil => cases member
  | cons piece rest ih =>
      rw [List.flatMap_cons, Text.byteLength_append]
      cases piece with
      | plain char =>
          rw [locate] at member
          have bounds := ih member
          simp only [Piece.text, Text.byteLength]
          omega
      | hit reading =>
          simp only [locate, List.mem_cons] at member
          rcases member with rfl | later
          · simp only [Piece.text]
            omega
          · have bounds := ih later
            simp only [Piece.text]
            omega

theorem Divides.ordered {pattern : Pattern α} (sound : pattern.Sound) {text : List Char}
    {pieces : List (Piece α)} (division : pattern.Divides text pieces) (offset : Nat) :
    Span.Ordered ((locate offset pieces).map (·.span)) := by
  induction division generalizing offset with
  | nil => exact ⟨List.Pairwise.nil, by simp [locate]⟩
  | plain _ _ ih => exact ih _
  | @hit reading rest pieces read tail ih =>
      have positive := Text.byteLength_pos (sound.nonempty read)
      obtain ⟨follow, filled⟩ := ih (offset + Text.byteLength reading.text)
      refine ⟨List.pairwise_cons.mpr ⟨?_, follow⟩, ?_⟩
      · intro span member
        obtain ⟨found, present, rfl⟩ := List.mem_map.mp member
        exact (locate_bounds present).1
      · intro span member
        simp only [locate, List.map_cons, List.mem_cons] at member
        rcases member with rfl | later
        · simp only
          omega
        · exact filled span later

theorem Sound.ordered {pattern : Pattern α} (sound : pattern.Sound) (text : List Char) :
    Span.Ordered (pattern.spans text) :=
  (sound.divides text).ordered sound 0

/-- What a pass finds is read at the place that it gives. -/
theorem Divides.found {pattern : Pattern α} {text : List Char} {pieces : List (Piece α)}
    (division : pattern.Divides text pieces) {offset : Nat} {found : Found α}
    (member : found ∈ locate offset pieces) :
    ∃ before reading after, text = before ++ (reading.text ++ after) ∧
      pattern (reading.text ++ after) = some reading ∧ found.value = reading.value ∧
      found.span = ⟨offset + Text.byteLength before,
        offset + Text.byteLength before + Text.byteLength reading.text⟩ := by
  induction division generalizing offset with
  | nil => cases member
  | @plain char rest pieces unread tail ih =>
      obtain ⟨before, reading, after, textEq, read, valueEq, spanEq⟩ := ih member
      refine ⟨char :: before, reading, after, by rw [textEq]; rfl, read, valueEq, ?_⟩
      rw [spanEq]
      simp only [Text.byteLength, Nat.add_assoc]
  | @hit reading rest pieces read tail ih =>
      simp only [locate, List.mem_cons] at member
      rcases member with rfl | later
      · exact ⟨[], reading, rest, rfl, read, rfl, by simp [Text.byteLength]⟩
      · obtain ⟨before, inner, after, textEq, innerRead, valueEq, spanEq⟩ := ih later
        refine ⟨reading.text ++ before, inner, after, by rw [textEq, List.append_assoc], innerRead,
          valueEq, ?_⟩
        rw [spanEq, Text.byteLength_append]
        simp only [Nat.add_assoc]

theorem Sound.found {pattern : Pattern α} (sound : pattern.Sound) {text : List Char}
    {found : Found α} (member : found ∈ pattern.findAll text) :
    ∃ before reading after, text = before ++ (reading.text ++ after) ∧
      pattern (reading.text ++ after) = some reading ∧ found.value = reading.value ∧
      found.span = ⟨Text.byteLength before,
        Text.byteLength before + Text.byteLength reading.text⟩ := by
  obtain ⟨before, reading, after, textEq, read, valueEq, spanEq⟩ :=
    (sound.divides text).found member
  exact ⟨before, reading, after, textEq, read, valueEq, by simpa using spanEq⟩

theorem Sound.stop_le {pattern : Pattern α} (sound : pattern.Sound) {text : List Char}
    {span : Span} (member : span ∈ pattern.spans text) : span.stop ≤ Text.byteLength text := by
  obtain ⟨found, present, rfl⟩ := List.mem_map.mp member
  have bound := (locate_bounds present).2
  rwa [Nat.zero_add, sound.flatMap_pieces] at bound

/-! ### Cutting a text -/

theorem Bracketed.unread_of_append {pattern : Pattern α} (brackets : pattern.Bracketed)
    {text after : List Char} (unread : pattern (text ++ after) = none) :
    pattern text = none := by
  cases read : pattern text with
  | none => rfl
  | some reading =>
      obtain ⟨rest, shape⟩ := brackets.sound.begins read
      rw [shape] at read unread
      rw [List.append_assoc, brackets.settled (rest ++ after) read] at unread
      cases unread

private theorem Divides.append {pattern : Pattern α} (brackets : pattern.Bracketed)
    {text : List Char} {pieces : List (Piece α)} (division : pattern.Divides text pieces)
    (offset : Nat) (before after : List Char) (textEq : text = before ++ after)
    (uncut : ∀ found ∈ locate offset pieces,
      ¬ found.span.Crosses (offset + Text.byteLength before)) :
    pieces = pattern.pieces before ++ pattern.pieces after := by
  induction division generalizing offset before with
  | nil =>
      obtain ⟨rfl, rfl⟩ := List.append_eq_nil_iff.mp textEq.symm
      rfl
  | @plain char rest pieces unread tail ih =>
      cases before with
      | nil =>
          rw [pieces_nil, List.nil_append, ← List.nil_append after, ← textEq]
          exact (Divides.plain unread tail).eq_pieces brackets.sound
      | cons first before =>
          rw [List.cons_append, List.cons.injEq] at textEq
          obtain ⟨rfl, restEq⟩ := textEq
          rw [restEq, ← List.cons_append] at unread
          rw [pieces_plain (brackets.unread_of_append unread), List.cons_append,
            ih (offset + char.utf8Size) before restEq]
          intro found member
          have kept := uncut found member
          rwa [Text.byteLength, ← Nat.add_assoc] at kept
  | @hit reading rest pieces read tail ih =>
      cases before with
      | nil =>
          rw [pieces_nil, List.nil_append, ← List.nil_append after, ← textEq]
          exact (Divides.hit read tail).eq_pieces brackets.sound
      | cons first before =>
          -- a reading that begins before the cut ends before it, or the cut would cross it
          have whole := uncut ⟨reading.value, ⟨offset, offset + Text.byteLength reading.text⟩⟩
            (by rw [locate]; exact List.mem_cons_self)
          have inside : Text.byteLength reading.text ≤ Text.byteLength (first :: before) := by
            have positive := Text.byteLength_pos (List.cons_ne_nil first before)
            simp only [Span.Crosses] at whole
            omega
          obtain ⟨middle, beforeEq, restEq⟩ := Text.append_of_byteLength_le textEq inside
          rw [beforeEq, pieces_hit (brackets.sound.nonempty read) (brackets.settled middle read),
            List.cons_append, ih (offset + Text.byteLength reading.text) middle restEq]
          intro found member
          have kept := uncut found (by rw [locate]; exact List.mem_cons_of_mem _ member)
          rwa [beforeEq, Text.byteLength_append, ← Nat.add_assoc] at kept

/-- The pieces of a pass, parted anywhere, are those of the two parts of the text. -/
theorem Bracketed.pieces_parts {pattern : Pattern α} (brackets : pattern.Bracketed)
    {text : List Char} {first second : List (Piece α)}
    (parted : pattern.pieces text = first ++ second) :
    pattern.pieces (first.flatMap Piece.text) = first ∧
      pattern.pieces (second.flatMap Piece.text) = second := by
  have division := brackets.sound.divides text
  rw [parted] at division
  generalize piecesEq : first ++ second = pieces at division
  clear parted
  induction division generalizing first with
  | nil =>
      obtain ⟨rfl, rfl⟩ := List.append_eq_nil_iff.mp piecesEq
      exact ⟨rfl, rfl⟩
  | @plain char rest pieces unread tail ih =>
      cases first with
      | nil =>
          rw [List.nil_append] at piecesEq
          have whole := Divides.plain unread tail
          rw [piecesEq, whole.flatMap_text]
          exact ⟨rfl, (whole.eq_pieces brackets.sound).symm⟩
      | cons piece first =>
          rw [List.cons_append, List.cons.injEq] at piecesEq
          obtain ⟨rfl, restEq⟩ := piecesEq
          obtain ⟨firstEq, secondEq⟩ := ih restEq
          refine ⟨?_, secondEq⟩
          have textEq := tail.flatMap_text
          rw [← restEq, List.flatMap_append] at textEq
          rw [← textEq, ← List.cons_append] at unread
          exact (pieces_plain (brackets.unread_of_append unread)).trans (congrArg _ firstEq)
  | @hit reading rest pieces read tail ih =>
      cases first with
      | nil =>
          rw [List.nil_append] at piecesEq
          have whole := Divides.hit read tail
          rw [piecesEq, whole.flatMap_text]
          exact ⟨rfl, (whole.eq_pieces brackets.sound).symm⟩
      | cons piece first =>
          rw [List.cons_append, List.cons.injEq] at piecesEq
          obtain ⟨rfl, restEq⟩ := piecesEq
          obtain ⟨firstEq, secondEq⟩ := ih restEq
          refine ⟨?_, secondEq⟩
          rw [List.flatMap_cons]
          exact (pieces_hit (brackets.sound.nonempty read)
            (brackets.settled (first.flatMap Piece.text) read)).trans (congrArg _ firstEq)

/-- The pass over the joined text does what the passes over its two parts do. -/
def Seam (pattern : Pattern α) (before after : List Char) : Prop :=
  pattern.pieces (before ++ after) = pattern.pieces before ++ pattern.pieces after

/-- A text cut where no reading is cut is divided as its two parts are. -/
theorem Bracketed.seam {pattern : Pattern α} (brackets : pattern.Bracketed)
    {before after : List Char}
    (uncut : ∀ span ∈ pattern.spans (before ++ after),
      ¬ span.Crosses (Text.byteLength before)) :
    pattern.Seam before after := by
  apply (brackets.sound.divides (before ++ after)).append brackets 0 before after rfl
  intro found member
  rw [Nat.zero_add]
  exact uncut found.span (List.mem_map.mpr ⟨found, member, rfl⟩)

theorem Bracketed.seam_of_left {pattern : Pattern α} (brackets : pattern.Bracketed)
    {first second third : List Char} (outer : pattern.Seam first (second ++ third))
    (inner : pattern.Seam second third) :
    pattern.Seam (first ++ second) third ∧ pattern.Seam first second := by
  have whole : pattern.pieces (first ++ (second ++ third)) =
      (pattern.pieces first ++ pattern.pieces second) ++ pattern.pieces third := by
    rw [outer, inner, List.append_assoc]
  have joined := (brackets.pieces_parts whole).1
  rw [List.flatMap_append, brackets.sound.flatMap_pieces, brackets.sound.flatMap_pieces] at joined
  refine ⟨?_, joined⟩
  unfold Seam
  rw [List.append_assoc, whole, joined]

theorem Bracketed.seam_of_right {pattern : Pattern α} (brackets : pattern.Bracketed)
    {first second third : List Char} (outer : pattern.Seam (first ++ second) third)
    (inner : pattern.Seam first second) :
    pattern.Seam first (second ++ third) ∧ pattern.Seam second third := by
  have whole : pattern.pieces (first ++ second ++ third) =
      pattern.pieces first ++ (pattern.pieces second ++ pattern.pieces third) := by
    rw [outer, inner, List.append_assoc]
  have joined := (brackets.pieces_parts whole).2
  rw [List.flatMap_append, brackets.sound.flatMap_pieces, brackets.sound.flatMap_pieces] at joined
  refine ⟨?_, joined⟩
  unfold Seam
  rw [← List.append_assoc, whole, joined]

theorem Bracketed.seam_between {pattern : Pattern α} (brackets : pattern.Bracketed)
    {first second third : List Char} (left : pattern.Seam first (second ++ third))
    (right : pattern.Seam (first ++ second) third) : pattern.Seam second third := by
  have texts := brackets.sound.flatMap_pieces
  have same : pattern.pieces first ++ pattern.pieces (second ++ third) =
      pattern.pieces (first ++ second) ++ pattern.pieces third := by
    rw [← left, ← right, List.append_assoc]
  rcases List.append_eq_append_iff.mp same with ⟨middle, joined, rest⟩ | ⟨middle, joined, rest⟩
  · have textEq := congrArg (List.flatMap Piece.text) joined
    rw [List.flatMap_append, texts, texts, List.append_cancel_left_eq] at textEq
    have alone := (brackets.pieces_parts joined).2
    rw [← textEq] at alone
    rw [Seam, rest, alone]
  · have textEq := congrArg (List.flatMap Piece.text) joined
    rw [List.flatMap_append, texts, texts, List.append_assoc, List.self_eq_append_right,
      List.append_eq_nil_iff] at textEq
    rw [textEq.1]
    rfl

/-- There is a seam behind what is read, and behind a character where nothing is. -/
theorem Bracketed.seam_hit {pattern : Pattern α} (brackets : pattern.Bracketed)
    {reading : Reading α} {rest : List Char}
    (read : pattern (reading.text ++ rest) = some reading) : pattern.Seam reading.text rest := by
  have nonempty := brackets.sound.nonempty read
  have alone := brackets.settled [] read
  have pieces := pieces_hit nonempty alone
  rw [List.append_nil] at pieces
  rw [Seam, pieces_hit nonempty read, pieces]
  rfl

theorem Bracketed.seam_plain {pattern : Pattern α} (brackets : pattern.Bracketed)
    {char : Char} {rest : List Char} (unread : pattern (char :: rest) = none) :
    pattern.Seam [char] rest := by
  have alone : pattern [char] = none := brackets.unread_of_append unread
  rw [Seam, List.singleton_append, pieces_plain unread, pieces_plain alone]
  rfl

theorem Seam.findAll {pattern : Pattern α} (sound : pattern.Sound) {before after : List Char}
    (seam : pattern.Seam before after) :
    pattern.findAll (before ++ after) =
      pattern.findAll before ++
        (pattern.findAll after).map (Found.shift (Text.byteLength before)) := by
  unfold Pattern.findAll
  rw [seam, locate_append, sound.flatMap_pieces, Nat.zero_add,
    ← locate_shift (Text.byteLength before) 0, Nat.add_zero]

theorem Seam.spans {pattern : Pattern α} (sound : pattern.Sound) {before after : List Char}
    (seam : pattern.Seam before after) :
    pattern.spans (before ++ after) =
      pattern.spans before ++ (pattern.spans after).map (Span.shift (Text.byteLength before)) := by
  unfold Pattern.spans
  rw [seam.findAll sound, List.map_append, List.map_map, List.map_map]
  rfl

theorem Sound.findAll_hit {pattern : Pattern α} (sound : pattern.Sound) {reading : Reading α}
    {rest : List Char} (read : pattern (reading.text ++ rest) = some reading) :
    pattern.findAll (reading.text ++ rest) =
      ⟨reading.value, ⟨0, Text.byteLength reading.text⟩⟩ ::
        (pattern.findAll rest).map (Found.shift (Text.byteLength reading.text)) := by
  unfold findAll
  rw [pieces_hit (sound.nonempty read) read, locate, Nat.zero_add, ← locate_shift, Nat.add_zero]

theorem Seam.erase {pattern : Pattern α} {before after : List Char}
    (seam : pattern.Seam before after) :
    pattern.erase (before ++ after) = pattern.erase before ++ pattern.erase after := by
  unfold Pattern.erase
  rw [seam, List.filterMap_append]

def takes (pattern : Pattern α) (text : List Char) (offset : Nat) : Bool :=
  (pattern.spans text).any (·.contains offset)

theorem takes_iff {pattern : Pattern α} {text : List Char} {offset : Nat} :
    pattern.takes text offset = true ↔
      ∃ span ∈ pattern.spans text, span.start ≤ offset ∧ offset < span.stop := by
  simp only [takes, List.any_eq_true, Span.contains_iff]

private theorem Seam.takes {pattern : Pattern α} (sound : pattern.Sound)
    {before after : List Char} (seam : pattern.Seam before after) (offset : Nat) :
    pattern.takes (before ++ after) offset =
      (pattern.takes before offset ||
        ((pattern.spans after).map (Span.shift (Text.byteLength before))).any
          (·.contains offset)) := by
  unfold Pattern.takes
  rw [seam.spans sound, List.any_append]

theorem Seam.takes_left {pattern : Pattern α} (sound : pattern.Sound)
    {before after : List Char} (seam : pattern.Seam before after) {offset : Nat}
    (inside : offset < Text.byteLength before) :
    pattern.takes (before ++ after) offset = pattern.takes before offset := by
  have later : ((pattern.spans after).map (Span.shift (Text.byteLength before))).any
      (·.contains offset) = false := by
    rw [List.any_eq_false]
    intro span member contained
    obtain ⟨moved, -, rfl⟩ := List.mem_map.mp member
    have first : Text.byteLength before + moved.start ≤ offset := (Span.contains_iff.mp contained).1
    omega
  rw [seam.takes sound, later, Bool.or_false]

theorem Seam.takes_right {pattern : Pattern α} (sound : pattern.Sound)
    {before after : List Char} (seam : pattern.Seam before after) (offset : Nat) :
    pattern.takes (before ++ after) (Text.byteLength before + offset) =
      pattern.takes after offset := by
  have earlier : pattern.takes before (Text.byteLength before + offset) = false := by
    rw [Bool.eq_false_iff]
    intro taken
    obtain ⟨span, member, -, last⟩ := takes_iff.mp taken
    have bound := sound.stop_le member
    omega
  rw [seam.takes sound, earlier, Bool.false_or, List.any_map, Pattern.takes]
  congr 1
  funext span
  simp [Span.shift, Span.contains]

theorem Sound.takes_hit {pattern : Pattern α} (sound : pattern.Sound) {reading : Reading α}
    {rest : List Char} (read : pattern (reading.text ++ rest) = some reading) {offset : Nat}
    (inside : offset < Text.byteLength reading.text) :
    pattern.takes (reading.text ++ rest) offset = true := by
  refine takes_iff.mpr ⟨⟨0, Text.byteLength reading.text⟩, ?_, Nat.zero_le _, inside⟩
  rw [spans, sound.findAll_hit read]
  exact List.mem_cons_self

theorem Sound.takes_zero {pattern : Pattern α} (sound : pattern.Sound) (text : List Char) :
    pattern.takes text 0 = (pattern text).isSome := by
  cases read : pattern text with
  | none =>
      rw [Option.isSome_none, Bool.eq_false_iff]
      intro taken
      obtain ⟨span, present, first, -⟩ := takes_iff.mp taken
      obtain ⟨found, member, rfl⟩ := List.mem_map.mp present
      cases text with
      | nil => cases member
      | cons char rest =>
          unfold findAll at member
          rw [pieces_plain read, locate] at member
          have bounds := locate_bounds member
          have filled := char.utf8Size_pos
          omega
  | some reading =>
      obtain ⟨rest, rfl⟩ := sound.begins read
      exact sound.takes_hit read (Text.byteLength_pos (sound.nonempty read))

/-- A place that no reading takes up is a seam, and what stands there is left. -/
theorem Bracketed.seam_of_outside {pattern : Pattern α} (brackets : pattern.Bracketed)
    {before after : List Char}
    (outside : pattern.takes (before ++ after) (Text.byteLength before) = false) :
    pattern.Seam before after := by
  apply brackets.seam
  intro span member crossed
  rw [Bool.eq_false_iff] at outside
  exact outside (takes_iff.mpr ⟨span, member, Nat.le_of_lt crossed.1, crossed.2⟩)

theorem Bracketed.erase_of_outside {pattern : Pattern α} (brackets : pattern.Bracketed)
    {lead trail : List Char} {char : Char}
    (outside : pattern.takes (lead ++ char :: trail) (Text.byteLength lead) = false) :
    pattern.erase (lead ++ char :: trail) = pattern.erase lead ++ char :: pattern.erase trail := by
  have seam := brackets.seam_of_outside outside
  have unread : pattern (char :: trail) = none := by
    have there := seam.takes_right brackets.sound 0
    rw [Nat.add_zero, outside, brackets.sound.takes_zero] at there
    simpa using there.symm
  rw [seam.erase, erase_plain unread]

theorem Bracketed.byteLength_erase_lt {pattern : Pattern α} (brackets : pattern.Bracketed)
    {lead trail : List Char} {char : Char}
    (outside : pattern.takes (lead ++ char :: trail) (Text.byteLength lead) = false) :
    Text.byteLength (pattern.erase lead) <
      Text.byteLength (pattern.erase (lead ++ char :: trail)) := by
  rw [brackets.erase_of_outside outside]
  exact Text.byteLength_lt_append _ char _

/-! ### Stretches without brackets -/

theorem Bracketed.unread_of_ne {pattern : Pattern α} (brackets : pattern.Bracketed)
    {char : Char} (plain : char ≠ '<') (rest : List Char) : pattern (char :: rest) = none := by
  cases read : pattern (char :: rest) with
  | none => rfl
  | some reading =>
      obtain ⟨body, behind, shape, textEq⟩ := brackets.bracketed read
      rw [shape, List.cons_append, List.cons.injEq] at textEq
      exact absurd textEq.1 plain

theorem Bracketed.pieces_of_not_mem_left {pattern : Pattern α} (brackets : pattern.Bracketed)
    {before : List Char} (free : '<' ∉ before) (after : List Char) :
    pattern.pieces (before ++ after) = before.map .plain ++ pattern.pieces after := by
  induction before with
  | nil => rfl
  | cons char rest ih =>
      rw [List.mem_cons, not_or] at free
      rw [List.cons_append, pieces_plain (brackets.unread_of_ne (Ne.symm free.1) _), ih free.2]
      rfl

theorem Bracketed.pieces_of_not_mem {pattern : Pattern α} (brackets : pattern.Bracketed)
    {text : List Char} (free : '<' ∉ text) : pattern.pieces text = text.map .plain := by
  simpa [pieces_nil] using brackets.pieces_of_not_mem_left free []

/-- A reading ends with a closing bracket, so one that begins before a stretch without
such a bracket ends before it as well, or behind it. -/
theorem Bracketed.passes_of_crosses {pattern : Pattern α} (brackets : pattern.Bracketed)
    {before stretch after : List Char} (free : '>' ∉ stretch) {span : Span}
    (member : span ∈ pattern.spans (before ++ (stretch ++ after)))
    (crossed : span.Crosses (Text.byteLength before)) :
    Text.byteLength before + Text.byteLength stretch < span.stop := by
  obtain ⟨found, present, rfl⟩ := List.mem_map.mp member
  obtain ⟨left, reading, right, textEq, read, -, spanEq⟩ := brackets.sound.found present
  obtain ⟨body, rest, shape, -⟩ := brackets.bracketed read
  have bounds : Text.byteLength before < Text.byteLength left + Text.byteLength reading.text := by
    rw [spanEq] at crossed
    exact crossed.2
  have last : Text.byteLength ['>'] = 1 := rfl
  rw [spanEq, shape, ← List.cons_append, Text.byteLength_append, last]
  rw [shape, ← List.cons_append, Text.byteLength_append, last] at bounds
  change _ < Text.byteLength left + (Text.byteLength ('<' :: body) + 1)
  apply Classical.byContradiction
  intro within
  have joined : before ++ (stretch ++ after) = (left ++ '<' :: body) ++ ('>' :: right) := by
    rw [textEq, shape]
    simp
  obtain ⟨middle, middleEq, stretchEq⟩ := Text.append_of_byteLength_le joined
    (by rw [Text.byteLength_append]; omega)
  have inStretch : stretch ++ after = (middle ++ ['>']) ++ right := by
    rw [stretchEq]
    simp
  have sizes := congrArg Text.byteLength middleEq
  rw [Text.byteLength_append, Text.byteLength_append] at sizes
  obtain ⟨tail, tailEq, -⟩ := Text.append_of_byteLength_le inStretch.symm
    (by rw [Text.byteLength_append, last]; omega)
  apply free
  rw [tailEq]
  simp

theorem Bracketed.uncut_of_not_mem_right {pattern : Pattern α} (brackets : pattern.Bracketed)
    {before after : List Char} (free : '>' ∉ after) :
    ∀ span ∈ pattern.spans (before ++ after), ¬ span.Crosses (Text.byteLength before) := by
  intro span member crossed
  have inText := member
  rw [← List.append_nil after] at inText
  have passes := brackets.passes_of_crosses free inText crossed
  have bound := brackets.sound.stop_le member
  rw [Text.byteLength_append] at bound
  omega

theorem erase_of_pieces_plain {pattern : Pattern α} {text : List Char}
    (unread : pattern.pieces text = text.map .plain) : pattern.erase text = text := by
  unfold erase
  rw [unread, List.filterMap_map]
  exact List.filterMap_some

theorem findAll_of_pieces_plain {pattern : Pattern α} {text : List Char}
    (unread : pattern.pieces text = text.map .plain) : pattern.findAll text = [] := by
  have empty : ∀ (chars : List Char) (offset : Nat),
      locate offset (chars.map (.plain (α := α))) = [] := by
    intro chars
    induction chars with
    | nil => intro offset; rfl
    | cons char rest ih => intro offset; exact ih _
  unfold findAll
  rw [unread]
  exact empty text 0

end Pattern

end PageCheck
