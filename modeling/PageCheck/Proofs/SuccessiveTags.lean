import PageCheck.Proofs.Excerpts
import PageCheck.Proofs.LiveTags

/-! Successive tags.  What a pass finds is described without the pass: readings that
follow one another, such that the pattern reads nowhere between them.  There is one such
list for each text.  The tags of a text are what remains of this list when the readings
that begin in a comment are dropped, each compared with all comments; so they follow one
another as well, and each is cut out of the text from its first bracket to its last. -/

set_option autoImplicit false

namespace PageCheck

namespace Pattern

variable {α : Type} {pattern : Pattern α} {text : List Char} {offset : Nat}
  {found other : Found α} {founds others : List (Found α)}

def Finds (pattern : Pattern α) (text : List Char) (found : Found α) : Prop :=
  ∃ before reading after, text = before ++ (reading.text ++ after) ∧
    pattern (reading.text ++ after) = some reading ∧ found.value = reading.value ∧
    found.span = ⟨Text.byteLength before,
      Text.byteLength before + Text.byteLength reading.text⟩

theorem Finds.eq_of_start (finds : pattern.Finds text found) (also : pattern.Finds text other)
    (start : found.span.start = other.span.start) : found = other := by
  obtain ⟨before, reading, after, textEq, read, valueEq, spanEq⟩ := finds
  obtain ⟨left, second, right, sameText, again, otherValue, otherSpan⟩ := also
  rw [spanEq, otherSpan] at start
  obtain ⟨rfl, restEq⟩ := Text.append_of_byteLength_eq (textEq.symm.trans sameText) start
  rw [restEq, again, Option.some.injEq] at read
  subst read
  obtain ⟨value, span⟩ := found
  obtain ⟨otherValue', otherSpan'⟩ := other
  simp only at valueEq spanEq otherValue otherSpan
  rw [valueEq, spanEq, otherValue, otherSpan]

/-- The readings from an offset on: they follow one another, and wherever the pattern reads
behind the offset, one of them begins or goes on. -/
structure SuccessiveFrom (pattern : Pattern α) (text : List Char) (offset : Nat)
    (founds : List (Found α)) : Prop where
  ordered : Span.Ordered (founds.map (·.span))
  finds : ∀ found ∈ founds, pattern.Finds text found
  behind : ∀ found ∈ founds, offset ≤ found.span.start
  complete : ∀ before after, text = before ++ after → offset ≤ Text.byteLength before →
    (pattern after).isSome = true →
    ∃ found ∈ founds, found.span.contains (Text.byteLength before) = true

def Successive (pattern : Pattern α) (text : List Char) (founds : List (Found α)) : Prop :=
  pattern.SuccessiveFrom text 0 founds

namespace SuccessiveFrom

theorem tail (successive : pattern.SuccessiveFrom text offset (found :: founds)) :
    pattern.SuccessiveFrom text found.span.stop founds where
  ordered := ⟨(List.pairwise_cons.mp successive.ordered.1).2,
    fun span member => successive.ordered.2 span (List.mem_cons_of_mem _ member)⟩
  finds := fun later member => successive.finds later (List.mem_cons_of_mem _ member)
  behind := fun later member =>
    (List.pairwise_cons.mp successive.ordered.1).1 later.span
      (List.mem_map.mpr ⟨later, member, rfl⟩)
  complete := by
    intro before after textEq passed reads
    have first := successive.behind found List.mem_cons_self
    have filled := successive.ordered.2 found.span List.mem_cons_self
    obtain ⟨covering, member, contained⟩ :=
      successive.complete before after textEq (by omega) reads
    rcases List.mem_cons.mp member with rfl | later
    · have inside := (Span.contains_iff.mp contained).2
      omega
    · exact ⟨covering, later, contained⟩

theorem start_le (successive : pattern.SuccessiveFrom text offset (found :: founds))
    (finds : pattern.Finds text other) (behind : offset ≤ other.span.start) :
    found.span.start ≤ other.span.start := by
  obtain ⟨before, reading, after, textEq, read, -, spanEq⟩ := finds
  rw [spanEq] at behind ⊢
  obtain ⟨covering, member, contained⟩ :=
    successive.complete before (reading.text ++ after) textEq behind (by rw [read]; rfl)
  have starts := (Span.contains_iff.mp contained).1
  rcases List.mem_cons.mp member with rfl | later
  · exact starts
  · have follows := (List.pairwise_cons.mp successive.ordered.1).1 covering.span
      (List.mem_map.mpr ⟨covering, later, rfl⟩)
    have filled := successive.ordered.2 found.span List.mem_cons_self
    exact Nat.le_trans (Nat.le_trans (Nat.le_of_lt filled) follows) starts

theorem not_nil (successive : pattern.SuccessiveFrom text offset [])
    (finds : pattern.Finds text found) : ¬ offset ≤ found.span.start := by
  obtain ⟨before, reading, after, textEq, read, -, spanEq⟩ := finds
  rw [spanEq]
  intro behind
  obtain ⟨covering, member, -⟩ :=
    successive.complete before (reading.text ++ after) textEq behind (by rw [read]; rfl)
  cases member

theorem unique (successive : pattern.SuccessiveFrom text offset founds)
    (same : pattern.SuccessiveFrom text offset others) : founds = others := by
  induction founds generalizing offset others with
  | nil =>
      cases others with
      | nil => rfl
      | cons other others =>
          exact absurd (same.behind other List.mem_cons_self)
            (successive.not_nil (same.finds other List.mem_cons_self))
  | cons found founds ih =>
      cases others with
      | nil =>
          exact absurd (successive.behind found List.mem_cons_self)
            (same.not_nil (successive.finds found List.mem_cons_self))
      | cons other others =>
          have finds := successive.finds found List.mem_cons_self
          have also := same.finds other List.mem_cons_self
          have start : found.span.start = other.span.start := Nat.le_antisymm
            (successive.start_le also (same.behind other List.mem_cons_self))
            (same.start_le finds (successive.behind found List.mem_cons_self))
          obtain rfl := finds.eq_of_start also start
          rw [ih successive.tail same.tail]

end SuccessiveFrom

theorem Sound.successive (sound : pattern.Sound) (text : List Char) :
    pattern.Successive text (pattern.findAll text) where
  ordered := sound.ordered text
  finds := fun _ member => sound.found member
  behind := fun _ _ => Nat.zero_le _
  complete := by
    rintro before after rfl - reads
    exact sound.exists_covering before reads

/-- A pass finds the one list of successive readings. -/
theorem Sound.successive_iff (sound : pattern.Sound) :
    pattern.Successive text founds ↔ founds = pattern.findAll text :=
  ⟨fun successive => successive.unique (sound.successive text),
    fun same => same ▸ sound.successive text⟩

end Pattern

/-! ### Names -/

def Tag.IsName (name : String) : Prop :=
  ∃ first rest, name = String.ofList (first :: rest) ∧ ('a' ≤ first ∧ first ≤ 'z') ∧
    ∀ char ∈ rest, ('a' ≤ char ∧ char ≤ 'z') ∨ ('0' ≤ char ∧ char ≤ '9') ∨ char = '-'

theorem TagText.Proper.isName {written : TagText} (proper : written.Proper) :
    Tag.IsName (Text.lowerName written.name) := by
  obtain ⟨first, more, nameEq, letter, chars⟩ := proper.named
  refine ⟨Text.lowerChar first, Text.lower more, by rw [nameEq]; rfl, ?_, ?_⟩
  · have classes := (isAsciiLetter_iff first).mp letter
    have code := Text.toNat_lowerChar first
    change 97 ≤ (Text.lowerChar first).toNat ∧ (Text.lowerChar first).toNat ≤ 122
    split at code <;> omega
  · intro char member
    obtain ⟨origin, present, rfl⟩ := List.mem_map.mp member
    have classes := (isNameChar_iff origin).mp (chars origin present)
    have code := Text.toNat_lowerChar origin
    have dash : Text.lowerChar origin = '-' ↔ (Text.lowerChar origin).toNat = 45 :=
      ⟨fun same => by rw [same]; rfl, fun same => Char.ext (UInt32.toNat_inj.mp same)⟩
    rw [dash]
    change (97 ≤ (Text.lowerChar origin).toNat ∧ (Text.lowerChar origin).toNat ≤ 122) ∨
      (48 ≤ (Text.lowerChar origin).toNat ∧ (Text.lowerChar origin).toNat ≤ 57) ∨ _
    split at code <;> omega

/-! ### What is scanned -/

namespace Tag

variable {text : List Char} {tag : Tag}

/-- A scanned tag is cut out of the text from its first bracket to its last. -/
theorem slice?_of_mem_scan (member : tag ∈ scan text) :
    ∃ body, Text.slice? text tag.span = some ('<' :: (body ++ ['>'])) := by
  obtain ⟨before, reading, after, textEq, read, rfl⟩ := readIn_of_mem_scan member
  obtain ⟨body, -, shape, -⟩ := TagText.bracketed.bracketed read
  refine ⟨body, ?_⟩
  rw [textEq, ← shape]
  exact Text.slice?_append before reading.text after

theorem isName_of_mem_scan (member : tag ∈ scan text) : IsName tag.name := by
  obtain ⟨-, written, -, proper, -, rfl⟩ := exists_text_of_mem_scan member
  exact proper.isName

/-- The cursor drops what searching all comments for each reading drops. -/
theorem scan_eq_outside (text : List Char) :
    scan text =
      ((TagText.pattern.findAll text).filter fun found =>
        decide (∀ comment ∈ Comment.spans text,
          ¬ (comment.start ≤ found.span.start ∧ found.span.start < comment.stop))).map
        fun found => found.value.placed found.span := by
  rw [scan_eq_filter]
  refine congrArg (List.map _) (List.filter_congr fun found _ => ?_)
  rw [Bool.eq_iff_iff, Bool.not_eq_true', Bool.eq_false_iff, decide_eq_true_eq, ne_eq,
    Comment.covers_eq_true]
  exact ⟨fun free comment present inside => free ⟨comment, present, inside⟩,
    fun free ⟨comment, present, inside⟩ => free comment present inside⟩

/-- The tags of a text follow one another without overlap, each a stretch of the text
between a pair of angle brackets and with a proper name.  They are the successive readings
of the pattern of tags but for those that begin in a comment, and for each reading all
comments count. -/
theorem scan_keeps_order (text : List Char) :
    (scan text).Pairwise (fun earlier later =>
      earlier.span.start < later.span.start ∧ earlier.span.stop ≤ later.span.start) ∧
    (∀ tag ∈ scan text,
      tag.span.start < tag.span.stop ∧ tag.span.stop ≤ Text.byteLength text ∧
      (∃ body, Text.slice? text tag.span = some ('<' :: (body ++ ['>']))) ∧ IsName tag.name) ∧
    ∃ founds, TagText.pattern.Successive text founds ∧
      (∀ others, TagText.pattern.Successive text others → others = founds) ∧
      scan text =
        (founds.filter fun found =>
          decide (∀ comment ∈ Comment.spans text,
            ¬ (comment.start ≤ found.span.start ∧ found.span.start < comment.stop))).map
          fun found => found.value.placed found.span := by
  refine ⟨?_, fun tag member => ⟨start_lt_stop member, stop_le_byteLength member,
    slice?_of_mem_scan member, isName_of_mem_scan member⟩,
    _, TagText.bracketed.sound.successive text,
    fun others => TagText.bracketed.sound.successive_iff.mp, scan_eq_outside text⟩
  refine (List.pairwise_map.mp (scan_ordered text).1).imp_of_mem ?_
  intro earlier later member _ follows
  exact ⟨Nat.lt_of_lt_of_le (start_lt_stop member) follows, follows⟩

end Tag

end PageCheck
