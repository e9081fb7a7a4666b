import PageCheck.Markup.Content
import PageCheck.Proofs.LiveTags

/-! What the visible text leaves out of a fragment, against what the scanner takes
for markup.  The visible text is made in two passes: tags are looked for in what the
comments leave.  The scanner looks for tags in the fragment as it is written and drops
those that begin in a comment.  The two agree on every character when each scanned tag
is still one tag without the comments in it, and no tag is made by taking comments out;
then the visible text is the fragment without its comments and scanned tags. -/

set_option autoImplicit false

namespace PageCheck

namespace Text

def keepUnless (hidden : List Char → Bool) : List Char → List Char → List Char
  | _, [] => []
  | before, char :: rest =>
      if hidden before then
        keepUnless hidden (before ++ [char]) rest
      else
        char :: keepUnless hidden (before ++ [char]) rest

def without (ranges : List Span) (text : List Char) : List Char :=
  keepUnless (fun before => ranges.any (·.contains (byteLength before))) [] text

variable {hidden other : List Char → Bool} {before place text : List Char}

theorem keepUnless_append (hidden : List Char → Bool) (before first second : List Char) :
    keepUnless hidden before (first ++ second) =
      keepUnless hidden before first ++ keepUnless hidden (before ++ first) second := by
  induction first generalizing before with
  | nil => simp [keepUnless]
  | cons char rest ih =>
      rw [List.cons_append, keepUnless, keepUnless, ih, List.append_assoc]
      split <;> rfl

theorem keepUnless_congr (same : ∀ lead char trail, text = lead ++ char :: trail →
      hidden (before ++ lead) = other (place ++ lead)) :
    keepUnless hidden before text = keepUnless other place text := by
  induction text generalizing before place with
  | nil => rfl
  | cons char rest ih =>
      have here : hidden before = other place := by
        simpa using same [] char rest rfl
      have later : keepUnless hidden (before ++ [char]) rest =
          keepUnless other (place ++ [char]) rest := by
        apply ih
        intro lead next trail restEq
        rw [List.append_assoc, List.append_assoc]
        exact same (char :: lead) next trail (by rw [restEq]; rfl)
      rw [keepUnless, keepUnless, here, later]

theorem keepUnless_of_all (all : ∀ lead char trail, text = lead ++ char :: trail →
      hidden (before ++ lead) = true) :
    keepUnless hidden before text = [] := by
  induction text generalizing before with
  | nil => rfl
  | cons char rest ih =>
      have here : hidden before = true := by
        simpa using all [] char rest rfl
      rw [keepUnless, if_pos here]
      apply ih
      intro lead next trail restEq
      rw [List.append_assoc]
      exact all (char :: lead) next trail (by rw [restEq]; rfl)

theorem keepUnless_of_none (text : List Char) :
    keepUnless (fun _ => false) place text = text := by
  induction text generalizing place with
  | nil => rfl
  | cons char rest ih =>
      rw [keepUnless, ih]
      rfl

end Text

/-! ### What a pass leaves -/

namespace Pattern

variable {α : Type} {pattern : Pattern α}

/-- To take out what the pattern reads, and of what is left the characters of a second
sort, is to take out at once the characters of either sort. -/
theorem Divides.keepUnless_erase (brackets : pattern.Bracketed) {inner outer : List Char → Bool}
    {text : List Char} {pieces : List (Piece α)} (division : pattern.Divides text pieces)
    {before place : List Char}
    (either : ∀ lead char trail, text = lead ++ char :: trail →
      outer (before ++ lead) =
        (pattern.takes text (Text.byteLength lead) || inner (place ++ pattern.erase lead))) :
    Text.keepUnless inner place (pattern.erase text) = Text.keepUnless outer before text := by
  induction division generalizing before place with
  | nil => rfl
  | @plain char rest pieces unread tail ih =>
      have outside : pattern.takes (char :: rest) 0 = false := by
        rw [brackets.sound.takes_zero, unread]
        rfl
      have here : outer before = inner place := by
        have first := either [] char rest rfl
        rwa [Text.byteLength, outside, Bool.false_or, List.append_nil,
          show pattern.erase [] = [] from rfl, List.append_nil] at first
      have later : Text.keepUnless inner (place ++ [char]) (pattern.erase rest) =
          Text.keepUnless outer (before ++ [char]) rest := by
        apply ih
        intro lead other trail restEq
        have there := either (char :: lead) other trail (by rw [restEq]; rfl)
        have leadUnread : pattern (char :: lead) = none := by
          rw [restEq, ← List.cons_append] at unread
          exact brackets.unread_of_append unread
        have behind := (brackets.seam_plain unread).takes_right brackets.sound
          (Text.byteLength lead)
        simp only [Text.byteLength, Nat.add_zero, List.singleton_append] at behind
        rw [erase_plain leadUnread, Text.byteLength, behind] at there
        simpa using there
      rw [erase_plain unread, Text.keepUnless, Text.keepUnless, later, here]
  | @hit reading rest pieces read tail ih =>
      have nonempty := brackets.sound.nonempty read
      have gone : Text.keepUnless outer before reading.text = [] := by
        apply Text.keepUnless_of_all
        intro lead char trail textEq
        have inside : Text.byteLength lead < Text.byteLength reading.text := by
          rw [textEq]
          exact Text.byteLength_lt_append lead char trail
        rw [either lead char (trail ++ rest) (by rw [textEq]; simp),
          brackets.sound.takes_hit read inside, Bool.true_or]
      rw [erase_hit nonempty read, Text.keepUnless_append, gone, List.nil_append]
      apply ih
      intro lead char trail restEq
      have there := either (reading.text ++ lead) char trail (by rw [restEq]; simp)
      rwa [Text.byteLength_append, erase_hit nonempty (brackets.settled lead read),
        (brackets.seam_hit read).takes_right brackets.sound, ← List.append_assoc] at there

theorem Bracketed.erase_eq_without (brackets : pattern.Bracketed) (text : List Char) :
    pattern.erase text = Text.without (pattern.spans text) text := by
  have once : Text.keepUnless (fun _ => false) [] (pattern.erase text) =
      Text.without (pattern.spans text) text := by
    apply (brackets.sound.divides text).keepUnless_erase brackets
    intro lead char trail _
    rw [List.nil_append, Bool.or_false]
    rfl
  rwa [Text.keepUnless_of_none] at once

end Pattern

/-! ### Markup -/

namespace TagText

def isWhole (text : List Char) : Bool :=
  (pattern text).any (·.text == text)

variable {text : List Char}

theorem isWhole_iff :
    isWhole text = true ↔ ∃ reading, pattern text = some reading ∧ reading.text = text := by
  simp [isWhole, Option.any_eq_true]

theorem seam_of_isWhole (whole : isWhole text = true) (rest : List Char) :
    pattern.Seam text rest := by
  obtain ⟨reading, read, rfl⟩ := isWhole_iff.mp whole
  rw [← List.append_nil reading.text] at read
  exact bracketed.seam_hit (bracketed.settled rest read)

theorem takes_of_isWhole (whole : isWhole text = true) {offset : Nat}
    (inside : offset < Text.byteLength text) : pattern.takes text offset = true := by
  obtain ⟨reading, read, rfl⟩ := isWhole_iff.mp whole
  rw [← List.append_nil reading.text] at read
  have taken := bracketed.sound.takes_hit read inside
  rwa [List.append_nil] at taken

end TagText

namespace Tag

def scans (text : List Char) (offset : Nat) : Bool :=
  (scan text).any (·.span.contains offset)

/-- The tag is still one tag when the comments are taken out of it: none of them ends
behind it, and what they leave of it is a tag as a whole. -/
structure Spared (fragment : List Char) (tag : Tag) : Prop where
  uncut : ∀ comment ∈ Comment.spans fragment, ¬ comment.Crosses tag.span.stop
  whole : ∃ written, Text.slice? fragment tag.span = some written ∧
    TagText.isWhole (Comment.strip written) = true

instance (fragment : List Char) (tag : Tag) : Decidable (tag.Spared fragment) :=
  decidable_of_iff
    ((∀ comment ∈ Comment.spans fragment, ¬ comment.Crosses tag.span.stop) ∧
      ∃ written ∈ Text.slice? fragment tag.span, TagText.isWhole (Comment.strip written) = true)
    ⟨fun ⟨uncut, whole⟩ => ⟨uncut, whole⟩, fun spared => ⟨spared.uncut, spared.whole⟩⟩

end Tag

namespace Content

variable {fragment before after : List Char}

def markup (fragment : List Char) : List Span :=
  Comment.spans fragment ++ (Tag.scan fragment).map (·.span)

/-- The visible text leaves out the character behind these: it lies in a comment, or its
place in what the comments leave lies in a tag. -/
def hides (fragment before : List Char) : Bool :=
  Comment.pattern.takes fragment (Text.byteLength before) ||
    TagText.pattern.takes (Comment.strip fragment) (Text.byteLength (Comment.strip before))

/-- Each character is left out of the visible text just when the scanner takes it for
markup. -/
def Agrees (fragment : List Char) : Prop :=
  ∀ before char after, fragment = before ++ char :: after →
    hides fragment before = (markup fragment).any (·.contains (Text.byteLength before))

/-- Taking out the comments makes no tag: where a tag begins in what they leave, a
scanned tag stands in the fragment. -/
def Unmade (fragment : List Char) : Prop :=
  ∀ before after, fragment = before ++ after →
    Comment.pattern.takes fragment (Text.byteLength before) = false →
      (TagText.pattern (Comment.strip after)).isSome = true →
        Tag.scans fragment (Text.byteLength before) = true

theorem unmade_iff :
    Unmade fragment ↔ ∀ count ≤ fragment.length,
      Comment.pattern.takes fragment (Text.byteLength (fragment.take count)) = false →
        (TagText.pattern (Comment.strip (fragment.drop count))).isSome = true →
          Tag.scans fragment (Text.byteLength (fragment.take count)) = true := by
  constructor
  · intro unmade count _
    exact unmade _ _ (List.take_append_drop count fragment).symm
  · rintro unmade before after rfl
    have here := unmade before.length (by rw [List.length_append]; omega)
    rwa [List.take_left, List.drop_left] at here

instance (fragment : List Char) : Decidable (Unmade fragment) :=
  decidable_of_iff _ unmade_iff.symm

theorem any_markup (fragment : List Char) (offset : Nat) :
    (markup fragment).any (·.contains offset) =
      (Comment.pattern.takes fragment offset || Tag.scans fragment offset) := by
  rw [markup, List.any_append, List.any_map]
  rfl

theorem visible_eq_keepUnless (fragment : List Char) :
    visible fragment = Text.trim (Text.keepUnless (hides fragment) [] fragment) := by
  rw [visible, TagText.bracketed.erase_eq_without, Text.without]
  congr 1
  apply (Comment.bracketed.sound.divides fragment).keepUnless_erase Comment.bracketed
  intro before char after _
  rfl

/-- Where the two agree, the visible text is the fragment without its markup. -/
theorem Agrees.visible (agrees : Agrees fragment) :
    visible fragment = Text.trim (Text.without (markup fragment) fragment) := by
  rw [visible_eq_keepUnless, Text.without]
  congr 1
  apply Text.keepUnless_congr
  intro before char after fragmentEq
  exact agrees before char after fragmentEq

/-- Where the two agree, taking out the comments makes no tag. -/
theorem Agrees.unmade (agrees : Agrees fragment) : Unmade fragment := by
  intro before after fragmentEq outside reads
  cases after with
  | nil => cases reads
  | cons char after =>
      subst fragmentEq
      have seam := Comment.bracketed.seam_of_outside outside
      have hidden : hides (before ++ char :: after) before = true := by
        obtain ⟨found, member, contained⟩ :=
          TagText.bracketed.sound.exists_covering (Comment.strip before) reads
        rw [hides, outside, Bool.false_or, Comment.strip, seam.erase, Pattern.takes,
          List.any_eq_true]
        exact ⟨found.span, List.mem_map.mpr ⟨found, member, rfl⟩, contained⟩
      rwa [agrees before char after rfl, any_markup, outside, Bool.false_or] at hidden

/-! ### From stretch to stretch -/

structure Cut (fragment before after : List Char) : Prop where
  parts : fragment = before ++ after
  comments : Comment.pattern.Seam before after
  tags : ∀ tag ∈ Tag.scan fragment, ¬ tag.span.Crosses (Text.byteLength before)

/-- In a part of a fragment, with the text `before` in front of it: outside the comments,
what lies in a tag of the text that they leave of the part lies in a scanned tag of the
fragment, and the other way round. -/
def AgreesFrom (fragment before part : List Char) : Prop :=
  ∀ lead char trail, part = lead ++ char :: trail →
    Comment.pattern.takes part (Text.byteLength lead) = false →
      TagText.pattern.takes (Comment.strip part) (Text.byteLength (Comment.strip lead)) =
        Tag.scans fragment (Text.byteLength (before ++ lead))

/-- A stretch between two such places.  What the comments leave of it has nothing to do
with the tags in what they leave of the rest. -/
structure Stretch (fragment before stretch after : List Char) : Prop where
  filled : stretch ≠ []
  comments : Comment.pattern.Seam stretch after
  left : TagText.pattern.Seam (Comment.strip stretch) (Comment.strip after)
  tags : ∀ tag ∈ Tag.scan fragment, ¬ tag.span.Crosses (Text.byteLength (before ++ stretch))
  agrees : AgreesFrom fragment before stretch

theorem Cut.next {stretch : List Char} (cut : Cut fragment before (stretch ++ after))
    (next : Stretch fragment before stretch after) : Cut fragment (before ++ stretch) after where
  parts := by rw [cut.parts, List.append_assoc]
  comments := (Comment.bracketed.seam_of_left cut.comments next.comments).1
  tags := next.tags

theorem Cut.comment {reading : Reading Unit}
    (cut : Cut fragment before (reading.text ++ after))
    (read : Comment.pattern (reading.text ++ after) = some reading) :
    Stretch fragment before reading.text after := by
  have alone := Comment.bracketed.settled [] read
  have nonempty := Comment.bracketed.sound.nonempty read
  refine ⟨nonempty, Comment.bracketed.seam_hit read, ?_, ?_, ?_⟩
  · have gone := Pattern.erase_hit nonempty alone
    rw [List.append_nil] at gone
    rw [Comment.strip, gone]
    rfl
  · -- a tag over the end of the comment would begin in it, or in front of the place before it
    intro tag member crossed
    rw [Text.byteLength_append] at crossed
    have starts : Text.byteLength before ≤ tag.span.start := by
      have uncut := cut.tags tag member
      unfold Span.Crosses at uncut crossed
      omega
    obtain ⟨offset, startEq⟩ := Nat.exists_eq_add_of_le starts
    have inside : offset < Text.byteLength reading.text := by
      have first := crossed.1
      omega
    have covered : Comment.pattern.takes fragment tag.span.start = true := by
      rw [cut.parts, startEq, cut.comments.takes_right Comment.bracketed.sound]
      exact Comment.bracketed.sound.takes_hit read inside
    obtain ⟨comment, present, within⟩ := Pattern.takes_iff.mp covered
    exact Tag.start_outside_comments member comment present within
  · intro lead char trail textEq outside
    have inside : Text.byteLength lead < Text.byteLength reading.text := by
      rw [textEq]
      exact Text.byteLength_lt_append lead char trail
    have taken := Comment.bracketed.sound.takes_hit alone inside
    rw [List.append_nil, outside] at taken
    cases taken

theorem Cut.scanned {tag : Tag} (cut : Cut fragment before after)
    (member : tag ∈ Tag.scan fragment) (spared : tag.Spared fragment)
    (contained : tag.span.contains (Text.byteLength before) = true) :
    ∃ stretch behind, after = stretch ++ behind ∧ Stretch fragment before stretch behind := by
  obtain ⟨written, sliced, whole⟩ := spared.whole
  obtain ⟨lead, behind, parts, spanEq⟩ := Text.slice?_eq_some sliced
  have starts : tag.span.start = Text.byteLength before := by
    have uncut := cut.tags tag member
    have bounds := Span.contains_iff.mp contained
    unfold Span.Crosses at uncut
    omega
  have filled := Tag.start_lt_stop member
  rw [spanEq] at starts filled
  obtain ⟨rfl, rfl⟩ := Text.append_of_byteLength_eq (parts.symm.trans cut.parts) starts
  have stops : tag.span.stop = Text.byteLength (lead ++ written) := by
    rw [spanEq, Text.byteLength_append]
  refine ⟨written, behind, rfl, ?_, ?_, TagText.seam_of_isWhole whole _, ?_, ?_⟩
  · rintro rfl
    simp [Text.byteLength] at filled
  · apply Comment.bracketed.seam_between cut.comments
    apply Comment.bracketed.seam
    intro comment present crossed
    rw [List.append_assoc, ← parts] at present
    rw [← stops] at crossed
    exact spared.uncut comment present crossed
  · intro other present crossed
    rw [← stops] at crossed
    have ordered := Tag.scan_ordered fragment
    exact (ordered.uncut (List.mem_map.mpr ⟨tag, member, rfl⟩)
      (List.mem_map.mpr ⟨other, present, rfl⟩)).2 crossed
  · intro front char trail textEq outside
    have inside : Text.byteLength (Comment.strip front) <
        Text.byteLength (Comment.strip written) := by
      rw [textEq] at outside ⊢
      exact Comment.bracketed.byteLength_erase_lt outside
    have within : tag.span.contains (Text.byteLength (lead ++ front)) = true := by
      have shorter := Text.byteLength_lt_append front char trail
      rw [← textEq] at shorter
      rw [Span.contains_iff, spanEq, Text.byteLength_append]
      exact ⟨Nat.le_add_right _ _, Nat.add_lt_add_left shorter _⟩
    rw [TagText.takes_of_isWhole whole inside, Tag.scans, eq_comm, List.any_eq_true]
    exact ⟨tag, member, within⟩

theorem Cut.plain {char : Char} (cut : Cut fragment before (char :: after))
    (uncommented : Comment.pattern (char :: after) = none)
    (untagged : TagText.pattern (Comment.strip (char :: after)) = none)
    (unscanned : Tag.scans fragment (Text.byteLength before) = false) :
    Stretch fragment before [char] after := by
  have left : Comment.strip (char :: after) = char :: Comment.strip after :=
    Pattern.erase_plain uncommented
  have alone : Comment.strip [char] = [char] :=
    Pattern.erase_plain (Comment.bracketed.unread_of_append uncommented)
  rw [left] at untagged
  refine ⟨List.cons_ne_nil _ _, Comment.bracketed.seam_plain uncommented, ?_, ?_, ?_⟩
  · rw [alone]
    exact TagText.bracketed.seam_plain untagged
  · -- a tag over the end of the character would begin in front of it
    intro tag member crossed
    obtain ⟨lead, written, trail, -, parts, rfl⟩ := Tag.exists_text_of_mem_scan member
    simp only [TagText.placed, Span.Crosses, Text.byteLength_append, Text.byteLength] at crossed
    have starts : Text.byteLength lead ≤ Text.byteLength before := by
      apply Classical.byContradiction
      intro later
      obtain ⟨middle, rfl, rest⟩ :=
        Text.append_of_byteLength_le (cut.parts.symm.trans parts) (Nat.le_of_not_le later)
      cases middle with
      | nil => simp at later
      | cons first middle =>
          obtain ⟨rfl, -⟩ := List.cons.inj rest
          simp only [Text.byteLength_append, Text.byteLength] at crossed
          omega
    have scanned : Tag.scans fragment (Text.byteLength before) = true := by
      refine List.any_eq_true.mpr ⟨_, member, Span.contains_iff.mpr ⟨starts, ?_⟩⟩
      exact Nat.lt_of_le_of_lt (Nat.le_add_right _ _) crossed.2
    rw [unscanned] at scanned
    cases scanned
  · intro lead other trail textEq _
    obtain ⟨rfl, -, -⟩ : lead = [] ∧ other = char ∧ trail = [] := by
      simpa [List.cons_eq_append_iff] using textEq
    rw [List.append_nil, unscanned, alone]
    have unread : TagText.pattern [char] = none := TagText.bracketed.unread_of_append untagged
    exact (TagText.bracketed.sound.takes_zero [char]).trans (by rw [unread]; rfl)

/-- Behind such a place there is a stretch, as long as the fragment goes on. -/
theorem Cut.exists_stretch (cut : Cut fragment before after)
    (spared : ∀ tag ∈ Tag.scan fragment, tag.Spared fragment) (unmade : Unmade fragment)
    (more : after ≠ []) :
    ∃ stretch behind, after = stretch ++ behind ∧ Stretch fragment before stretch behind := by
  cases read : Comment.pattern after with
  | some reading =>
      obtain ⟨behind, rfl⟩ := Comment.bracketed.sound.begins read
      exact ⟨reading.text, behind, rfl, cut.comment read⟩
  | none =>
      cases scanned : Tag.scans fragment (Text.byteLength before) with
      | true =>
          obtain ⟨tag, member, contained⟩ := List.any_eq_true.mp scanned
          exact cut.scanned member (spared tag member) contained
      | false =>
          obtain ⟨char, behind, rfl⟩ := List.exists_cons_of_ne_nil more
          have outside : Comment.pattern.takes fragment (Text.byteLength before) = false := by
            have first := cut.comments.takes_right Comment.bracketed.sound 0
            rwa [← cut.parts, Nat.add_zero, Comment.bracketed.sound.takes_zero, read] at first
          have untagged : TagText.pattern (Comment.strip (char :: behind)) = none := by
            cases made : TagText.pattern (Comment.strip (char :: behind)) with
            | none => rfl
            | some reading =>
                have known := unmade before _ cut.parts outside (by rw [made]; rfl)
                rw [scanned] at known
                cases known
          exact ⟨[char], behind, rfl, cut.plain read untagged scanned⟩

theorem Stretch.agreesFrom {stretch : List Char} (next : Stretch fragment before stretch after)
    (tail : AgreesFrom fragment (before ++ stretch) after) :
    AgreesFrom fragment before (stretch ++ after) := by
  intro lead char trail textEq outside
  have stripped : Comment.strip (stretch ++ after) = Comment.strip stretch ++ Comment.strip after :=
    next.comments.erase
  by_cases inside : Text.byteLength lead < Text.byteLength stretch
  · obtain ⟨middle, rfl, rest⟩ :=
      Text.append_of_byteLength_le textEq.symm (Nat.le_of_lt inside)
    cases middle with
    | nil => simp at inside
    | cons first middle =>
        obtain ⟨rfl, -⟩ := List.cons.inj rest
        rw [next.comments.takes_left Comment.bracketed.sound inside] at outside
        have shorter : Text.byteLength (Comment.strip lead) <
            Text.byteLength (Comment.strip (lead ++ char :: middle)) :=
          Comment.bracketed.byteLength_erase_lt outside
        rw [stripped, next.left.takes_left TagText.bracketed.sound shorter]
        exact next.agrees lead char middle rfl outside
  · obtain ⟨middle, rfl, rfl⟩ := Text.append_of_byteLength_le textEq (Nat.le_of_not_lt inside)
    rw [Text.byteLength_append, next.comments.takes_right Comment.bracketed.sound] at outside
    have seam := (Comment.bracketed.seam_of_left next.comments
      (Comment.bracketed.seam_of_outside outside)).2
    have left : Comment.strip (stretch ++ middle) =
        Comment.strip stretch ++ Comment.strip middle := seam.erase
    rw [stripped, left, Text.byteLength_append, next.left.takes_right TagText.bracketed.sound,
      tail middle char trail rfl outside, List.append_assoc]

/-- From such a place on the two agree. -/
theorem Cut.agreesFrom {before after : List Char} (cut : Cut fragment before after)
    (spared : ∀ tag ∈ Tag.scan fragment, tag.Spared fragment) (unmade : Unmade fragment) :
    AgreesFrom fragment before after := by
  cases after with
  | nil =>
      intro lead char trail textEq
      simp at textEq
  | cons char after =>
      obtain ⟨stretch, behind, parts, next⟩ :=
        cut.exists_stretch spared unmade (List.cons_ne_nil char after)
      rw [parts] at cut ⊢
      have shorter : behind.length < (char :: after).length := by
        rw [parts, List.length_append]
        have positive := List.length_pos_iff.mpr next.filled
        omega
      exact next.agreesFrom (Cut.agreesFrom (cut.next next) spared unmade)
termination_by after.length

theorem agrees_of_unmade (spared : ∀ tag ∈ Tag.scan fragment, tag.Spared fragment)
    (unmade : Unmade fragment) : Agrees fragment := by
  have start : Cut fragment [] fragment := by
    refine ⟨rfl, rfl, ?_⟩
    intro tag _ crossed
    exact Nat.not_lt_zero _ crossed.1
  intro before char after fragmentEq
  rw [any_markup, hides]
  cases outside : Comment.pattern.takes fragment (Text.byteLength before) with
  | true => rfl
  | false =>
      rw [Bool.false_or, Bool.false_or]
      exact start.agreesFrom spared unmade before char after fragmentEq outside

theorem strip_of_uncommented (free : Comment.spans fragment = []) :
    Comment.strip fragment = fragment := by
  rw [Comment.strip, Comment.bracketed.erase_eq_without,
    show Comment.pattern.spans fragment = [] from free]
  exact Text.keepUnless_of_none fragment

theorem agrees_of_uncommented (free : Comment.spans fragment = []) : Agrees fragment := by
  have outside : ∀ offset, Comment.pattern.takes fragment offset = false := by
    intro offset
    rw [Pattern.takes, show Comment.pattern.spans fragment = [] from free, List.any_nil]
  have scanned : ∀ offset, Tag.scans fragment offset = TagText.pattern.takes fragment offset := by
    intro offset
    have all : (TagText.pattern.findAll fragment).filter (fun found =>
        !Comment.covers (Comment.spans fragment) found.span.start) =
          TagText.pattern.findAll fragment := by
      rw [List.filter_eq_self, free]
      intro found _
      rfl
    rw [Tag.scans, Tag.scan_eq_filter, all, List.any_map, Pattern.takes, Pattern.spans,
      List.any_map]
    rfl
  intro before char after fragmentEq
  have beforeFree : Comment.spans before = [] := by
    have seam : Comment.pattern.Seam before (char :: after) :=
      Comment.bracketed.seam_of_outside (fragmentEq ▸ outside _)
    have parts := Comment.spans_append seam
    rw [← fragmentEq, free] at parts
    exact (List.append_eq_nil_iff.mp parts.symm).1
  rw [any_markup, scanned, hides, strip_of_uncommented free, strip_of_uncommented beforeFree]

/-- Where the visible text leaves out just the characters that the scanner takes for
markup, it is the fragment without its comments and scanned tags.  When the comments spare
the scanned tags, this is so if and only if no tag is made by taking comments out. -/
theorem visible_agrees_iff (fragment : List Char) :
    (Agrees fragment →
        visible fragment = Text.trim (Text.without (markup fragment) fragment)) ∧
      ((∀ tag ∈ Tag.scan fragment, tag.Spared fragment) →
        (Agrees fragment ↔ Unmade fragment)) :=
  ⟨Agrees.visible, fun spared => ⟨Agrees.unmade, agrees_of_unmade spared⟩⟩

def commentedValue : List Char :=
  "<!-- <i> --> <a title='<!-- x -->'>b</a>".toList

theorem visible_agrees_on_commentedValue :
    (∀ tag ∈ Tag.scan commentedValue, tag.Spared commentedValue) ∧ Agrees commentedValue ∧
      visible commentedValue =
        Text.trim (Text.without (markup commentedValue) commentedValue) ∧
      visible commentedValue = ['b'] := by
  have spared : ∀ tag ∈ Tag.scan commentedValue, tag.Spared commentedValue := by decide +kernel
  have unmade : Unmade commentedValue := by decide +kernel
  obtain ⟨shows, agrees_iff⟩ := visible_agrees_iff commentedValue
  have agrees : Agrees commentedValue := (agrees_iff spared).mpr unmade
  exact ⟨spared, agrees, shows agrees, by decide +kernel⟩

def madeTag : List Char :=
  "<b<!-- x -->>".toList

def tornTag : List Char :=
  "<a title=\"<!--\">x-->y".toList

/-- The made tag is left out of the visible text, but no tag is scanned there; of the torn
tag a part is seen, although it is scanned. -/
theorem visible_differs_around_comments :
    (visible madeTag = [] ∧
        Text.trim (Text.without (markup madeTag) madeTag) = "<b>".toList) ∧
      (visible tornTag = "<a title=\"y".toList ∧
        Text.trim (Text.without (markup tornTag) tornTag) = "y".toList) ∧
      ¬ ∀ fragment, visible fragment = Text.trim (Text.without (markup fragment) fragment) := by
  have made : visible madeTag = [] ∧
      Text.trim (Text.without (markup madeTag) madeTag) = "<b>".toList := by decide +kernel
  refine ⟨made, by decide +kernel, ?_⟩
  intro always
  have same := always madeTag
  rw [made.1, made.2] at same
  cases same

end Content

end PageCheck
