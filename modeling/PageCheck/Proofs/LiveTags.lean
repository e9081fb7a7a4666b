import PageCheck.Proofs.Excerpts

/-! Live tags: those that begin outside all comments.  The pass over the tags knows
nothing of comments, so a tag that it reads inside a comment may take up text behind
the comment, and what begins there is neither reported nor part of a reported tag.
This is the only way for a live tag to be lost, and it takes a quotation mark in the
comment. -/

set_option autoImplicit false

namespace PageCheck

theorem Text.exists_shared {before first after left second right : List Char}
    (same : before ++ (first ++ after) = left ++ (second ++ right))
    (starts : byteLength before ≤ byteLength left)
    (inside : byteLength left < byteLength before + byteLength first)
    (passes : byteLength before + byteLength first < byteLength left + byteLength second) :
    ∃ lead shared behind, first = lead ++ shared ∧ second = shared ++ behind ∧ shared ≠ [] ∧
      behind ≠ [] := by
  obtain ⟨lead, rfl, firstRest⟩ := append_of_byteLength_le same starts
  rw [byteLength_append] at inside passes
  obtain ⟨shared, rfl, secondRest⟩ := append_of_byteLength_le firstRest.symm (by omega)
  rw [byteLength_append] at inside passes
  obtain ⟨behind, rfl, -⟩ := append_of_byteLength_le secondRest.symm (by omega)
  refine ⟨lead, shared, behind, rfl, rfl, ?_, ?_⟩ <;> rintro rfl
  · exact absurd inside (by simp [byteLength])
  · exact absurd passes (by simp [Nat.add_assoc])

/-- What begins in a comment and ends behind it holds the bracket that ends the comment. -/
theorem Comment.exists_bracket_of_crossing {text left part right : List Char} {comment : Span}
    (present : comment ∈ spans text) (textEq : text = left ++ (part ++ right))
    (first : comment.start ≤ Text.byteLength left) (inside : Text.byteLength left < comment.stop)
    (passes : comment.stop < Text.byteLength left + Text.byteLength part) :
    ∃ lead front behind, Text.slice? text comment = some (lead ++ (front ++ ['>'])) ∧
      part = front ++ '>' :: behind ∧ behind ≠ [] := by
  obtain ⟨found, member, rfl⟩ := List.mem_map.mp present
  obtain ⟨before, reading, after, sameText, read, -, spanEq⟩ := bracketed.sound.found member
  obtain ⟨body, -, written, -⟩ := bracketed.bracketed read
  rw [spanEq] at first inside passes ⊢
  obtain ⟨lead, shared, behind, readingEq, partEq, nonempty, partly⟩ :=
    Text.exists_shared (sameText.symm.trans textEq) first inside passes
  obtain ⟨front, last, rfl⟩ := (List.eq_nil_or_concat shared).resolve_left nonempty
  rw [List.concat_eq_append] at readingEq partEq
  have closes : last = '>' := by
    have ends : (lead ++ front) ++ [last] = ('<' :: body) ++ ['>'] := by
      rw [List.append_assoc, ← readingEq, written]
      rfl
    exact (List.cons.inj (List.append_inj' ends rfl).2).1
  subst closes
  refine ⟨lead, front, behind, ?_, partEq.trans (List.append_assoc _ _ _), partly⟩
  rw [sameText, ← readingEq]
  exact Text.slice?_append before reading.text after

/-! ### What a pass leaves out -/

namespace Pattern

variable {α : Type}

theorem Sound.unread_nil {pattern : Pattern α} (sound : pattern.Sound) : pattern [] = none := by
  cases read : pattern [] with
  | none => rfl
  | some reading =>
      obtain ⟨rest, shape⟩ := sound.begins read
      exact absurd (List.append_eq_nil_iff.mp shape.symm).1 (sound.nonempty read)

/-- Where the pattern reads, the pass has found something: a reading that begins there,
or an earlier one that takes up the place. -/
theorem Divides.exists_covering {pattern : Pattern α} (sound : pattern.Sound) {text : List Char}
    {pieces : List (Piece α)} (division : pattern.Divides text pieces) (offset : Nat)
    {before after : List Char} (textEq : text = before ++ after)
    (reads : (pattern after).isSome = true) :
    ∃ found ∈ locate offset pieces,
      found.span.contains (offset + Text.byteLength before) = true := by
  induction division generalizing offset before with
  | nil =>
      obtain ⟨rfl, rfl⟩ := List.append_eq_nil_iff.mp textEq.symm
      rw [sound.unread_nil] at reads
      cases reads
  | @plain char rest pieces unread tail ih =>
      cases before with
      | nil =>
          rw [List.nil_append] at textEq
          rw [← textEq, unread] at reads
          cases reads
      | cons first before =>
          rw [List.cons_append, List.cons.injEq] at textEq
          obtain ⟨rfl, restEq⟩ := textEq
          obtain ⟨found, member, covers⟩ := ih (offset + char.utf8Size) restEq
          rw [Nat.add_assoc] at covers
          exact ⟨found, member, covers⟩
  | @hit reading rest pieces read tail ih =>
      by_cases inside : Text.byteLength before < Text.byteLength reading.text
      · refine ⟨_, List.mem_cons_self, Span.contains_iff.mpr ?_⟩
        exact ⟨Nat.le_add_right _ _, Nat.add_lt_add_left inside _⟩
      · obtain ⟨middle, rfl, restEq⟩ :=
          Text.append_of_byteLength_le textEq (Nat.not_lt.mp inside)
        obtain ⟨found, member, covers⟩ :=
          ih (offset + Text.byteLength reading.text) restEq
        rw [Nat.add_assoc, ← Text.byteLength_append] at covers
        exact ⟨found, List.mem_cons_of_mem _ member, covers⟩

theorem Sound.exists_covering {pattern : Pattern α} (sound : pattern.Sound) (before : List Char)
    {after : List Char} (reads : (pattern after).isSome = true) :
    ∃ found ∈ pattern.findAll (before ++ after),
      found.span.contains (Text.byteLength before) = true := by
  have covering := (sound.divides (before ++ after)).exists_covering sound 0 rfl reads
  rwa [Nat.zero_add] at covering

end Pattern

/-! ### Brackets in quotation marks -/

namespace TagText

def Quoted (text : List Char) : Prop :=
  '\x22' ∈ text ∨ '\x27' ∈ text

theorem Quoted.mono {text longer : List Char} (quoted : Quoted text)
    (within : ∀ char ∈ text, char ∈ longer) : Quoted longer :=
  quoted.imp (within _) (within _)

private theorem quoted_of_untilBracket? {text body front back : List Char}
    (read : untilBracket? none text = some body) (shape : body = front ++ '>' :: back) :
    Quoted front := by
  induction text generalizing body front with
  | nil => cases read
  | cons char text ih =>
      rw [untilBracket?] at read
      by_cases bracket : char = '>'
      · rw [if_pos bracket, Option.some.injEq] at read
        rw [← read] at shape
        exact absurd shape (by simp)
      · have differs : ∀ tail, body = char :: tail → ∃ front', front = char :: front' ∧
            tail = front' ++ '>' :: back := by
          intro tail bodyEq
          rw [shape] at bodyEq
          cases front with
          | nil => exact absurd (List.cons.inj bodyEq).1.symm bracket
          | cons first front' =>
              obtain ⟨rfl, rest⟩ := List.cons.inj bodyEq
              exact ⟨front', rfl, rest.symm⟩
        by_cases quoting : char = '\x22' ∨ char = '\x27'
        · rw [if_neg bracket, if_pos quoting] at read
          obtain ⟨tail, -, bodyEq⟩ := Option.map_eq_some_iff.mp read
          obtain ⟨front', rfl, -⟩ := differs tail bodyEq.symm
          rcases quoting with rfl | rfl
          · exact Or.inl List.mem_cons_self
          · exact Or.inr List.mem_cons_self
        · rw [if_neg bracket, if_neg quoting] at read
          obtain ⟨tail, tailRead, bodyEq⟩ := Option.map_eq_some_iff.mp read
          obtain ⟨front', rfl, tailEq⟩ := differs tail bodyEq.symm
          exact (ih tailRead tailEq).mono fun _ member => List.mem_cons_of_mem _ member

private theorem Proper.quoted_attributes {tag : TagText} (proper : tag.Proper)
    {front back : List Char} (shape : tag.attributes = front ++ '>' :: back) : Quoted front := by
  have read := proper.attributed []
  rw [shape] at read
  cases front with
  | nil => cases read
  | cons char front =>
      by_cases blank : Text.isBlank char = true
      · rw [List.cons_append, List.cons_append, attributes?_cons_of_isBlank blank] at read
        obtain ⟨body, bodyRead, bodyEq⟩ := Option.map_eq_some_iff.mp read
        exact (quoted_of_untilBracket? bodyRead (List.cons.inj bodyEq).2).mono
          fun _ member => List.mem_cons_of_mem _ member
      · -- without white space before it a bracket ends the tag
        rw [List.cons_append, List.cons_append] at read
        unfold attributes? at read
        split at read <;> simp_all

/-- A closing bracket that does not end its tag stands behind a quotation mark. -/
theorem Proper.quoted {tag : TagText} (proper : tag.Proper) {front back : List Char}
    (shape : tag.text = front ++ '>' :: back) (inner : back ≠ []) : Quoted front := by
  let lead := '<' :: ((if tag.closing then ['/'] else []) ++ tag.name)
  have bare : '>' ∉ lead := by
    obtain ⟨first, more, nameEq, letter, chars⟩ := proper.named
    have named : '>' ∉ tag.name := by
      intro member
      rw [nameEq] at member
      rcases List.mem_cons.mp member with rfl | later
      · cases letter
      · cases chars _ later
    cases closes : tag.closing <;> simp [lead, closes, named]
  have whole : lead ++ (tag.attributes ++ ['>']) = front ++ '>' :: back := by
    rw [← shape, ← List.append_nil tag.text, text_append]
    simp [lead]
  obtain ⟨tail, last, rfl⟩ := (List.eq_nil_or_concat back).resolve_left inner
  rcases List.append_eq_append_iff.mp whole with ⟨stretch, rfl, rest⟩ | ⟨stretch, leadEq, rest⟩
  · have parts : tag.attributes = stretch ++ '>' :: tail := by
      have ends : tag.attributes ++ ['>'] = (stretch ++ '>' :: tail) ++ [last] := by
        rw [rest]
        simp
      exact (List.append_inj' ends rfl).1
    exact (proper.quoted_attributes parts).mono fun _ member => List.mem_append_right _ member
  · cases stretch with
    | nil =>
        have parts : tag.attributes = [] ++ '>' :: tail := by
          have ends : tag.attributes ++ ['>'] = ('>' :: tail) ++ [last] := by
            simpa using rest.symm
          exact (List.append_inj' ends rfl).1
        exact (proper.quoted_attributes parts).mono fun _ member => by cases member
    | cons char stretch =>
        obtain ⟨rfl, -⟩ := List.cons.inj rest
        exact absurd (by rw [leadEq]; simp) bare

def ReadsAt (text : List Char) (offset : Nat) : Prop :=
  ∃ before after, text = before ++ after ∧ Text.byteLength before = offset ∧
    (pattern after).isSome = true

end TagText

/-! ### Tags behind comments -/

namespace Tag

/-- A tag that is read inside a comment takes up the offset as well. -/
def Swallowed (text : List Char) (offset : Nat) : Prop :=
  ∃ found ∈ TagText.pattern.findAll text,
    Comment.covers (Comment.spans text) found.span.start = true ∧
      found.span.contains offset = true

theorem exists_kept_of_not_swallowed {text : List Char} {offset : Nat}
    (reads : TagText.ReadsAt text offset) (free : ¬ Swallowed text offset) :
    ∃ tag ∈ scan text, tag.span.contains offset = true := by
  obtain ⟨before, after, rfl, rfl, read⟩ := reads
  obtain ⟨found, member, covering⟩ := TagText.bracketed.sound.exists_covering before read
  refine ⟨found.value.placed found.span, mem_scan.mpr ⟨found, member, ?_, rfl⟩, covering⟩
  rw [Bool.eq_false_iff]
  intro covered
  exact free ⟨found, member, covered, covering⟩

theorem not_swallowed_of_kept {text : List Char} {offset : Nat} {tag : Tag}
    (kept : tag ∈ scan text) (contained : tag.span.contains offset = true) :
    ¬ Swallowed text offset := by
  rintro ⟨found, member, covered, covering⟩
  obtain ⟨comment, present, inside⟩ := Comment.covers_eq_true.mp covered
  have apart := (TagText.bracketed.sound.ordered text).apart (span_mem_of_mem_scan kept)
    (List.mem_map.mpr ⟨found, member, rfl⟩)
  rw [Span.contains_iff] at contained covering
  rcases apart with same | before | behind
  · exact start_outside_comments kept comment present (same ▸ inside)
  · omega
  · omega

theorem quoted_of_crossing {text : List Char} {found : Found TagText} {comment : Span}
    (member : found ∈ TagText.pattern.findAll text) (present : comment ∈ Comment.spans text)
    (first : comment.start ≤ found.span.start) (inside : found.span.start < comment.stop)
    (passes : comment.stop < found.span.stop) :
    ∃ written, Text.slice? text comment = some written ∧ TagText.Quoted written := by
  obtain ⟨left, tag, right, tagEq, tagRead, -, tagSpan⟩ := TagText.bracketed.sound.found member
  obtain ⟨proper, shape, -⟩ := TagText.pattern_eq_some tagRead
  rw [tagSpan] at first inside passes
  obtain ⟨lead, front, behind, cut, tagText, partly⟩ :=
    Comment.exists_bracket_of_crossing present tagEq first inside passes
  refine ⟨_, cut, ?_⟩
  have quoted := proper.quoted (shape ▸ tagText) partly
  exact quoted.mono fun char member => by simp [member]

/-- A live tag is reported, or lies in a reported tag, unless a tag that begins in a
comment takes up its place; and then the comment holds a quotation mark. -/
theorem live_tag_kept_iff (text : List Char) (offset : Nat)
    (live : Comment.covers (Comment.spans text) offset = false)
    (reads : TagText.ReadsAt text offset) :
    ((∃ tag ∈ scan text, tag.span.contains offset = true) ↔ ¬ Swallowed text offset) ∧
      (Swallowed text offset → ∃ comment ∈ Comment.spans text, comment.stop ≤ offset ∧
        ∃ written, Text.slice? text comment = some written ∧ TagText.Quoted written) := by
  refine ⟨⟨fun ⟨tag, kept, contained⟩ => not_swallowed_of_kept kept contained,
    exists_kept_of_not_swallowed reads⟩, ?_⟩
  rintro ⟨found, member, covered, covering⟩
  obtain ⟨comment, present, first, inside⟩ := Comment.covers_eq_true.mp covered
  rw [Span.contains_iff] at covering
  have behind : comment.stop ≤ offset := by
    apply Classical.byContradiction
    intro within
    have covers := Comment.covers_eq_true.mpr ⟨comment, present, by omega, Nat.not_le.mp within⟩
    rw [live] at covers
    cases covers
  exact ⟨comment, present, behind, quoted_of_crossing member present first inside (by omega)⟩

def commented : List Char :=
  "<!-- <b title='x'> --><p title=\">\">x".toList

theorem live_tag_kept_behind_comment :
    Comment.covers (Comment.spans commented) 22 = false ∧ TagText.ReadsAt commented 22 ∧
      ((∃ tag ∈ scan commented, tag.span.contains 22 = true) ↔ ¬ Swallowed commented 22) ∧
      (Swallowed commented 22 → ∃ comment ∈ Comment.spans commented, comment.stop ≤ 22 ∧
        ∃ written, Text.slice? commented comment = some written ∧ TagText.Quoted written) := by
  have live : Comment.covers (Comment.spans commented) 22 = false := by decide +kernel
  have reads : TagText.ReadsAt commented 22 :=
    ⟨commented.take 22, commented.drop 22, by decide +kernel, by decide +kernel,
      by decide +kernel⟩
  exact ⟨live, reads, live_tag_kept_iff commented 22 live reads⟩

def apostrophes : List Char :=
  "<!-- <a it's> --><p>isn't</p>".toList

/-- The paragraph begins outside the comment, but it is neither reported nor part of a
reported tag. -/
theorem live_tag_lost_behind_apostrophe :
    Comment.covers (Comment.spans apostrophes) 17 = false ∧ TagText.ReadsAt apostrophes 17 ∧
      ∀ tag ∈ scan apostrophes, tag.span.contains 17 = false :=
  ⟨by decide +kernel,
    ⟨apostrophes.take 17, apostrophes.drop 17, by decide +kernel, by decide +kernel,
      by decide +kernel⟩, by decide +kernel⟩

end Tag

end PageCheck
