import PageCheck.Proofs.Acceptance
import PageCheck.Proofs.LiveTags
import PageCheck.Proofs.VisibleText

/-! The language of the doctype rule.  Declarations are looked for in the whole source and
those that begin in a comment are left out; what stands before the one that is found is then
judged by itself, its comments found afresh.  The two views agree, because a declaration that
begins in a comment ends in it: a page is accepted just when it is white space and comments,
a declaration, and anything behind it. -/

set_option autoImplicit false

namespace PageCheck

open ValidatorChain (Accepts)

/-! ### Declarations -/

namespace Doctype

/-- A declaration as it is written: the keyword in either case, the end of the word, and
all up to the first closing bracket. -/
inductive Declaration : List Char → Prop where
  | intro {head body : List Char} (keyed : Text.lower head = keyword)
      (ends : startsWord (body ++ ['>']) = false) (unclosed : '>' ∉ body) :
      Declaration (head ++ (body ++ ['>']))

def BeginsAt (text : List Char) (offset : Nat) : Prop :=
  ∃ before written after, text = before ++ (written ++ after) ∧
    Text.byteLength before = offset ∧ Declaration written

def Declares (text : List Char) : Prop :=
  ∃ offset, BeginsAt text offset ∧ Comment.covers (Comment.spans text) offset = false

theorem Declaration.pattern_append {written : List Char} (declares : Declaration written)
    (rest : List Char) : pattern (written ++ rest) = some ⟨(), written⟩ := by
  cases declares with
  | @intro head body keyed ends unclosed =>
      have read := pattern_declaration keyed unclosed ends rest
      simpa using read

theorem Declaration.of_pattern {text : List Char} {reading : Reading Unit}
    (read : pattern text = some reading) : Declaration reading.text := by
  obtain ⟨head, body, rest, keyed, unclosed, ends, rfl, -⟩ := pattern_eq_some read
  exact .intro keyed ends unclosed

theorem Declaration.opens {written : List Char} (declares : Declaration written) :
    ∃ tail, written = '<' :: tail := by
  obtain ⟨body, rest, shape, -⟩ := bracketed.bracketed (declares.pattern_append [])
  exact ⟨body ++ ['>'], shape⟩

theorem Declaration.uncommented {written : List Char} (declares : Declaration written)
    (rest : List Char) : Comment.pattern (written ++ rest) = none := by
  cases read : Comment.pattern (written ++ rest) with
  | none => rfl
  | some reading =>
      obtain ⟨inner, behind, -, commentText, textEq⟩ := Comment.pattern_eq_some read
      cases declares with
      | @intro head body keyed ends unclosed =>
          have third := congrArg (fun text => (Text.lower text)[2]?) textEq
          rw [commentText] at third
          simp only [Text.lower, List.append_assoc, List.map_append] at keyed third
          rw [keyed] at third
          revert third
          simp [keyword, Text.lowerChar]

private theorem not_mem_of_keyed {head : List Char} (keyed : Text.lower head = keyword) :
    '>' ∉ head := by
  intro member
  have lowered : Text.lowerChar '>' ∈ Text.lower head := List.mem_map_of_mem member
  rw [keyed] at lowered
  revert lowered
  decide

theorem Declaration.ends_at_bracket {written front back : List Char}
    (declares : Declaration written) (shape : written = front ++ '>' :: back) : back = [] := by
  cases declares with
  | @intro head body keyed ends unclosed =>
      have free : '>' ∉ head ++ body := by
        rw [List.mem_append, not_or]
        exact ⟨not_mem_of_keyed keyed, unclosed⟩
      rcases List.eq_nil_or_concat back with rfl | ⟨tail, last, rfl⟩
      · rfl
      · have same : (head ++ body) ++ ['>'] = (front ++ '>' :: tail) ++ [last] := by
          rw [List.append_assoc, shape]
          simp
        exact absurd (by rw [(List.append_inj' same rfl).1]; simp) free

/-- A declaration that begins in a comment ends in it: the bracket that ends the comment
would stand in the declaration and not end it. -/
theorem stop_le_of_covered {text : List Char} {span comment : Span}
    (member : span ∈ pattern.spans text) (present : comment ∈ Comment.spans text)
    (first : comment.start ≤ span.start) (inside : span.start < comment.stop) :
    span.stop ≤ comment.stop := by
  obtain ⟨found, foundMember, rfl⟩ := List.mem_map.mp member
  obtain ⟨left, reading, right, textEq, read, -, spanEq⟩ := bracketed.sound.found foundMember
  rw [spanEq] at first inside ⊢
  apply Nat.le_of_not_lt
  intro passes
  obtain ⟨lead, front, behind, -, readingEq, partly⟩ :=
    Comment.exists_bracket_of_crossing present textEq first inside passes
  exact partly ((Declaration.of_pattern read).ends_at_bracket readingEq)

/-- Where a declaration begins outside the comments, one has been found that begins there
or before, and outside the comments as well. -/
theorem BeginsAt.exists_found {text : List Char} {offset : Nat} (begins : BeginsAt text offset)
    (live : Comment.covers (Comment.spans text) offset = false) :
    ∃ span ∈ pattern.spans text, span.start ≤ offset ∧
      Comment.covers (Comment.spans text) span.start = false := by
  obtain ⟨before, written, after, rfl, rfl, declares⟩ := begins
  have reads : (pattern (written ++ after)).isSome = true := by
    rw [declares.pattern_append]
    rfl
  obtain ⟨found, member, contains⟩ := bracketed.sound.exists_covering before reads
  have listed : found.span ∈ pattern.spans (before ++ (written ++ after)) :=
    List.mem_map.mpr ⟨found, member, rfl⟩
  rw [Span.contains_iff] at contains
  refine ⟨found.span, listed, contains.1, ?_⟩
  rw [Bool.eq_false_iff]
  intro covered
  obtain ⟨comment, present, first, inside⟩ := Comment.covers_eq_true.mp covered
  have within := stop_le_of_covered listed present first inside
  have stillCovered := Comment.covers_eq_true.mpr
    ⟨comment, present, Nat.le_trans first contains.1, Nat.lt_of_lt_of_le contains.2 within⟩
  rw [live] at stillCovered
  cases stillCovered

/-- What is found is the first declaration that begins outside the comments. -/
theorem find?_eq_some {text : List Char} {span : Span} (found : find? text = some span) :
    ∃ before written after, text = before ++ (written ++ after) ∧ Declaration written ∧
      span = ⟨Text.byteLength before, Text.byteLength before + Text.byteLength written⟩ ∧
      Comment.covers (Comment.spans text) (Text.byteLength before) = false ∧
      ∀ offset, offset < Text.byteLength before → BeginsAt text offset →
        Comment.covers (Comment.spans text) offset = true := by
  obtain ⟨live, passed, others, split, covered⟩ := List.find?_eq_some_iff_append.mp found
  have listed : span ∈ pattern.spans text := by
    rw [split]
    exact List.mem_append_right _ List.mem_cons_self
  obtain ⟨hit, member, rfl⟩ := List.mem_map.mp listed
  obtain ⟨before, reading, after, textEq, read, -, spanEq⟩ := bracketed.sound.found member
  rw [spanEq] at live
  refine ⟨before, reading.text, after, textEq, .of_pattern read, spanEq, by simpa using live, ?_⟩
  intro offset earlier begins
  apply Classical.byContradiction
  intro uncovered
  obtain ⟨other, otherListed, starts, otherLive⟩ :=
    begins.exists_found (Bool.eq_false_iff.mpr uncovered)
  have ordered := (bracketed.sound.ordered text).1
  rw [split] at otherListed ordered
  rcases List.mem_append.mp otherListed with before' | later
  · have hidden := covered other before'
    rw [otherLive] at hidden
    cases hidden
  · rcases List.mem_cons.mp later with rfl | behind
    · rw [spanEq] at starts
      simp only at starts
      omega
    · have follows := (List.pairwise_cons.mp (List.pairwise_append.mp ordered).2.1).1 other behind
      rw [spanEq] at follows
      simp only at follows
      omega

theorem find?_eq_none_iff {text : List Char} :
    find? text = none ↔ ¬ Declares text := by
  constructor
  · rintro missing ⟨offset, begins, live⟩
    obtain ⟨span, listed, -, outside⟩ := begins.exists_found live
    have hidden := List.find?_eq_none.mp missing span listed
    rw [outside] at hidden
    exact hidden rfl
  · intro absent
    cases found : find? text with
    | none => rfl
    | some span =>
        obtain ⟨before, written, after, textEq, declares, -, live, -⟩ := find?_eq_some found
        exact absurd ⟨_, ⟨before, written, after, textEq, rfl, declares⟩, live⟩ absent

end Doctype

/-! ### White space and comments -/

namespace Content

/-- White space and comments in any order; a comment ends with the first `-->` in it. -/
inductive Blank : List Char → Prop where
  | empty : Blank []
  | space {char : Char} {rest : List Char} (blank : Text.isBlank char = true)
      (others : Blank rest) : Blank (char :: rest)
  | comment {body rest : List Char} (unclosed : ¬ Comment.close <:+: body)
      (others : Blank rest) :
      Blank ('<' :: '!' :: '-' :: '-' :: (body ++ (Comment.close ++ rest)))

private theorem unread_space {char : Char} (blank : Text.isBlank char = true)
    (rest : List Char) : Comment.pattern (char :: rest) = none :=
  Comment.bracketed.unread_of_ne (Text.ne_of_isBlank blank Text.isBlank_bracket) rest

private theorem read_comment {body : List Char} (unclosed : ¬ Comment.close <:+: body)
    (rest : List Char) :
    ∃ reading : Reading Unit, Comment.pattern (reading.text ++ rest) = some reading ∧
      '<' :: '!' :: '-' :: '-' :: (body ++ (Comment.close ++ rest)) = reading.text ++ rest := by
  have read := Comment.pattern_comment unclosed rest
  exact ⟨⟨(), '<' :: '!' :: '-' :: '-' :: (body ++ Comment.close)⟩, by simpa using read, by simp⟩

/-- What stands before a blank stretch has nothing to do with the comments behind it. -/
theorem Blank.seam {text : List Char} (blank : Blank text) (rest : List Char) :
    Comment.pattern.Seam text rest := by
  induction blank with
  | empty => rfl
  | @space char others space _ ih =>
      have plain := Comment.bracketed.seam_plain (unread_space space (others ++ rest))
      exact (Comment.bracketed.seam_of_left plain ih).1
  | @comment body others unclosed _ ih =>
      obtain ⟨reading, read, whole⟩ := read_comment unclosed others
      have hit := Comment.bracketed.seam_hit (Comment.bracketed.settled (others ++ rest) read)
      rw [whole]
      exact (Comment.bracketed.seam_of_left hit ih).1

/-- What is blank without its comments is white space and comments. -/
theorem isBlank_iff {text : List Char} : isBlank text = true ↔ Blank text := by
  unfold isBlank Comment.strip
  constructor
  · intro blank
    have division := Comment.bracketed.sound.divides text
    generalize Comment.pattern.pieces text = pieces at division
    induction division with
    | nil => exact .empty
    | @plain char rest pieces unread _ ih =>
        rw [Pattern.erase_plain unread, Text.allBlank, List.all_cons, Bool.and_eq_true] at blank
        exact .space blank.1 (ih blank.2)
    | @hit reading rest pieces read _ ih =>
        obtain ⟨body, _, unclosed, shape, -⟩ := Comment.pattern_eq_some read
        rw [Pattern.erase_hit (Comment.bracketed.sound.nonempty read) read] at blank
        rw [shape]
        have others := Blank.comment unclosed (ih blank)
        simpa using others
  · intro blank
    induction blank with
    | empty => rfl
    | @space char others space _ ih =>
        rw [Pattern.erase_plain (unread_space space others), Text.allBlank, List.all_cons, space]
        exact ih
    | @comment body others unclosed _ ih =>
        obtain ⟨reading, read, whole⟩ := read_comment unclosed others
        rw [whole, Pattern.erase_hit (Comment.bracketed.sound.nonempty read) read]
        exact ih

/-- An opening bracket in a blank stretch stands in a comment. -/
theorem Blank.covers_bracket {text before after : List Char} (blank : Blank text)
    (shape : text = before ++ '<' :: after) :
    Comment.covers (Comment.spans text) (Text.byteLength before) = true := by
  induction blank generalizing before with
  | empty => simp at shape
  | @space char others space _ ih =>
      cases before with
      | nil =>
          obtain ⟨rfl, -⟩ := List.cons.inj shape
          cases space
      | cons first before =>
          obtain ⟨rfl, rest⟩ := List.cons.inj shape
          have seam := Comment.bracketed.seam_plain (unread_space space others)
          have moved := Comment.covers_right seam (Text.byteLength before)
          rw [ih rest] at moved
          simpa [Text.byteLength] using moved
  | @comment body others unclosed _ ih =>
      obtain ⟨reading, read, whole⟩ := read_comment unclosed others
      rw [whole] at shape ⊢
      by_cases inside : Text.byteLength before < Text.byteLength reading.text
      · exact Comment.bracketed.sound.takes_hit read inside
      · obtain ⟨middle, rfl, rest⟩ :=
          Text.append_of_byteLength_le shape (Nat.not_lt.mp inside)
        rw [Text.byteLength_append, Comment.covers_right (Comment.bracketed.seam_hit read)]
        exact ih rest

end Content

/-! ### The rule -/

namespace Rules

open Doctype (Declaration BeginsAt)

variable {document : Document}

theorem find?_of_blank {margin declaration : List Char} (blank : Content.Blank margin)
    (declares : Declaration declaration) (rest : List Char) :
    ∃ stop, Doctype.find? (margin ++ (declaration ++ rest)) =
      some ⟨Text.byteLength margin, stop⟩ := by
  have seam := blank.seam (declaration ++ rest)
  have live : Comment.covers (Comment.spans (margin ++ (declaration ++ rest)))
      (Text.byteLength margin) = false := by
    have moved := Comment.covers_right seam 0
    rw [Comment.covers_zero, declares.uncommented rest] at moved
    exact moved
  have begins : BeginsAt (margin ++ (declaration ++ rest)) (Text.byteLength margin) :=
    ⟨margin, declaration, rest, rfl, rfl, declares⟩
  cases found : Doctype.find? (margin ++ (declaration ++ rest)) with
  | none => exact absurd ⟨_, begins, live⟩ (Doctype.find?_eq_none_iff.mp found)
  | some span =>
      obtain ⟨before, written, after, textEq, opening, rfl, outside, first⟩ :=
        Doctype.find?_eq_some found
      suffices same : Text.byteLength before = Text.byteLength margin from ⟨_, by rw [same]⟩
      rcases Nat.lt_trichotomy (Text.byteLength before) (Text.byteLength margin) with
        earlier | same | later
      · -- before the end of the margin brackets stand in comments only
        obtain ⟨middle, marginEq, tailEq⟩ :=
          Text.append_of_byteLength_le textEq.symm (Nat.le_of_lt earlier)
        obtain ⟨tail, rfl⟩ := opening.opens
        cases middle with
        | nil =>
            rw [marginEq, List.append_nil] at earlier
            omega
        | cons char middle =>
            obtain ⟨rfl, -⟩ := List.cons.inj tailEq
            have hidden := blank.covers_bracket marginEq
            rw [← Comment.covers_left seam earlier, outside] at hidden
            cases hidden
      · exact same
      · have hidden := first _ later begins
        rw [live] at hidden
        cases hidden

def misplaced : Finding :=
  .structural "!DOCTYPE" "the declaration must be the first content of the document"

theorem doctype_of_missing (missing : Doctype.find? document.source = none) :
    doctype document = some (.failed (.missing "!DOCTYPE")) := by
  unfold doctype
  rw [missing]

/-- The text before the declaration decides. -/
theorem doctype_of_found {before rest : List Char} {stop : Nat}
    (split : document.source = before ++ rest)
    (found : Doctype.find? document.source = some ⟨Text.byteLength before, stop⟩) :
    doctype document = some (if Content.isBlank before then .clean else .failed misplaced) := by
  have cut : document.slice? ⟨0, Text.byteLength before⟩ = some before := by
    have slice := Text.slice?_append [] before rest
    simp only [Text.byteLength, Nat.zero_add, List.nil_append, ← split] at slice
    exact slice
  unfold doctype
  simp only [found, cut, Option.bind_eq_bind, Option.bind_some]
  split <;> rfl

theorem doctype_cases (document : Document) :
    (¬ Doctype.Declares document.source ∧
      doctype document = some (.failed (.missing "!DOCTYPE"))) ∨
    ∃ before declaration rest, document.source = before ++ (declaration ++ rest) ∧
      Declaration declaration ∧ Doctype.Declares document.source ∧
      doctype document =
        some (if Content.isBlank before then .clean else .failed misplaced) := by
  cases found : Doctype.find? document.source with
  | none => exact Or.inl ⟨Doctype.find?_eq_none_iff.mp found, doctype_of_missing found⟩
  | some span =>
      obtain ⟨before, declaration, rest, split, declares, rfl, live, -⟩ :=
        Doctype.find?_eq_some found
      refine Or.inr ⟨before, declaration, rest, split, declares, ?_, doctype_of_found split found⟩
      exact ⟨_, ⟨before, declaration, rest, split, rfl, declares⟩, live⟩

theorem doctype_accepts_iff :
    Accepts doctype document ↔ ∃ margin declaration rest,
      document.source = margin ++ (declaration ++ rest) ∧ Content.Blank margin ∧
        Declaration declaration := by
  constructor
  · intro accepts
    rcases doctype_cases document with
      ⟨-, ran⟩ | ⟨before, declaration, rest, split, declares, -, ran⟩
    · exact absurd accepts (ValidatorChain.not_accepts_of_failed ran)
    · by_cases blank : Content.isBlank before = true
      · exact ⟨before, declaration, rest, split, Content.isBlank_iff.mp blank, declares⟩
      · rw [if_neg blank] at ran
        exact absurd accepts (ValidatorChain.not_accepts_of_failed ran)
  · rintro ⟨margin, declaration, rest, split, blank, declares⟩
    obtain ⟨stop, found⟩ := find?_of_blank blank declares rest
    rw [← split] at found
    have ran := doctype_of_found split found
    rw [if_pos (Content.isBlank_iff.mpr blank)] at ran
    exact ⟨_, ran, rfl⟩

theorem doctype_missing_iff :
    doctype document = some (.failed (.missing "!DOCTYPE")) ↔
      ¬ Doctype.Declares document.source := by
  rcases doctype_cases document with ⟨absent, ran⟩ | ⟨before, -, -, -, -, declares, ran⟩
  · exact ⟨fun _ => absent, fun _ => ran⟩
  · refine ⟨fun missing => ?_, fun absent => absurd declares absent⟩
    rw [ran] at missing
    split at missing <;> cases missing

theorem doctype_misplaced_iff :
    doctype document = some (.failed misplaced) ↔
      ¬ Accepts doctype document ∧ Doctype.Declares document.source := by
  rcases doctype_cases document with ⟨absent, ran⟩ | ⟨before, -, -, -, -, declares, ran⟩
  · refine ⟨fun failed => ?_, fun ⟨_, declares⟩ => absurd declares absent⟩
    rw [ran] at failed
    cases failed
  · by_cases blank : Content.isBlank before = true
    · rw [if_pos blank] at ran
      refine ⟨fun failed => ?_, fun ⟨rejected, _⟩ => absurd ⟨_, ran, rfl⟩ rejected⟩
      rw [ran] at failed
      cases failed
    · rw [if_neg blank] at ran
      exact ⟨fun _ => ⟨ValidatorChain.not_accepts_of_failed ran, declares⟩, fun _ => ran⟩

/-- A page is accepted when nothing but white space and comments stands before its
declaration.  Otherwise the finding tells whether there is a declaration outside the comments
at all. -/
theorem doctype_language (document : Document) :
    (Accepts doctype document ↔ ∃ margin declaration rest,
      document.source = margin ++ (declaration ++ rest) ∧ Content.Blank margin ∧
        Declaration declaration) ∧
    (doctype document = some (.failed (.missing "!DOCTYPE")) ↔
      ¬ Doctype.Declares document.source) ∧
    (doctype document = some (.failed (.structural "!DOCTYPE"
        "the declaration must be the first content of the document")) ↔
      ¬ Accepts doctype document ∧ Doctype.Declares document.source) :=
  ⟨doctype_accepts_iff, doctype_missing_iff, doctype_misplaced_iff⟩

example :
    doctype (.ofText " <!-- <!doctype a> --><!DocType b <!-- > -->".toList) = some .clean := by
  decide +kernel

end Rules

end PageCheck
