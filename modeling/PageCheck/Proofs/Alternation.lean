import Mathlib.Data.List.Induction
import PageCheck.Proofs.MatchedElements
import PageCheck.Proofs.Partners
import PageCheck.Proofs.Skeleton
import PageCheck.Proofs.Totality

/-! Tags in turn.  The rule on balance first counts the opening and the closing tags of a
name, and then walks through them with a counter of the elements that are open.  What the
counter holds is the number of opening tags so far less that of closing tags, and the walk
stops at the first tag behind which this is neither none nor one.  So the rule finds no
fault just when the tags are those of elements in a row, and these are the elements that
pairing makes of them. -/

set_option autoImplicit false

namespace PageCheck

namespace Tag

/-! ### The running depth -/

/-- How many more elements the tags open than they close. -/
def depth (tags : List Tag) : Int :=
  tags.countP isOpening - tags.countP isClosing

/-- Behind the tags one element is open, or none. -/
def Level (tags : List Tag) : Prop :=
  depth tags = 0 ∨ depth tags = 1

/-- The tag is the first one behind which the depth is neither 0 nor 1. -/
def Departs (tags : List Tag) (tag : Tag) : Prop :=
  ∃ before after, tags = before ++ tag :: after ∧ (∀ part, part <+: before → Level part) ∧
    ¬ Level (before ++ [tag])

variable {tag : Tag}

theorem depth_eq_zero_iff {tags : List Tag} :
    depth tags = 0 ↔ tags.countP isOpening = tags.countP isClosing := by
  unfold depth
  omega

theorem depth_append (before after : List Tag) :
    depth (before ++ after) = depth before + depth after := by
  simp only [depth, List.countP_append, Int.natCast_add]
  omega

theorem Departs.exists_upTo {tags : List Tag} (departs : Departs tags tag) :
    ∃ before, before ++ [tag] <+: tags ∧ (∀ part, part <+: before → Level part) ∧
      ¬ Level (before ++ [tag]) := by
  obtain ⟨before, after, rfl, level, leaves⟩ := departs
  exact ⟨before, ⟨after, (List.append_cons _ _ _).symm⟩, level, leaves⟩

theorem Departs.unique {tags : List Tag} {other : Tag} (departs : Departs tags tag)
    (same : Departs tags other) : tag = other := by
  obtain ⟨before, within, level, leaves⟩ := departs.exists_upTo
  obtain ⟨front, alsoWithin, frontLevel, frontLeaves⟩ := same.exists_upTo
  rcases List.prefix_or_prefix_of_prefix within alsoWithin with shorter | longer
  · rcases List.prefix_concat_iff.mp shorter with equal | earlier
    · exact (List.cons.inj (List.append_inj_right' equal rfl)).1
    · exact absurd (frontLevel _ earlier) leaves
  · rcases List.prefix_concat_iff.mp longer with equal | earlier
    · exact (List.cons.inj (List.append_inj_right' equal.symm rfl)).1
    · exact absurd (level _ earlier) frontLeaves

theorem depth_nil : depth [] = 0 := rfl

theorem depth_opening (kind : tag.kind = .opening) (rest : List Tag) :
    depth (tag :: rest) = depth rest + 1 := by
  simp [depth, isOpening, isClosing, kind]
  omega

theorem depth_closing (kind : tag.kind = .closing) (rest : List Tag) :
    depth (tag :: rest) = depth rest - 1 := by
  simp [depth, isOpening, isClosing, kind]
  omega

theorem kind_of_isPaired (paired : tag.isPaired = true) :
    tag.kind = .opening ∨ tag.kind = .closing := by
  unfold isPaired at paired
  cases kind : tag.kind with
  | opening => exact .inl rfl
  | closing => exact .inr rfl
  | selfClosing => simp [kind] at paired

theorem length_eq_counts {tags : List Tag} (paired : ∀ tag ∈ tags, tag.isPaired = true) :
    tags.length = tags.countP isOpening + tags.countP isClosing := by
  have closings : tags.countP isClosing = tags.countP fun tag => decide ¬ tag.isOpening = true := by
    apply List.countP_congr
    intro tag member
    rcases kind_of_isPaired (paired tag member) with kind | kind <;>
      simp [isOpening, isClosing, kind]
  rw [closings]
  exact List.length_eq_countP_add_countP isOpening

/-- Tags that do not keep the level up to every place leave it somewhere first. -/
theorem exists_departs {tags : List Tag} (leaves : ¬ ∀ part, part <+: tags → Level part) :
    ∃ tag, Departs tags tag := by
  induction tags using List.reverseRecOn with
  | nil =>
      refine absurd ?_ leaves
      intro part shorter
      rw [List.prefix_nil.mp shorter]
      exact .inl rfl
  | append_singleton front last ih =>
      by_cases level : ∀ part, part <+: front → Level part
      · refine ⟨last, front, [], rfl, level, fun whole => leaves ?_⟩
        intro part shorter
        rcases List.prefix_concat_iff.mp shorter with rfl | within
        · exact whole
        · exact level part within
      · obtain ⟨tag, before, after, rfl, earlier, departs⟩ := ih level
        exact ⟨tag, before, after ++ [last], by simp, earlier, departs⟩

end Tag

namespace Rules

/-! ### The walk -/

section Walk

variable {name plural : String} {depth : Nat} {tag : Tag} {rest tags before : List Tag}
  {finding : Finding}

theorem turns_opening (kind : tag.kind = .opening) :
    turns name plural 0 (tag :: rest) = turns name plural 1 rest := by
  rw [turns, if_pos (Tag.isOpening_iff.mpr kind), if_pos rfl]

theorem turns_nested (kind : tag.kind = .opening) :
    turns name plural (depth + 1) (tag :: rest) =
      some (.structural name s!"{plural} must not be nested") := by
  rw [turns, if_pos (Tag.isOpening_iff.mpr kind), if_neg (Nat.succ_ne_zero depth)]

theorem turns_closing (kind : tag.kind = .closing) :
    turns name plural (depth + 1) (tag :: rest) = turns name plural depth rest := by
  rw [turns, if_neg (by simp [Tag.isOpening, kind])]

theorem turns_stray (kind : tag.kind = .closing) :
    turns name plural 0 (tag :: rest) =
      some (.malformed name s!"closing </{name}> without a matching opening tag") := by
  rw [turns, if_neg (by simp [Tag.isOpening, kind])]

/-- Where the walk has passed, its counter is what counting gives, and it goes on from there. -/
theorem turns_passed (paired : ∀ tag ∈ before, tag.isPaired = true) (shallow : depth ≤ 1)
    (passed : turns name plural depth before = none) :
    ∃ next : Nat, next ≤ 1 ∧ (next : Int) = depth + Tag.depth before ∧
      ∀ after, turns name plural depth (before ++ after) = turns name plural next after := by
  induction before generalizing depth with
  | nil => exact ⟨depth, shallow, by simp [Tag.depth], fun after => rfl⟩
  | cons tag rest ih =>
      obtain ⟨here, later⟩ := List.forall_mem_cons.mp paired
      rcases Tag.kind_of_isPaired here with kind | kind
      · cases depth with
        | zero =>
            rw [turns_opening kind] at passed
            obtain ⟨next, within, counted, goesOn⟩ := ih later (Nat.le_refl 1) passed
            refine ⟨next, within, ?_, ?_⟩
            · rw [Tag.depth_opening kind]
              omega
            · intro after
              rw [List.cons_append, turns_opening kind, goesOn]
        | succ below =>
            rw [turns_nested kind] at passed
            cases passed
      · cases depth with
        | zero =>
            rw [turns_stray kind] at passed
            cases passed
        | succ below =>
            rw [turns_closing kind] at passed
            obtain ⟨next, within, counted, goesOn⟩ := ih later (by omega) passed
            refine ⟨next, within, ?_, ?_⟩
            · rw [Tag.depth_closing kind]
              omega
            · intro after
              rw [List.cons_append, turns_closing kind, goesOn]

theorem turns_append_of_some (failed : turns name plural depth before = some finding)
    (after : List Tag) : turns name plural depth (before ++ after) = some finding := by
  induction before generalizing depth with
  | nil => cases failed
  | cons tag rest ih =>
      rw [List.cons_append]
      unfold turns at failed ⊢
      split at failed
      · rename_i opens
        rw [if_pos opens]
        split at failed
        · rename_i none
          rw [if_pos none]
          exact ih failed
        · rename_i some
          rw [if_neg some]
          exact failed
      · rename_i opens
        rw [if_neg opens]
        cases depth with
        | zero => exact failed
        | succ below => exact ih failed

def misfit (name plural : String) (tag : Tag) : Finding :=
  if tag.isOpening then
    .structural name s!"{plural} must not be nested"
  else
    .malformed name s!"closing </{name}> without a matching opening tag"

theorem misfit_opening (kind : tag.kind = .opening) :
    misfit name plural tag = .structural name s!"{plural} must not be nested" :=
  if_pos (Tag.isOpening_iff.mpr kind)

theorem misfit_closing (kind : tag.kind = .closing) :
    misfit name plural tag =
      .malformed name s!"closing </{name}> without a matching opening tag" :=
  if_neg (by simp [Tag.isOpening, kind])

private theorem turns_step (paired : ∀ other ∈ before ++ [tag], other.isPaired = true)
    (passed : turns name plural 0 before = none) :
    (¬ Tag.Level (before ++ [tag]) → ∀ after,
        turns name plural 0 (before ++ tag :: after) = some (misfit name plural tag)) ∧
      (Tag.Level (before ++ [tag]) → turns name plural 0 (before ++ [tag]) = none) := by
  obtain ⟨earlier, here⟩ := List.forall_mem_append.mp paired
  obtain ⟨next, within, counted, goesOn⟩ := turns_passed earlier (Nat.zero_le 1) passed
  unfold Tag.Level
  rw [Tag.depth_append]
  rcases Tag.kind_of_isPaired (here tag (List.mem_singleton_self tag)) with kind | kind
  · rw [Tag.depth_opening kind, Tag.depth_nil, misfit_opening kind]
    constructor
    · intro departs after
      obtain rfl : next = 1 := by omega
      rw [goesOn, turns_nested kind]
    · intro stays
      obtain rfl : next = 0 := by omega
      rw [goesOn, turns_opening kind]
      rfl
  · rw [Tag.depth_closing kind, Tag.depth_nil, misfit_closing kind]
    constructor
    · intro departs after
      obtain rfl : next = 0 := by omega
      rw [goesOn, turns_stray kind]
    · intro stays
      obtain rfl : next = 1 := by omega
      rw [goesOn, turns_closing kind]
      rfl

/-- The walk passes the tags that keep the level up to every place. -/
theorem turns_eq_none_iff (paired : ∀ tag ∈ tags, tag.isPaired = true) :
    turns name plural 0 tags = none ↔ ∀ part, part <+: tags → Tag.Level part := by
  induction tags using List.reverseRecOn with
  | nil =>
      refine ⟨?_, fun _ => rfl⟩
      intro _ part shorter
      rw [List.prefix_nil.mp shorter]
      exact .inl rfl
  | append_singleton front last ih =>
      have earlier := ih (List.forall_mem_append.mp paired).1
      constructor
      · intro passed
        have frontPassed : turns name plural 0 front = none := by
          cases found : turns name plural 0 front with
          | none => rfl
          | some finding =>
              rw [turns_append_of_some found] at passed
              cases passed
        intro part shorter
        rcases List.prefix_concat_iff.mp shorter with rfl | within
        · apply Classical.byContradiction
          intro departs
          rw [(turns_step paired frontPassed).1 departs []] at passed
          cases passed
        · exact earlier.mp frontPassed part within
      · intro level
        have frontPassed := earlier.mpr fun part within =>
          level part (within.trans (List.prefix_append front [last]))
        exact (turns_step paired frontPassed).2 (level _ List.prefix_rfl)

/-- The walk stops at the first tag that leaves the level. -/
theorem turns_of_departs (paired : ∀ tag ∈ tags, tag.isPaired = true)
    (departs : Tag.Departs tags tag) :
    turns name plural 0 tags = some (misfit name plural tag) := by
  obtain ⟨before, after, rfl, level, leaves⟩ := departs
  have upTo : ∀ other ∈ before ++ [tag], other.isPaired = true := by
    intro other member
    apply paired
    rw [List.append_cons]
    exact List.mem_append_left after member
  have passed : turns name plural 0 before = none :=
    (turns_eq_none_iff (List.forall_mem_append.mp upTo).1).mpr level
  exact (turns_step upTo passed).1 leaves after

end Walk

/-! ### Rows -/

section Rows

variable {name plural : String} {elements : List Element} {tags : List Tag}

theorem turns_row (matched : ∀ element ∈ elements, element.Matched) :
    turns name plural 0 (elements.flatMap Element.tags) = none := by
  induction elements with
  | nil => rfl
  | cons element rest ih =>
      obtain ⟨⟨opens, closing, closed, closes, -⟩, others⟩ := List.forall_mem_cons.mp matched
      rw [List.flatMap_cons, Element.tags, closed, Option.toList_some, List.cons_append,
        List.singleton_append, turns_opening opens, turns_closing closes, ih others]

theorem depth_row (matched : ∀ element ∈ elements, element.Matched) :
    Tag.depth (elements.flatMap Element.tags) = 0 := by
  induction elements with
  | nil => rfl
  | cons element rest ih =>
      obtain ⟨⟨opens, closing, closed, closes, -⟩, others⟩ := List.forall_mem_cons.mp matched
      rw [List.flatMap_cons, Element.tags, closed, Option.toList_some, List.cons_append,
        List.singleton_append, Tag.depth_opening opens, Tag.depth_closing closes, ih others]
      rfl

/-- Tags of one name that keep the level up to every place, and open no more than they close,
come in turn. -/
theorem exists_row_of_level (paired : ∀ tag ∈ tags, tag.isPaired = true)
    (named : ∀ tag ∈ tags, tag.name = name) (even : Tag.depth tags = 0)
    (level : ∀ part, part <+: tags → Tag.Level part) :
    ∃ elements : List Element, tags = elements.flatMap Element.tags ∧
      ∀ element ∈ elements, element.Matched := by
  induction tags using List.twoStepInduction with
  | nil => exact ⟨[], rfl, List.forall_mem_nil _⟩
  | singleton tag =>
      rcases Tag.kind_of_isPaired (paired tag List.mem_cons_self) with kind | kind
      · rw [Tag.depth_opening kind] at even
        cases even
      · rw [Tag.depth_closing kind] at even
        cases even
  | cons_cons first second rest ih =>
      obtain ⟨firstPaired, secondPaired, restPaired⟩ :
          first.isPaired = true ∧ second.isPaired = true ∧ ∀ tag ∈ rest, tag.isPaired = true := by
        simpa using paired
      obtain ⟨firstNamed, secondNamed, restNamed⟩ :
          first.name = name ∧ second.name = name ∧ ∀ tag ∈ rest, tag.name = name := by
        simpa using named
      have behind (part : List Tag) (within : part <+: rest) :
          Tag.Level (first :: second :: part) :=
        level _ ((List.prefix_cons_inj first).mpr ((List.prefix_cons_inj second).mpr within))
      have opens : first.kind = .opening := by
        refine (Tag.kind_of_isPaired firstPaired).resolve_right fun stray => ?_
        have shallow := level [first] ((List.prefix_cons_inj first).mpr List.nil_prefix)
        rw [Tag.Level, Tag.depth_closing stray, Tag.depth_nil] at shallow
        omega
      have closes : second.kind = .closing := by
        refine (Tag.kind_of_isPaired secondPaired).resolve_left fun nested => ?_
        have shallow := behind [] List.nil_prefix
        rw [Tag.Level, Tag.depth_opening opens, Tag.depth_opening nested, Tag.depth_nil] at shallow
        omega
      have back (part : List Tag) : Tag.depth (first :: second :: part) = Tag.depth part := by
        rw [Tag.depth_opening opens, Tag.depth_closing closes]
        omega
      have restLevel (part : List Tag) (within : part <+: rest) : Tag.Level part := by
        have same := behind part within
        rwa [Tag.Level, back] at same
      obtain ⟨elements, rfl, matched⟩ := ih restPaired restNamed (back rest ▸ even) restLevel
      refine ⟨⟨first, some second⟩ :: elements, rfl, List.forall_mem_cons.mpr ⟨?_, matched⟩⟩
      exact ⟨opens, second, rfl, closes, secondNamed.trans firstNamed.symm⟩

end Rows

end Rules

namespace Document

def pairedTags (document : Document) (name : String) : List Tag :=
  (document.tagsNamed name).filter Tag.isPaired

variable {document : Document} {name : String} {elements : List Element}

theorem isPaired_of_mem {tag : Tag} (member : tag ∈ document.pairedTags name) :
    tag.isPaired = true :=
  (List.mem_filter.mp member).2

def between? (document : Document) (element : Element) : Option (List Char) :=
  element.closing.bind fun closing =>
    document.slice? ⟨element.opening.span.stop, closing.span.start⟩

/-- Opening and closing tags of the name come in turn, the last one closing, and the elements
are made of each opening tag and the tag next to it. -/
structure Row (document : Document) (name : String) (elements : List Element) : Prop where
  tags_eq : document.pairedTags name = elements.flatMap Element.tags
  matched : ∀ element ∈ elements, element.Matched

namespace Row

theorem of_tagsNamed (matched : ∀ element ∈ elements, element.Matched)
    (same : document.tagsNamed name = elements.flatMap Element.tags) :
    document.Row name elements := by
  refine ⟨?_, matched⟩
  rw [pairedTags, same, Element.filter_isPaired matched]

theorem ordered (row : document.Row name elements) :
    Tag.Ordered (elements.flatMap Element.tags) := by
  rw [← row.tags_eq]
  exact document.tags_ordered.sublist (List.filter_sublist.trans List.filter_sublist)

theorem rising (row : document.Row name elements) :
    elements.Pairwise fun earlier later => earlier.start < later.start :=
  Element.rising_of_ordered row.ordered

theorem pair_eq (row : document.Row name elements) :
    Element.pair document.tags name = elements := by
  have kept : (document.tags.filter fun tag => tag.name == name && tag.isPaired) =
      elements.flatMap Element.tags := by
    rw [← row.tags_eq, pairedTags, tagsNamed, Tag.named, List.filter_filter]
    simp only [Bool.and_comm]
  have alone : ∀ element ∈ elements, (element.opening.name == name) = true := by
    intro element member
    have listed : element.opening ∈ document.pairedTags name := by
      rw [row.tags_eq]
      exact List.mem_flatMap.mpr ⟨element, member, List.mem_cons_self⟩
    exact beq_iff_eq.mpr (Tag.mem_named.mp (List.mem_filter.mp listed).1).2
  rw [← Element.pair_filter, kept, Element.pair_of_row row.matched row.ordered rfl]
  exact List.filter_eq_self.mpr alone

theorem not_departs (row : document.Row name elements) {tag : Tag} :
    ¬ Tag.Departs (document.pairedTags name) tag := by
  intro departs
  obtain ⟨before, within, -, leaves⟩ := departs.exists_upTo
  have passed : Rules.turns name name 0 (document.pairedTags name) = none := by
    rw [row.tags_eq]
    exact Rules.turns_row row.matched
  exact leaves ((Rules.turns_eq_none_iff fun _ => document.isPaired_of_mem).mp passed _ within)

theorem mem_pair (row : document.Row name elements) {element : Element}
    (member : element ∈ elements) : element ∈ Element.pair document.tags name :=
  row.pair_eq.symm ▸ member

theorem innerSpan_eq (row : document.Row name elements) {element : Element}
    (member : element ∈ elements) :
    ∃ closing, element.closing = some closing ∧
      ∀ length, element.innerSpan length = ⟨element.opening.span.stop, closing.span.start⟩ := by
  obtain ⟨closing, closed, -⟩ := (row.matched element member).closes
  obtain ⟨-, -, -, behind⟩ :=
    Element.closing_mem_of_mem_pair document.tags_ordered (row.mem_pair member) closed
  exact ⟨closing, closed, fun length => Element.innerSpan_of_closing closed behind length⟩

theorem exists_between (row : document.Row name elements) {element : Element}
    (member : element ∈ elements) :
    ∃ text, element.inner? document.source = some text ∧ document.between? element = some text := by
  obtain ⟨text, cut⟩ := (holds_of_mem_pair (row.mem_pair member)).exists_slice
  obtain ⟨closing, closed, inside⟩ := row.innerSpan_eq member
  refine ⟨text, cut, ?_⟩
  rw [between?, closed, Option.bind_some, ← inside document.length, cut]

end Row

end Document

namespace Rules

/-! ### The rule -/

def uneven (name : String) (tags : List Tag) : Finding :=
  .malformed name
    s!"unbalanced tags: {tags.countP Tag.isOpening} opening and {tags.countP Tag.isClosing} closing"

variable {document : Document} {name plural : String}

theorem balance_eq_turns (document : Document) (name plural : String) :
    balance document name plural =
      if Tag.depth (document.pairedTags name) = 0 then
        turns name plural 0 (document.pairedTags name)
      else
        some (uneven name (document.pairedTags name)) := by
  have paired : ∀ tag ∈ document.pairedTags name, tag.isPaired = true :=
    fun _ => document.isPaired_of_mem
  have total := Tag.length_eq_counts paired
  unfold balance
  rw [show (document.tagsNamed name).filter Tag.isPaired = document.pairedTags name from rfl]
  clear paired
  generalize document.pairedTags name = tags at total ⊢
  have closings : tags.length - tags.countP Tag.isOpening = tags.countP Tag.isClosing := by omega
  simp only [← List.countP_eq_length_filter, closings, Tag.depth_eq_zero_iff]
  by_cases even : tags.countP Tag.isOpening = tags.countP Tag.isClosing
  · rw [if_neg (not_not.mpr even), if_pos even]
  · rw [if_pos even, if_neg even]
    rfl

theorem balance_of_uneven (differ : Tag.depth (document.pairedTags name) ≠ 0) :
    balance document name plural = some (uneven name (document.pairedTags name)) := by
  rw [balance_eq_turns, if_neg differ]

theorem balance_of_departs (even : Tag.depth (document.pairedTags name) = 0) {tag : Tag}
    (departs : Tag.Departs (document.pairedTags name) tag) :
    balance document name plural = some (misfit name plural tag) := by
  rw [balance_eq_turns, if_pos even, turns_of_departs (fun _ => document.isPaired_of_mem) departs]

theorem balance_of_row {elements : List Element} (row : document.Row name elements) :
    balance document name plural = none := by
  rw [balance_eq_turns, row.tags_eq, if_pos (depth_row row.matched), turns_row row.matched]

/-- The tags come in turn, or there is a first one that does not fit, if as many of them open
as close. -/
theorem row_or_departs (even : Tag.depth (document.pairedTags name) = 0) :
    (∃ elements, document.Row name elements) ∨
      ∃ tag, Tag.Departs (document.pairedTags name) tag := by
  by_cases level : ∀ part, part <+: document.pairedTags name → Tag.Level part
  · have named : ∀ tag ∈ document.pairedTags name, tag.name = name :=
      fun _ member => (Tag.mem_named.mp (List.mem_filter.mp member).1).2
    obtain ⟨elements, tagsEq, matched⟩ :=
      exists_row_of_level (fun _ => document.isPaired_of_mem) named even level
    exact .inl ⟨elements, tagsEq, matched⟩
  · exact .inr (Tag.exists_departs level)

/-- The counter of the walk is never below none: where it stands, it holds the difference of the
counts. -/
theorem turns_counter {before after : List Tag}
    (split : document.pairedTags name = before ++ after)
    (passed : turns name plural 0 before = none) :
    ∃ depth : Nat, depth ≤ 1 ∧ (depth : Int) = Tag.depth before ∧
      turns name plural 0 (document.pairedTags name) = turns name plural depth after := by
  have paired : ∀ tag ∈ before, tag.isPaired = true := by
    intro tag member
    exact document.isPaired_of_mem (split ▸ List.mem_append_left after member)
  obtain ⟨depth, shallow, counted, goesOn⟩ := turns_passed paired (Nat.zero_le 1) passed
  exact ⟨depth, shallow, by simpa using counted, by rw [split, goesOn]⟩

/-- The rule finds no fault just when the tags come in turn. -/
theorem balance_eq_none_iff :
    balance document name plural = none ↔ ∃ elements, document.Row name elements := by
  constructor
  · intro balanced
    by_cases even : Tag.depth (document.pairedTags name) = 0
    · rcases row_or_departs even with row | ⟨tag, departs⟩
      · exact row
      · rw [balance_of_departs even departs] at balanced
        cases balanced
    · rw [balance_of_uneven even] at balanced
      cases balanced
  · rintro ⟨elements, row⟩
    exact balance_of_row row

end Rules

end PageCheck
