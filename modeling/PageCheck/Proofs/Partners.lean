import PageCheck.Proofs.Pairing

/-! Partners.  Pairing keeps a stack of open tags, leaves out what it cannot use and
sorts at the end; what it finds can be said by counting alone.  An opening tag is closed
by the first tag behind it up to which its name has more closing than opening tags, and
stays open if there is no such tag.  So the elements of a name match like brackets. -/

set_option autoImplicit false

namespace PageCheck

namespace Tag

/-! ### Counting -/

def openings (name : String) (tags : List Tag) : Nat :=
  tags.countP fun tag => tag.name == name && tag.isOpening

def closings (name : String) (tags : List Tag) : Nat :=
  tags.countP fun tag => tag.name == name && tag.isClosing

/-- Up to no place do the tags close more elements of the name than they open, with `depth`
elements open before. -/
def Covered (name : String) (depth : Nat) (tags : List Tag) : Prop :=
  ∀ part, part <+: tags → closings name part ≤ openings name part + depth

/-- `closing` is the first of the tags up to which they close more elements of the name
than they open, with `depth` elements open before. -/
def FirstExcess (name : String) (depth : Nat) (tags : List Tag) (closing : Tag) : Prop :=
  ∃ between rest, tags = between ++ closing :: rest ∧
    openings name (between ++ [closing]) + depth < closings name (between ++ [closing]) ∧
    Covered name depth between

/-- How many elements of the name are open behind a tag, if `depth` are open before it; none
if the tag closes more than these. -/
def depthBehind? (name : String) (depth : Nat) (tag : Tag) : Option Nat :=
  if tag.name = name then
    match tag.kind with
    | .opening => some (depth + 1)
    | .selfClosing => some depth
    | .closing =>
        match depth with
        | 0 => none
        | below + 1 => some below
  else
    some depth

/-- The tag that closes an element of the name, with `depth` more of the name open in it. -/
def partner? (name : String) : Nat → List Tag → Option Tag
  | _, [] => none
  | depth, tag :: rest =>
      match depthBehind? name depth tag with
      | none => some tag
      | some next => partner? name next rest

section Counting

variable {name : String} {depth next : Nat} {tag closing : Tag} {rest tags : List Tag}

theorem depthBehind?_opening (same : tag.name = name) (kind : tag.kind = .opening) :
    depthBehind? name depth tag = some (depth + 1) := by
  simp only [depthBehind?, if_pos same, kind]

theorem depthBehind?_closing (same : tag.name = name) (kind : tag.kind = .closing) :
    depthBehind? name (depth + 1) tag = some depth := by
  simp only [depthBehind?, if_pos same, kind]

theorem depthBehind?_idle (idle : tag.name = name → tag.kind = .selfClosing) :
    depthBehind? name depth tag = some depth := by
  unfold depthBehind?
  by_cases same : tag.name = name
  · simp only [if_pos same, idle same]
  · rw [if_neg same]

theorem depthBehind?_eq_none_iff :
    depthBehind? name depth tag = none ↔ tag.name = name ∧ tag.kind = .closing ∧ depth = 0 := by
  unfold depthBehind?
  by_cases same : tag.name = name
  · cases kind : tag.kind <;> cases depth <;> simp [same]
  · simp [same]

private theorem counts_cons (behind : depthBehind? name depth tag = some next)
    (part : List Tag) :
    closings name (tag :: part) ≤ openings name (tag :: part) + depth ↔
      closings name part ≤ openings name part + next := by
  unfold depthBehind? at behind
  unfold closings openings
  rw [List.countP_cons, List.countP_cons]
  by_cases same : tag.name = name
  · cases kind : tag.kind with
    | opening =>
        simp only [if_pos same, kind, Option.some.injEq] at behind
        simp [same, isOpening, isClosing, kind]
        omega
    | closing =>
        cases depth with
        | zero => simp only [if_pos same, kind, reduceCtorEq] at behind
        | succ below =>
            simp only [if_pos same, kind, Option.some.injEq] at behind
            simp [same, isOpening, isClosing, kind]
            omega
    | selfClosing =>
        simp only [if_pos same, kind, Option.some.injEq] at behind
        simp [same, isOpening, isClosing, kind, behind]
  · simp only [if_neg same, Option.some.injEq] at behind
    simp [same, behind]

theorem covered_nil : Covered name depth [] := by
  intro part shorter
  rw [List.prefix_nil.mp shorter]
  exact Nat.zero_le _

theorem covered_cons (behind : depthBehind? name depth tag = some next) :
    Covered name depth (tag :: rest) ↔ Covered name next rest := by
  constructor
  · intro covered part shorter
    exact (counts_cons behind part).mp
      (covered _ ((List.prefix_cons_inj tag).mpr shorter))
  · intro covered part shorter
    cases part with
    | nil => exact Nat.zero_le _
    | cons first part =>
        obtain ⟨rfl, within⟩ := List.cons_prefix_cons.mp shorter
        exact (counts_cons behind part).mpr (covered part within)

private theorem excess_closing (closes : depthBehind? name depth tag = none) :
    openings name [tag] + depth < closings name [tag] := by
  obtain ⟨same, kind, rfl⟩ := depthBehind?_eq_none_iff.mp closes
  simp [openings, closings, same, isOpening, isClosing, kind]

theorem not_covered_closing (closes : depthBehind? name depth tag = none) :
    ¬ Covered name depth (tag :: rest) := by
  intro covered
  have kept := covered [tag] ((List.prefix_cons_inj tag).mpr List.nil_prefix)
  have excess := excess_closing closes
  omega

theorem firstExcess_cons (behind : depthBehind? name depth tag = some next) :
    FirstExcess name depth (tag :: rest) closing ↔ FirstExcess name next rest closing := by
  have moved := counts_cons behind
  constructor
  · rintro ⟨between, after, split, excess, covered⟩
    cases between with
    | nil =>
        obtain ⟨rfl, -⟩ := List.cons.inj split
        exact absurd ((moved []).mpr (Nat.zero_le _)) (Nat.not_le_of_lt excess)
    | cons first between =>
        obtain ⟨rfl, rfl⟩ := List.cons.inj split
        refine ⟨between, after, rfl, ?_, (covered_cons behind).mp covered⟩
        apply Nat.lt_of_not_le
        intro within
        exact absurd ((moved _).mpr within) (Nat.not_le_of_lt excess)
  · rintro ⟨between, after, rfl, excess, covered⟩
    refine ⟨tag :: between, after, rfl, ?_, (covered_cons behind).mpr covered⟩
    apply Nat.lt_of_not_le
    intro within
    exact absurd ((moved _).mp within) (Nat.not_le_of_lt excess)

theorem firstExcess_closing (closes : depthBehind? name depth tag = none) :
    FirstExcess name depth (tag :: rest) closing ↔ closing = tag := by
  constructor
  · rintro ⟨between, after, split, -, covered⟩
    cases between with
    | nil => exact (List.cons.inj split).1.symm
    | cons first between =>
        obtain ⟨rfl, -⟩ := List.cons.inj split
        exact absurd covered (not_covered_closing closes)
  · rintro rfl
    exact ⟨[], rest, rfl, excess_closing closes, covered_nil⟩

/-! ### The partner of an opening tag -/

theorem partner?_behind (behind : depthBehind? name depth tag = some next) :
    partner? name depth (tag :: rest) = partner? name next rest := by
  rw [partner?, behind]

theorem partner?_closing (closes : depthBehind? name depth tag = none) :
    partner? name depth (tag :: rest) = some tag := by
  rw [partner?, closes]

/-- The partner stands where closing tags outnumber opening tags for the first time. -/
theorem partner?_eq_some_iff :
    partner? name depth tags = some closing ↔ FirstExcess name depth tags closing := by
  induction tags generalizing depth with
  | nil =>
      refine ⟨nofun, ?_⟩
      rintro ⟨between, rest, split, -⟩
      exact absurd split.symm (List.append_ne_nil_of_right_ne_nil _ (List.cons_ne_nil _ _))
  | cons tag rest ih =>
      cases behind : depthBehind? name depth tag with
      | none =>
          rw [partner?_closing behind, firstExcess_closing behind, Option.some.injEq]
          exact eq_comm
      | some next => rw [partner?_behind behind, firstExcess_cons behind, ih]

/-- There is no partner just when closing tags nowhere outnumber opening tags. -/
theorem partner?_eq_none_iff : partner? name depth tags = none ↔ Covered name depth tags := by
  induction tags generalizing depth with
  | nil => exact ⟨fun _ => covered_nil, fun _ => rfl⟩
  | cons tag rest ih =>
      cases behind : depthBehind? name depth tag with
      | none =>
          rw [partner?_closing behind]
          exact ⟨nofun, fun covered => absurd covered (not_covered_closing behind)⟩
      | some next => rw [partner?_behind behind, covered_cons behind, ih]

theorem mem_of_partner? (found : partner? name depth tags = some closing) : closing ∈ tags := by
  obtain ⟨between, rest, rfl, -⟩ := partner?_eq_some_iff.mp found
  exact List.mem_append_right _ List.mem_cons_self

private theorem depthBehind?_of_lt (name : String) {outer : Nat} (deeper : depth < outer)
    (tag : Tag) :
    ∃ next, depthBehind? name outer tag = some next ∧
      (depthBehind? name depth tag = none ∨
        ∃ below, depthBehind? name depth tag = some below ∧ below < next) := by
  by_cases same : tag.name = name
  · cases kind : tag.kind with
    | opening =>
        exact ⟨outer + 1, depthBehind?_opening same kind,
          .inr ⟨depth + 1, depthBehind?_opening same kind, by omega⟩⟩
    | selfClosing =>
        exact ⟨outer, depthBehind?_idle fun _ => kind,
          .inr ⟨depth, depthBehind?_idle fun _ => kind, deeper⟩⟩
    | closing =>
        obtain ⟨next, rfl⟩ : ∃ next, outer = next + 1 := ⟨outer - 1, by omega⟩
        refine ⟨next, depthBehind?_closing same kind, ?_⟩
        cases depth with
        | zero => exact .inl (depthBehind?_eq_none_iff.mpr ⟨same, kind, rfl⟩)
        | succ below => exact .inr ⟨below, depthBehind?_closing same kind, by omega⟩
  · exact ⟨outer, depthBehind?_idle fun named => absurd named same,
      .inr ⟨depth, depthBehind?_idle fun named => absurd named same, deeper⟩⟩

/-- Where an element is closed with more open in it, one with less open in it was closed
before. -/
theorem exists_partner_before {outer : Nat} (deeper : depth < outer)
    (follow : tags.Pairwise fun earlier later => earlier.span.stop ≤ later.span.start)
    (found : partner? name outer tags = some closing) :
    ∃ inner, partner? name depth tags = some inner ∧ inner.span.stop ≤ closing.span.start := by
  induction tags generalizing depth outer with
  | nil => cases found
  | cons tag rest ih =>
      obtain ⟨first, restFollow⟩ := List.pairwise_cons.mp follow
      obtain ⟨next, outerBehind, closes | ⟨below, behind, lower⟩⟩ :=
        depthBehind?_of_lt name deeper tag
      · rw [partner?_behind outerBehind] at found
        exact ⟨tag, partner?_closing closes, first closing (mem_of_partner? found)⟩
      · rw [partner?_behind outerBehind] at found
        rw [partner?_behind behind]
        exact ih lower restFollow found

end Counting

end Tag

namespace Element

/-! ### Elements without a stack -/

def partnered (name : String) : List Tag → List Element
  | [] => []
  | tag :: rest =>
      if tag.name = name ∧ tag.kind = .opening then
        ⟨tag, Tag.partner? name 0 rest⟩ :: partnered name rest
      else
        partnered name rest

theorem partnered_opening {name : String} {tag : Tag} (same : tag.name = name)
    (kind : tag.kind = .opening) (rest : List Tag) :
    partnered name (tag :: rest) = ⟨tag, Tag.partner? name 0 rest⟩ :: partnered name rest := by
  rw [partnered, if_pos ⟨same, kind⟩]

theorem partnered_other {name : String} {tag : Tag}
    (other : tag.name = name → tag.kind ≠ .opening) (rest : List Tag) :
    partnered name (tag :: rest) = partnered name rest := by
  rw [partnered, if_neg fun both => other both.1 both.2]

theorem partnered_openings (name : String) (tags : List Tag) :
    (partnered name tags).map (·.opening) = (Tag.named tags name).filter Tag.isOpening := by
  induction tags with
  | nil => rfl
  | cons tag rest ih =>
      by_cases same : tag.name = name
      · rw [Tag.named_cons_of_eq same]
        by_cases kind : tag.kind = .opening
        · rw [partnered_opening same kind, List.map_cons, ih,
            List.filter_cons_of_pos (Tag.isOpening_iff.mpr kind)]
        · rw [partnered_other (fun _ => kind), ih,
            List.filter_cons_of_neg fun opens => kind (Tag.isOpening_iff.mp opens)]
      · rw [partnered_other (fun named => absurd named same), ih, Tag.named_cons_of_ne same]

/-- The elements of tags that are open, the innermost first, closed by what is to come. -/
def stacked (name : String) (openTags tags : List Tag) : List Element :=
  openTags.mapIdx fun depth tag => ⟨tag, Tag.partner? name depth tags⟩

section Stacked

variable {name : String} {tag : Tag}

theorem stacked_nil (name : String) (openTags : List Tag) :
    stacked name openTags [] = openTags.map (⟨·, none⟩) := by
  induction openTags with
  | nil => rfl
  | cons tag outer ih =>
      unfold stacked at ih ⊢
      rw [List.mapIdx_cons, List.map_cons, ← ih]
      rfl

theorem stacked_opening (same : tag.name = name) (kind : tag.kind = .opening)
    (openTags rest : List Tag) :
    stacked name (tag :: openTags) rest =
      ⟨tag, Tag.partner? name 0 rest⟩ :: stacked name openTags (tag :: rest) := by
  have deeper : ∀ depth,
      Tag.partner? name depth (tag :: rest) = Tag.partner? name (depth + 1) rest :=
    fun _ => Tag.partner?_behind (Tag.depthBehind?_opening same kind)
  simp only [stacked, List.mapIdx_cons, deeper]

theorem stacked_idle (idle : tag.name = name → tag.kind = .selfClosing)
    (openTags rest : List Tag) :
    stacked name openTags (tag :: rest) = stacked name openTags rest := by
  have same : ∀ depth, Tag.partner? name depth (tag :: rest) = Tag.partner? name depth rest :=
    fun _ => Tag.partner?_behind (Tag.depthBehind?_idle idle)
  simp only [stacked, same]

theorem stacked_closing (same : tag.name = name) (kind : tag.kind = .closing)
    (innermost : Tag) (outer rest : List Tag) :
    stacked name (innermost :: outer) (tag :: rest) =
      ⟨innermost, some tag⟩ :: stacked name outer rest := by
  have closes : Tag.depthBehind? name 0 tag = none :=
    Tag.depthBehind?_eq_none_iff.mpr ⟨same, kind, rfl⟩
  have rises : ∀ depth,
      Tag.partner? name (depth + 1) (tag :: rest) = Tag.partner? name depth rest :=
    fun _ => Tag.partner?_behind (Tag.depthBehind?_closing same kind)
  simp only [stacked, List.mapIdx_cons, Tag.partner?_closing closes, rises]

end Stacked

private theorem pairFrom_perm (name : String) (openTags tags : List Tag) :
    (pairFrom openTags (Tag.named tags name)).Perm
      (stacked name openTags tags ++ partnered name tags) := by
  induction tags generalizing openTags with
  | nil =>
      rw [stacked_nil, partnered, List.append_nil]
      exact (List.reverse_perm openTags).map _
  | cons tag rest ih =>
      by_cases same : tag.name = name
      · rw [Tag.named_cons_of_eq same]
        cases kind : tag.kind with
        | opening =>
            have step := ih (tag :: openTags)
            rw [stacked_opening same kind, List.cons_append] at step
            rw [pairFrom_opening kind, partnered_opening same kind]
            exact step.trans List.perm_middle.symm
        | selfClosing =>
            rw [pairFrom_selfClosing kind, partnered_other (by simp [kind]),
              stacked_idle fun _ => kind]
            exact ih openTags
        | closing =>
            rw [partnered_other (by simp [kind])]
            cases openTags with
            | nil =>
                rw [pairFrom_stray kind]
                exact ih []
            | cons innermost outer =>
                rw [pairFrom_closing kind, stacked_closing same kind, List.cons_append]
                exact (ih outer).cons _
      · rw [Tag.named_cons_of_ne same, partnered_other (fun named => absurd named same),
          stacked_idle fun named => absurd named same]
        exact ih openTags

/-- Where the tags follow one another, the elements of a name are its opening tags with
their partners. -/
theorem pair_eq_partnered {tags : List Tag} (ordered : Tag.Ordered tags) (name : String) :
    pair tags name = partnered name tags := by
  have perm : (pairFrom [] (Tag.named tags name)).Perm (partnered name tags) :=
    pairFrom_perm name [] tags
  apply sortByStart_eq_of_perm perm
  apply rising_of_openings
  rw [partnered_openings]
  exact (ordered.named name).sublist List.filter_sublist

theorem mem_partnered {name : String} {opening : Tag} (same : opening.name = name)
    (kind : opening.kind = .opening) (before after : List Tag) :
    ⟨opening, Tag.partner? name 0 after⟩ ∈ partnered name (before ++ opening :: after) := by
  induction before with
  | nil =>
      rw [List.nil_append, partnered_opening same kind]
      exact List.mem_cons_self
  | cons tag before ih =>
      rw [List.cons_append, partnered]
      split
      · exact List.mem_cons_of_mem _ ih
      · exact ih

theorem opening_mem_of_mem_partnered {name : String} {tags : List Tag} {element : Element}
    (member : element ∈ partnered name tags) : element.opening ∈ tags := by
  have opening : element.opening ∈ (partnered name tags).map (·.opening) :=
    List.mem_map.mpr ⟨element, member, rfl⟩
  rw [partnered_openings] at opening
  exact (Tag.mem_named.mp (List.mem_filter.mp opening).1).1

theorem closing_mem_of_mem_partnered {name : String} {tags : List Tag} {element : Element}
    (member : element ∈ partnered name tags) {closing : Tag}
    (closed : element.closing = some closing) : closing ∈ tags := by
  induction tags with
  | nil => cases member
  | cons tag rest ih =>
      rw [partnered] at member
      split at member
      · rcases List.mem_cons.mp member with rfl | later
        · exact List.mem_cons_of_mem _ (Tag.mem_of_partner? closed)
        · exact List.mem_cons_of_mem _ (ih later)
      · exact List.mem_cons_of_mem _ (ih member)

/-! ### Nesting -/

private theorem closed_before {name : String} {depth : Nat} {tags : List Tag}
    (follow : tags.Pairwise fun earlier later => earlier.span.stop ≤ later.span.start)
    {closing : Tag} (found : Tag.partner? name depth tags = some closing) {element : Element}
    (member : element ∈ partnered name tags) :
    closing.span.stop ≤ element.start ∨
      ∃ inner, element.closing = some inner ∧ inner.span.stop ≤ closing.span.start := by
  induction tags generalizing depth with
  | nil => cases member
  | cons tag rest ih =>
      obtain ⟨first, restFollow⟩ := List.pairwise_cons.mp follow
      cases behind : Tag.depthBehind? name depth tag with
      | none =>
          obtain ⟨-, kind, -⟩ := Tag.depthBehind?_eq_none_iff.mp behind
          rw [Tag.partner?_closing behind, Option.some.injEq] at found
          rw [partnered_other (by simp [kind])] at member
          left
          rw [← found]
          exact first _ (opening_mem_of_mem_partnered member)
      | some next =>
          rw [Tag.partner?_behind behind] at found
          by_cases opens : tag.name = name ∧ tag.kind = .opening
          · rw [Tag.depthBehind?_opening opens.1 opens.2, Option.some.injEq] at behind
            rw [partnered_opening opens.1 opens.2] at member
            rcases List.mem_cons.mp member with rfl | later
            · right
              subst behind
              exact Tag.exists_partner_before (Nat.succ_pos depth) restFollow found
            · exact ih restFollow found later
          · rw [partnered, if_neg opens] at member
            exact ih restFollow found member

def Apart (length : Nat) (earlier later : Element) : Prop :=
  (earlier.outerSpan length).encloses (later.outerSpan length) = true ∨
    (earlier.outerSpan length).stop ≤ (later.outerSpan length).start

private theorem partnered_apart {name : String} {length : Nat} {tags : List Tag}
    (ordered : Tag.Ordered tags) (bound : ∀ tag ∈ tags, tag.span.stop ≤ length) :
    (partnered name tags).Pairwise (Apart length) := by
  induction tags with
  | nil => exact List.Pairwise.nil
  | cons tag rest ih =>
      have restOrdered := ordered.sublist (List.sublist_cons_self tag rest)
      have others := ih restOrdered fun other member => bound other (List.mem_cons_of_mem _ member)
      rw [partnered]
      split
      · refine List.pairwise_cons.mpr ⟨?_, others⟩
        intro element member
        have follow := List.pairwise_cons.mp ordered.pairwise
        have behind := follow.1 _ (opening_mem_of_mem_partnered member)
        have opens := ordered.filled (List.mem_cons_self (l := rest))
        have starts : tag.span.start ≤ element.start :=
          Nat.le_trans (Nat.le_of_lt opens) behind
        cases found : Tag.partner? name 0 rest with
        | none =>
            -- an element that is never closed holds all that follows
            left
            refine Span.encloses_iff.mpr ⟨starts, ?_⟩
            cases closed : element.closing with
            | none => simp only [outerSpan, closed, Nat.le_refl]
            | some inner =>
                have inside := closing_mem_of_mem_partnered member closed
                simp only [outerSpan, closed]
                exact bound inner (List.mem_cons_of_mem _ inside)
        | some closing =>
            rcases closed_before follow.2 found member with after | ⟨inner, closed, before⟩
            · exact .inr after
            · left
              have ends := restOrdered.filled (Tag.mem_of_partner? found)
              refine Span.encloses_iff.mpr ⟨starts, ?_⟩
              simp only [outerSpan, closed]
              omega
      · exact others

/-! ### What pairing does not look at -/

private theorem pairFrom_paired (openTags tags : List Tag) :
    pairFrom openTags (tags.filter Tag.isPaired) = pairFrom openTags tags := by
  induction tags generalizing openTags with
  | nil => rfl
  | cons tag rest ih =>
      cases kind : tag.kind with
      | opening =>
          rw [List.filter_cons_of_pos (by simp [Tag.isPaired, kind]), pairFrom_opening kind,
            pairFrom_opening kind, ih]
      | selfClosing =>
          rw [List.filter_cons_of_neg (by simp [Tag.isPaired, kind]),
            pairFrom_selfClosing kind, ih]
      | closing =>
          rw [List.filter_cons_of_pos (by simp [Tag.isPaired, kind])]
          cases openTags with
          | nil => rw [pairFrom_stray kind, pairFrom_stray kind, ih]
          | cons innermost outer => rw [pairFrom_closing kind, pairFrom_closing kind, ih]

/-- Only the opening and closing tags of the name count. -/
theorem pair_filter (tags : List Tag) (name : String) :
    pair (tags.filter fun tag => tag.name == name && tag.isPaired) name = pair tags name := by
  have kept : Tag.named (tags.filter fun tag => tag.name == name && tag.isPaired) name =
      (Tag.named tags name).filter Tag.isPaired := by
    unfold Tag.named
    rw [List.filter_filter, List.filter_filter]
    apply List.filter_congr
    intro tag _
    cases tag.name == name <;> simp
  unfold pair
  rw [kept, pairFrom_paired]

private theorem closings_sublist (openTags tags : List Tag) :
    ((pairFrom openTags tags).filterMap (·.closing)).Sublist tags := by
  induction tags generalizing openTags with
  | nil =>
      apply List.sublist_nil.mpr
      apply List.filterMap_eq_nil_iff.mpr
      intro element member
      obtain ⟨tag, -, rfl⟩ := List.mem_map.mp member
      rfl
  | cons tag rest ih =>
      cases kind : tag.kind with
      | opening =>
          rw [pairFrom_opening kind]
          exact (ih (tag :: openTags)).cons tag
      | selfClosing =>
          rw [pairFrom_selfClosing kind]
          exact (ih openTags).cons tag
      | closing =>
          cases openTags with
          | nil =>
              rw [pairFrom_stray kind]
              exact (ih []).cons tag
          | cons innermost outer =>
              rw [pairFrom_closing kind]
              exact (ih outer).cons_cons tag

/-! ### Matching -/

structure Matching (tags : List Tag) (name : String) (elements : List Element) : Prop where
  openings : elements.map (·.opening) = (Tag.named tags name).filter Tag.isOpening
  rising : elements.Pairwise fun earlier later => earlier.start < later.start
  partners : ∀ before opening after, tags = before ++ opening :: after →
    opening.name = name → opening.kind = .opening →
    ∃ element ∈ elements, element.opening = opening ∧
      (∀ closing, element.closing = some closing ↔ Tag.FirstExcess name 0 after closing) ∧
      (element.closing = none ↔ Tag.Covered name 0 after)
  closings_distinct : (elements.filterMap (·.closing)).Nodup
  closings_behind : ∀ element ∈ elements, ∀ closing, element.closing = some closing →
    closing ∈ tags ∧ closing.name = name ∧ closing.kind = .closing ∧
      element.opening.span.stop ≤ closing.span.start
  apart : ∀ length, (∀ tag ∈ tags, tag.span.stop ≤ length) → elements.Pairwise (Apart length)

theorem pair_matches_brackets {tags : List Tag} (ordered : Tag.Ordered tags) (name : String) :
    Matching tags name (pair tags name) ∧
      pair (tags.filter fun tag => tag.name == name && tag.isPaired) name = pair tags name := by
  have partnersEq := pair_eq_partnered ordered name
  have openingsEq := pair_openings ordered name
  refine ⟨?_, pair_filter tags name⟩
  constructor
  · exact openingsEq
  · apply rising_of_openings
    rw [openingsEq]
    exact (ordered.named name).sublist List.filter_sublist
  · intro before opening after split same kind
    refine ⟨⟨opening, Tag.partner? name 0 after⟩, ?_, rfl, ?_, Tag.partner?_eq_none_iff⟩
    · rw [partnersEq, split]
      exact mem_partnered same kind before after
    · intro closing
      exact Tag.partner?_eq_some_iff
  · have distinct : (Tag.named tags name).Nodup := by
      refine (ordered.named name).pairwise.imp_of_mem ?_
      intro earlier later member _ before same
      have filled := (ordered.named name).filled member
      rw [← same] at before
      omega
    have perm := (sortByStart_perm (pairFrom [] (Tag.named tags name))).filterMap (·.closing)
    exact perm.nodup_iff.mpr (distinct.sublist (closings_sublist _ _))
  · intro element member closing closed
    exact closing_mem_of_mem_pair ordered member closed
  · intro length bound
    rw [partnersEq]
    exact partnered_apart ordered bound

def looseTags : List Tag :=
  Tag.scan "</b><b><i><b/></i><b></i></b></b></b><b><b></b>".toList

theorem pair_matches_brackets_of_loose_tags :
    Tag.Ordered looseTags ∧
      (pair looseTags "b").map (fun element =>
        (element.start, element.closing.map (·.span.start))) =
          [(4, some 29), (18, some 25), (37, none), (40, some 43)] ∧
      Matching looseTags "b" (pair looseTags "b") ∧
      pair (looseTags.filter fun tag => tag.name == "b" && tag.isPaired) "b" =
        pair looseTags "b" := by
  have ordered : Tag.Ordered looseTags := Tag.scan_ordered _
  exact ⟨ordered, by decide +kernel, pair_matches_brackets ordered "b"⟩

end Element

end PageCheck
