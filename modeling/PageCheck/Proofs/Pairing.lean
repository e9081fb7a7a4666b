import PageCheck.Markup.Element
import PageCheck.Proofs.Scanning

/-! Pairing.  The elements of a name have as opening tags just the opening tags of
that name, in their order, and a closing tag stands behind the opening tag that it
closes.  Which tags belong together is decided between them: a closed element of
some of the tags that follow one another is an element of all the tags. -/

set_option autoImplicit false

namespace PageCheck

namespace Tag

theorem isOpening_iff {tag : Tag} : tag.isOpening = true ↔ tag.kind = .opening := by
  unfold isOpening
  rw [decide_eq_true_eq]

theorem isClosing_iff {tag : Tag} : tag.isClosing = true ↔ tag.kind = .closing := by
  unfold isClosing
  rw [decide_eq_true_eq]

theorem mem_named {tags : List Tag} {name : String} {tag : Tag} :
    tag ∈ named tags name ↔ tag ∈ tags ∧ tag.name = name := by
  unfold named
  rw [List.mem_filter, beq_iff_eq]

theorem named_append (first second : List Tag) (name : String) :
    named (first ++ second) name = named first name ++ named second name :=
  List.filter_append _ _

theorem named_cons_of_eq {tag : Tag} {name : String} (same : tag.name = name) (rest : List Tag) :
    named (tag :: rest) name = tag :: named rest name :=
  List.filter_cons_of_pos (by simpa using same)

theorem named_cons_of_ne {tag : Tag} {name : String} (differs : tag.name ≠ name)
    (rest : List Tag) : named (tag :: rest) name = named rest name :=
  List.filter_cons_of_neg (by simpa using differs)

theorem named_shift (count : Nat) (tags : List Tag) (name : String) :
    named (tags.map (shift count)) name = (named tags name).map (shift count) := by
  unfold named
  rw [List.filter_map]
  rfl

theorem Ordered.sublist {tags kept : List Tag} (ordered : Ordered tags)
    (sublist : kept.Sublist tags) : Ordered kept :=
  have mapped := sublist.map (·.span)
  ⟨ordered.1.sublist mapped, fun span member => ordered.2 span (mapped.subset member)⟩

theorem Ordered.named {tags : List Tag} (ordered : Ordered tags) (name : String) :
    Ordered (named tags name) :=
  ordered.sublist List.filter_sublist

theorem Ordered.filled {tags : List Tag} (ordered : Ordered tags) {tag : Tag}
    (member : tag ∈ tags) : tag.span.start < tag.span.stop :=
  ordered.2 tag.span (List.mem_map.mpr ⟨tag, member, rfl⟩)

theorem Ordered.pairwise {tags : List Tag} (ordered : Ordered tags) :
    tags.Pairwise fun earlier later => earlier.span.stop ≤ later.span.start :=
  List.pairwise_map.mp ordered.1

theorem Ordered.apart {tags : List Tag} (ordered : Ordered tags) {tag other : Tag}
    (member : tag ∈ tags) (present : other ∈ tags) :
    tag = other ∨ tag.span.stop ≤ other.span.start ∨ other.span.stop ≤ tag.span.start := by
  let Apart (left right : Tag) : Prop :=
    left = right ∨ left.span.stop ≤ right.span.start ∨ right.span.stop ≤ left.span.start
  have follow : tags.Pairwise Apart := ordered.pairwise.imp fun before => Or.inr (Or.inl before)
  have turned : tags.Pairwise fun left right => Apart right left :=
    ordered.pairwise.imp fun before => Or.inr (Or.inr before)
  have same : ∀ tag ∈ tags, Apart tag tag := fun _ _ => Or.inl rfl
  exact follow.forall_of_forall_of_flip same turned member present

theorem Ordered.append {first second : List Tag} (ordered : Ordered (first ++ second))
    {earlier later : Tag} (member : earlier ∈ first) (present : later ∈ second) :
    earlier.span.stop ≤ later.span.start :=
  (List.pairwise_append.mp ordered.pairwise).2.2 earlier member later present

end Tag

namespace Element

/-! ### Order -/

private theorem insertByStart_perm (element : Element) (elements : List Element) :
    (insertByStart element elements).Perm (element :: elements) := by
  induction elements with
  | nil => exact List.Perm.refl _
  | cons next rest ih =>
      rw [insertByStart]
      split
      · exact List.Perm.refl _
      · exact (ih.cons next).trans (List.Perm.swap element next rest)

theorem sortByStart_perm (elements : List Element) : (sortByStart elements).Perm elements := by
  induction elements with
  | nil => exact List.Perm.refl _
  | cons element rest ih =>
      exact (insertByStart_perm element (sortByStart rest)).trans (ih.cons element)

theorem mem_sortByStart {elements : List Element} {element : Element} :
    element ∈ sortByStart elements ↔ element ∈ elements :=
  (sortByStart_perm elements).mem_iff

private theorem insertByStart_rising {element : Element} {elements : List Element}
    (rising : elements.Pairwise fun earlier later => earlier.start ≤ later.start) :
    (insertByStart element elements).Pairwise fun earlier later =>
      earlier.start ≤ later.start := by
  induction elements with
  | nil => exact List.pairwise_singleton _ element
  | cons next rest ih =>
      obtain ⟨first, restRising⟩ := List.pairwise_cons.mp rising
      rw [insertByStart]
      split
      · rename_i before
        refine List.pairwise_cons.mpr ⟨?_, rising⟩
        intro other member
        rcases List.mem_cons.mp member with rfl | later
        · exact before
        · exact Nat.le_trans before (first other later)
      · rename_i behind
        refine List.pairwise_cons.mpr ⟨?_, ih restRising⟩
        intro other member
        rcases List.mem_cons.mp ((insertByStart_perm element rest).mem_iff.mp member) with
          rfl | later
        · omega
        · exact first other later

theorem sortByStart_rising (elements : List Element) :
    (sortByStart elements).Pairwise fun earlier later => earlier.start ≤ later.start := by
  induction elements with
  | nil => exact List.Pairwise.nil
  | cons element rest ih => exact insertByStart_rising ih

/-- Elements that all begin at different places have one order only. -/
theorem sortByStart_eq_of_perm {elements sorted : List Element}
    (perm : elements.Perm sorted)
    (rising : sorted.Pairwise fun earlier later => earlier.start < later.start) :
    sortByStart elements = sorted := by
  refine ((sortByStart_perm elements).trans perm).eq_of_pairwise ?_
    (sortByStart_rising elements) (rising.imp Nat.le_of_lt)
  intro first second member present le ge
  have inSorted := perm.mem_iff.mp (mem_sortByStart.mp member)
  have same : ∀ other ∈ sorted, first.start = other.start → first = other := by
    clear le ge present member perm
    induction rising with
    | nil => cases inSorted
    | @cons head rest before _ ih =>
        intro other otherMember starts
        rcases List.mem_cons.mp inSorted with rfl | later <;>
          rcases List.mem_cons.mp otherMember with rfl | otherLater
        · rfl
        · have := before other otherLater
          omega
        · have := before first later
          omega
        · exact ih later other otherLater starts
  exact same second present (by omega)

theorem rising_of_openings {elements : List Element}
    (ordered : Tag.Ordered (elements.map (·.opening))) :
    elements.Pairwise fun earlier later => earlier.start < later.start := by
  refine (List.pairwise_map.mp ordered.pairwise).imp_of_mem ?_
  intro earlier later member _ before
  have filled := ordered.filled (List.mem_map.mpr ⟨earlier, member, rfl⟩)
  exact Nat.lt_of_lt_of_le filled before

/-! ### The steps of pairing -/

theorem pairFrom_opening {openTags rest : List Tag} {tag : Tag} (kind : tag.kind = .opening) :
    pairFrom openTags (tag :: rest) = pairFrom (tag :: openTags) rest := by
  simp only [pairFrom, kind]

theorem pairFrom_selfClosing {openTags rest : List Tag} {tag : Tag}
    (kind : tag.kind = .selfClosing) :
    pairFrom openTags (tag :: rest) = pairFrom openTags rest := by
  simp only [pairFrom, kind]

theorem pairFrom_stray {rest : List Tag} {tag : Tag} (kind : tag.kind = .closing) :
    pairFrom [] (tag :: rest) = pairFrom [] rest := by
  simp only [pairFrom, kind]

theorem pairFrom_closing {innermost tag : Tag} {outer rest : List Tag}
    (kind : tag.kind = .closing) :
    pairFrom (innermost :: outer) (tag :: rest) = ⟨innermost, some tag⟩ :: pairFrom outer rest := by
  simp only [pairFrom, kind]

/-! ### Opening and closing tags of the elements -/

/-- Every opening tag makes one element. -/
theorem pairFrom_openings (openTags tags : List Tag) :
    ((pairFrom openTags tags).map (·.opening)).Perm (openTags ++ tags.filter Tag.isOpening) := by
  induction tags generalizing openTags with
  | nil =>
      rw [pairFrom, List.map_map, List.filter_nil, List.append_nil]
      have same : ((fun element : Element => element.opening) ∘ fun tag => ⟨tag, none⟩) =
          (id : Tag → Tag) := rfl
      rw [same, List.map_id]
      exact List.reverse_perm openTags
  | cons tag rest ih =>
      cases kind : tag.kind with
      | opening =>
          rw [pairFrom_opening kind, List.filter_cons_of_pos (Tag.isOpening_iff.mpr kind)]
          exact (ih (tag :: openTags)).trans List.perm_middle.symm
      | selfClosing =>
          rw [pairFrom_selfClosing kind, List.filter_cons_of_neg (by simp [Tag.isOpening, kind])]
          exact ih openTags
      | closing =>
          rw [List.filter_cons_of_neg (by simp [Tag.isOpening, kind])]
          cases openTags with
          | nil =>
              rw [pairFrom_stray kind]
              exact ih []
          | cons innermost outer =>
              rw [pairFrom_closing kind, List.map_cons, List.cons_append]
              exact (ih outer).cons innermost

private theorem pairFrom_behind {openTags tags : List Tag}
    (follow : tags.Pairwise fun earlier later => earlier.span.stop ≤ later.span.start)
    (before : ∀ earlier ∈ openTags, ∀ later ∈ tags, earlier.span.stop ≤ later.span.start)
    {element : Element} (member : element ∈ pairFrom openTags tags) {closing : Tag}
    (closed : element.closing = some closing) :
    closing ∈ tags ∧ closing.kind = .closing ∧
      element.opening.span.stop ≤ closing.span.start := by
  induction tags generalizing openTags with
  | nil =>
      obtain ⟨tag, -, rfl⟩ := List.mem_map.mp member
      cases closed
  | cons tag rest ih =>
      obtain ⟨first, restFollow⟩ := List.pairwise_cons.mp follow
      have restBefore : ∀ earlier ∈ openTags, ∀ later ∈ rest,
          earlier.span.stop ≤ later.span.start :=
        fun earlier present later behind =>
          before earlier present later (List.mem_cons_of_mem _ behind)
      cases kind : tag.kind with
      | opening =>
          rw [pairFrom_opening kind] at member
          have pushed : ∀ earlier ∈ tag :: openTags, ∀ later ∈ rest,
              earlier.span.stop ≤ later.span.start := by
            intro earlier present later behind
            rcases List.mem_cons.mp present with rfl | older
            · exact first later behind
            · exact restBefore earlier older later behind
          obtain ⟨inRest, isClosing, behind⟩ := ih restFollow pushed member
          exact ⟨List.mem_cons_of_mem _ inRest, isClosing, behind⟩
      | selfClosing =>
          rw [pairFrom_selfClosing kind] at member
          obtain ⟨inRest, isClosing, behind⟩ := ih restFollow restBefore member
          exact ⟨List.mem_cons_of_mem _ inRest, isClosing, behind⟩
      | closing =>
          cases openTags with
          | nil =>
              rw [pairFrom_stray kind] at member
              obtain ⟨inRest, isClosing, behind⟩ := ih restFollow restBefore member
              exact ⟨List.mem_cons_of_mem _ inRest, isClosing, behind⟩
          | cons innermost outer =>
              rw [pairFrom_closing kind] at member
              rcases List.mem_cons.mp member with rfl | later
              · have same : tag = closing := Option.some.inj closed
                rw [← same]
                exact ⟨List.mem_cons_self, kind,
                  before innermost List.mem_cons_self tag List.mem_cons_self⟩
              · obtain ⟨inRest, isClosing, behind⟩ := ih restFollow
                  (fun earlier present => restBefore earlier (List.mem_cons_of_mem _ present))
                  later
                exact ⟨List.mem_cons_of_mem _ inRest, isClosing, behind⟩

theorem opening_mem_of_mem_pair {tags : List Tag} {name : String} {element : Element}
    (member : element ∈ pair tags name) :
    element.opening ∈ tags ∧ element.opening.name = name ∧ element.opening.kind = .opening := by
  have opening : element.opening ∈ (pairFrom [] (Tag.named tags name)).map (·.opening) :=
    List.mem_map.mpr ⟨element, mem_sortByStart.mp member, rfl⟩
  have present := (pairFrom_openings [] (Tag.named tags name)).mem_iff.mp opening
  rw [List.nil_append, List.mem_filter, Tag.mem_named] at present
  exact ⟨present.1.1, present.1.2, Tag.isOpening_iff.mp present.2⟩

theorem mem_pair_of_single {tags : List Tag} {name : String} {element : Element}
    (single : pair tags name = [element]) : element ∈ pair tags name := by
  rw [single]
  exact List.mem_singleton_self element

theorem first?_of_pair {tags : List Tag} {name : String} {element : Element}
    (single : pair tags name = [element]) : first? tags name = some element := by
  unfold first?
  rw [single]
  rfl

theorem closing_mem_of_mem_pair {tags : List Tag} (ordered : Tag.Ordered tags) {name : String}
    {element : Element} (member : element ∈ pair tags name) {closing : Tag}
    (closed : element.closing = some closing) :
    closing ∈ tags ∧ closing.name = name ∧ closing.kind = .closing ∧
      element.opening.span.stop ≤ closing.span.start := by
  have follow := (ordered.named name).pairwise
  obtain ⟨present, isClosing, behind⟩ :=
    pairFrom_behind follow (fun _ absent => by cases absent) (mem_sortByStart.mp member) closed
  obtain ⟨inTags, named⟩ := Tag.mem_named.mp present
  exact ⟨inTags, named, isClosing, behind⟩

/-- A range holds a closed element just when it holds both its tags. -/
theorem encloses_outerSpan_iff {tags : List Tag} (ordered : Tag.Ordered tags) {name : String}
    {element : Element} (member : element ∈ pair tags name) {closing : Tag}
    (closed : element.closing = some closing) (outer : Span) (length : Nat) :
    outer.encloses (element.outerSpan length) = true ↔
      outer.encloses element.opening.span = true ∧ outer.encloses closing.span = true := by
  obtain ⟨closes, -, -, behind⟩ := closing_mem_of_mem_pair ordered member closed
  have opens := ordered.filled (opening_mem_of_mem_pair member).1
  have filled := ordered.filled closes
  rw [Span.encloses_iff, Span.encloses_iff, Span.encloses_iff]
  simp only [outerSpan, start, closed]
  omega

theorem pair_openings {tags : List Tag} (ordered : Tag.Ordered tags) (name : String) :
    (pair tags name).map (·.opening) = (Tag.named tags name).filter Tag.isOpening := by
  have perm : ((pair tags name).map (·.opening)).Perm
      ((Tag.named tags name).filter Tag.isOpening) :=
    ((sortByStart_perm _).map _).trans (pairFrom_openings [] (Tag.named tags name))
  have kept : Tag.Ordered ((Tag.named tags name).filter Tag.isOpening) :=
    (ordered.named name).sublist List.filter_sublist
  let Rises (earlier later : Tag) : Prop := earlier.span.start ≤ later.span.start
  have sorted : ((pair tags name).map (·.opening)).Pairwise Rises :=
    List.pairwise_map.mpr (sortByStart_rising _)
  have rising : ((Tag.named tags name).filter Tag.isOpening).Pairwise Rises := by
    refine kept.pairwise.imp_of_mem ?_
    intro earlier later member _ before
    have filled := kept.filled member
    exact Nat.le_trans (Nat.le_of_lt filled) before
  refine perm.eq_of_pairwise ?_ sorted rising
  intro first second member present le ge
  have inKept := perm.mem_iff.mp member
  have firstFilled := kept.filled inKept
  have secondFilled := kept.filled present
  have firstLe : first.span.start ≤ second.span.start := le
  have secondLe : second.span.start ≤ first.span.start := ge
  rcases kept.apart inKept present with same | before | behind
  · exact same
  · omega
  · omega

/-! ### Parts of the tags -/

private theorem closed_mem_pairFrom_append {openTags tags : List Tag} {element : Element}
    (member : element ∈ pairFrom openTags tags) (closed : element.isClosed = true)
    (more : List Tag) : element ∈ pairFrom openTags (tags ++ more) := by
  induction tags generalizing openTags with
  | nil =>
      obtain ⟨tag, -, rfl⟩ := List.mem_map.mp member
      cases closed
  | cons tag rest ih =>
      rw [List.cons_append]
      cases kind : tag.kind with
      | opening =>
          rw [pairFrom_opening kind] at member ⊢
          exact ih member
      | selfClosing =>
          rw [pairFrom_selfClosing kind] at member ⊢
          exact ih member
      | closing =>
          cases openTags with
          | nil =>
              rw [pairFrom_stray kind] at member ⊢
              exact ih member
          | cons innermost outer =>
              rw [pairFrom_closing kind] at member ⊢
              rcases List.mem_cons.mp member with rfl | later
              · exact List.mem_cons_self
              · exact List.mem_cons_of_mem _ (ih later)

private theorem closed_mem_pairFrom_below {openTags tags : List Tag} {element : Element}
    (member : element ∈ pairFrom openTags tags) (closed : element.isClosed = true)
    (below : List Tag) : element ∈ pairFrom (openTags ++ below) tags := by
  induction tags generalizing openTags below with
  | nil =>
      obtain ⟨tag, -, rfl⟩ := List.mem_map.mp member
      cases closed
  | cons tag rest ih =>
      cases kind : tag.kind with
      | opening =>
          rw [pairFrom_opening kind] at member ⊢
          exact ih member below
      | selfClosing =>
          rw [pairFrom_selfClosing kind] at member ⊢
          exact ih member below
      | closing =>
          cases openTags with
          | cons innermost outer =>
              rw [List.cons_append, pairFrom_closing kind]
              rw [pairFrom_closing kind] at member
              rcases List.mem_cons.mp member with rfl | later
              · exact List.mem_cons_self
              · exact List.mem_cons_of_mem _ (ih later below)
          | nil =>
              -- a tag that is stray in the part may close one that was open before
              rw [pairFrom_stray kind] at member
              cases below with
              | nil =>
                  rw [List.nil_append, pairFrom_stray kind]
                  exact ih member []
              | cons innermost outer =>
                  rw [List.nil_append, pairFrom_closing kind]
                  exact List.mem_cons_of_mem _ (ih member outer)

private theorem exists_openTags (openTags before : List Tag) :
    ∃ left, ∀ tags, ∀ element ∈ pairFrom left tags,
      element ∈ pairFrom openTags (before ++ tags) := by
  induction before generalizing openTags with
  | nil => exact ⟨openTags, fun _ _ member => member⟩
  | cons tag rest ih =>
      cases kind : tag.kind with
      | opening =>
          obtain ⟨left, kept⟩ := ih (tag :: openTags)
          refine ⟨left, ?_⟩
          intro tags element member
          rw [List.cons_append, pairFrom_opening kind]
          exact kept tags element member
      | selfClosing =>
          obtain ⟨left, kept⟩ := ih openTags
          refine ⟨left, ?_⟩
          intro tags element member
          rw [List.cons_append, pairFrom_selfClosing kind]
          exact kept tags element member
      | closing =>
          cases openTags with
          | nil =>
              obtain ⟨left, kept⟩ := ih []
              refine ⟨left, ?_⟩
              intro tags element member
              rw [List.cons_append, pairFrom_stray kind]
              exact kept tags element member
          | cons innermost outer =>
              obtain ⟨left, kept⟩ := ih outer
              refine ⟨left, ?_⟩
              intro tags element member
              rw [List.cons_append, pairFrom_closing kind]
              exact List.mem_cons_of_mem _ (kept tags element member)

/-- A closed element of a part of the tags is an element of all of them. -/
theorem closed_mem_pair_of_part {part : List Tag} {name : String} {element : Element}
    (member : element ∈ pair part name) (closed : element.isClosed = true)
    (before after : List Tag) : element ∈ pair (before ++ (part ++ after)) name := by
  obtain ⟨left, kept⟩ := exists_openTags [] (Tag.named before name)
  have inPart := mem_sortByStart.mp member
  have below := closed_mem_pairFrom_below inPart closed left
  rw [List.nil_append] at below
  have longer := closed_mem_pairFrom_append below closed (Tag.named after name)
  apply mem_sortByStart.mpr
  rw [Tag.named_append, Tag.named_append]
  exact kept _ element longer

/-! ### Moving -/

def map (move : Tag → Tag) (element : Element) : Element :=
  ⟨move element.opening, element.closing.map move⟩

section Map

variable (move : Tag → Tag)

private theorem pairFrom_map (kinds : ∀ tag, (move tag).kind = tag.kind)
    (openTags tags : List Tag) :
    pairFrom (openTags.map move) (tags.map move) = (pairFrom openTags tags).map (map move) := by
  induction tags generalizing openTags with
  | nil =>
      rw [List.map_nil, pairFrom, pairFrom, ← List.map_reverse, List.map_map, List.map_map]
      rfl
  | cons tag rest ih =>
      have kindEq := kinds tag
      rw [List.map_cons]
      cases kind : tag.kind with
      | opening =>
          rw [pairFrom_opening (kindEq.trans kind), pairFrom_opening kind, ← List.map_cons, ih]
      | selfClosing =>
          rw [pairFrom_selfClosing (kindEq.trans kind), pairFrom_selfClosing kind, ih]
      | closing =>
          cases openTags with
          | nil =>
              rw [List.map_nil, pairFrom_stray (kindEq.trans kind), pairFrom_stray kind]
              exact ih []
          | cons innermost outer =>
              rw [List.map_cons, pairFrom_closing (kindEq.trans kind), pairFrom_closing kind, ih]
              rfl

private theorem insertByStart_map {element : Element} {elements : List Element}
    (order : ∀ next ∈ elements,
      (element.map move).start ≤ (next.map move).start ↔ element.start ≤ next.start) :
    insertByStart (element.map move) (elements.map (map move)) =
      (insertByStart element elements).map (map move) := by
  induction elements with
  | nil => rfl
  | cons next rest ih =>
      obtain ⟨same, later⟩ := List.forall_mem_cons.mp order
      rw [List.map_cons, insertByStart, insertByStart]
      by_cases before : element.start ≤ next.start
      · rw [if_pos (same.mpr before), if_pos before]
        rfl
      · rw [if_neg (fun le => before (same.mp le)), if_neg before, ih later]
        rfl

theorem sortByStart_map {elements : List Element}
    (order : ∀ element ∈ elements, ∀ next ∈ elements,
      (element.map move).start ≤ (next.map move).start ↔ element.start ≤ next.start) :
    sortByStart (elements.map (map move)) = (sortByStart elements).map (map move) := by
  induction elements with
  | nil => rfl
  | cons element rest ih =>
      have others := ih fun other member next present =>
        order other (List.mem_cons_of_mem _ member) next (List.mem_cons_of_mem _ present)
      have step : insertByStart (element.map move) ((sortByStart rest).map (map move)) =
          (insertByStart element (sortByStart rest)).map (map move) :=
        insertByStart_map move fun next present => order element List.mem_cons_self next
          (List.mem_cons_of_mem _ (mem_sortByStart.mp present))
      rw [← others] at step
      exact step

/-- What keeps the names, the kinds and the order of tags keeps their elements. -/
theorem pair_map {tags : List Tag} (names : ∀ tag, (move tag).name = tag.name)
    (kinds : ∀ tag, (move tag).kind = tag.kind)
    (order : ∀ tag ∈ tags, ∀ next ∈ tags,
      (move tag).span.start ≤ (move next).span.start ↔ tag.span.start ≤ next.span.start)
    (name : String) : pair (tags.map move) name = (pair tags name).map (map move) := by
  have named : Tag.named (tags.map move) name = (Tag.named tags name).map move := by
    simp only [Tag.named, List.filter_map, Function.comp_def, names]
  have paired := pairFrom_map move kinds [] (Tag.named tags name)
  rw [List.map_nil] at paired
  unfold pair
  rw [named, paired]
  apply sortByStart_map move
  intro element member next present
  have opening {other : Element} (inside : other ∈ pairFrom [] (Tag.named tags name)) :
      other.opening ∈ tags := (opening_mem_of_mem_pair (mem_sortByStart.mpr inside)).1
  exact order _ (opening member) _ (opening present)

end Map

def shift (count : Nat) (element : Element) : Element :=
  ⟨element.opening.shift count, element.closing.map (Tag.shift count)⟩

theorem isClosed_shift (count : Nat) (element : Element) :
    (element.shift count).isClosed = element.isClosed :=
  Option.isSome_map

theorem isClosed_of_shift {count : Nat} {element moved : Element}
    (same : element.shift count = moved) (closed : moved.isClosed = true) :
    element.isClosed = true := by
  rw [← isClosed_shift count, same]
  exact closed

theorem innerSpan_shift {element : Element} (closed : element.isClosed = true)
    (count length longer : Nat) :
    (element.shift count).innerSpan longer = (element.innerSpan length).shift count := by
  obtain ⟨opening, closing⟩ := element
  obtain ⟨tag, rfl⟩ := Option.isSome_iff_exists.mp closed
  simp only [innerSpan, shift, Option.map_some, Tag.shift, Span.shift, Nat.add_max_add_left]

theorem pair_shift (count : Nat) (tags : List Tag) (name : String) :
    pair (tags.map (Tag.shift count)) name = (pair tags name).map (shift count) :=
  pair_map (Tag.shift count) (fun _ => rfl) (fun _ => rfl)
    (fun _ _ _ _ => Nat.add_le_add_iff_left) name

/-! ### A single opening tag -/

private theorem pairFrom_unopened {tags : List Tag}
    (unopened : ∀ tag ∈ tags, tag.kind ≠ .opening) (rest : List Tag) :
    pairFrom [] (tags ++ rest) = pairFrom [] rest := by
  induction tags with
  | nil => rfl
  | cons tag tags ih =>
      have others := ih fun other member => unopened other (List.mem_cons_of_mem _ member)
      rw [List.cons_append]
      cases kind : tag.kind with
      | opening => exact absurd kind (unopened tag List.mem_cons_self)
      | selfClosing => rw [pairFrom_selfClosing kind, others]
      | closing => rw [pairFrom_stray kind, others]

private theorem pairFrom_single {opening : Tag} {tags : List Tag}
    (unopened : ∀ tag ∈ tags, tag.kind ≠ .opening) :
    pairFrom [opening] tags = [⟨opening, tags.find? Tag.isClosing⟩] := by
  induction tags with
  | nil => rfl
  | cons tag rest ih =>
      have restUnopened : ∀ other ∈ rest, other.kind ≠ .opening :=
        fun other member => unopened other (List.mem_cons_of_mem _ member)
      cases kind : tag.kind with
      | opening => exact absurd kind (unopened tag List.mem_cons_self)
      | selfClosing =>
          rw [pairFrom_selfClosing kind, ih restUnopened,
            List.find?_cons_of_neg (by simp [Tag.isClosing, kind])]
      | closing =>
          have none := pairFrom_unopened restUnopened []
          rw [List.append_nil] at none
          rw [pairFrom_closing kind, none, List.find?_cons_of_pos (Tag.isClosing_iff.mpr kind)]
          rfl

/-- The only opening tag of a name makes the only element, closed by the first
closing tag behind it. -/
theorem pair_single {tags : List Tag} (ordered : Tag.Ordered tags) {name : String} {opening : Tag}
    (single : (Tag.named tags name).filter Tag.isOpening = [opening]) :
    pair tags name = [⟨opening, (Tag.named tags name).find? fun tag =>
      tag.isClosing && decide (opening.span.stop ≤ tag.span.start)⟩] := by
  have namedOrdered := ordered.named name
  obtain ⟨before, after, split, unopenedBefore, opens, unopenedAfter⟩ :=
    List.filter_eq_cons_iff.mp single
  have notOpening : ∀ tag : Tag, ¬ tag.isOpening = true → tag.kind ≠ .opening :=
    fun tag unopened kind => unopened (Tag.isOpening_iff.mpr kind)
  have beforeKinds : ∀ tag ∈ before, tag.kind ≠ .opening :=
    fun tag member => notOpening tag (unopenedBefore tag member)
  have afterKinds : ∀ tag ∈ after, tag.kind ≠ .opening :=
    fun tag member => notOpening tag (List.filter_eq_nil_iff.mp unopenedAfter tag member)
  have kind := Tag.isOpening_iff.mp opens
  rw [split] at namedOrdered
  have filled := namedOrdered.filled (List.mem_append_right before List.mem_cons_self)
  have passed : before.find? (fun tag =>
      tag.isClosing && decide (opening.span.stop ≤ tag.span.start)) = none := by
    rw [List.find?_eq_none]
    intro tag member found
    have ends := namedOrdered.append member (List.mem_cons_self (l := after))
    have starts := namedOrdered.filled (List.mem_append_left _ member)
    rw [Bool.and_eq_true, decide_eq_true_eq] at found
    omega
  have behind : after.find? (fun tag =>
      tag.isClosing && decide (opening.span.stop ≤ tag.span.start)) =
      after.find? Tag.isClosing := by
    have follow := List.pairwise_cons.mp
      (List.pairwise_append.mp namedOrdered.pairwise).2.1
    have same : ∀ tag ∈ after,
        (tag.isClosing && decide (opening.span.stop ≤ tag.span.start)) = tag.isClosing := by
      intro tag member
      rw [decide_eq_true (follow.1 tag member), Bool.and_true]
    rw [← List.head?_filter, ← List.head?_filter, List.filter_congr same]
  have notClosing : opening.isClosing = false := by
    simp [Tag.isClosing, kind]
  unfold pair
  rw [split, pairFrom_unopened beforeKinds, pairFrom_opening kind, pairFrom_single afterKinds,
    List.find?_append, passed, Option.none_or, List.find?_cons_of_neg (by simp [notClosing]),
    behind]
  rfl

end Element

end PageCheck
