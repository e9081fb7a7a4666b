import PageCheck.Proofs.Pairing
import PageCheck.Rules.Heading

/-! Elements in a row.  Where each opening tag is followed by the closing tag of its
name before another tag comes, pairing finds the elements in their order, for one
name and for all headings together. -/

set_option autoImplicit false

namespace PageCheck

namespace Element

structure Matched (element : Element) : Prop where
  opens : element.opening.kind = .opening
  closes : ∃ closing, element.closing = some closing ∧ closing.kind = .closing ∧
    closing.name = element.opening.name

def tags (element : Element) : List Tag :=
  element.opening :: element.closing.toList

theorem Matched.isClosed {element : Element} (matched : element.Matched) :
    element.isClosed = true := by
  obtain ⟨closing, closed, -⟩ := matched.closes
  exact Option.isSome_iff_exists.mpr ⟨closing, closed⟩

theorem Matched.openings {element : Element} (matched : element.Matched) :
    element.tags.filter Tag.isOpening = [element.opening] := by
  obtain ⟨closing, closed, closes, -⟩ := matched.closes
  simp [tags, closed, Tag.isOpening, matched.opens, closes]

theorem filter_isPaired {elements : List Element}
    (matched : ∀ element ∈ elements, element.Matched) :
    (elements.flatMap tags).filter Tag.isPaired = elements.flatMap tags := by
  apply List.filter_eq_self.mpr
  intro tag member
  obtain ⟨element, present, own⟩ := List.mem_flatMap.mp member
  obtain ⟨opens, closing, closed, closes, -⟩ := matched element present
  rw [tags, closed] at own
  rcases List.mem_cons.mp own with rfl | last
  · simp [Tag.isPaired, opens]
  · simp [Tag.isPaired, List.mem_singleton.mp last, closes]

theorem filter_tags (wanted : String → Bool) {elements : List Element}
    (matched : ∀ element ∈ elements, element.Matched) :
    (elements.flatMap tags).filter (fun tag => wanted tag.name) =
      (elements.filter fun element => wanted element.opening.name).flatMap tags := by
  induction elements with
  | nil => rfl
  | cons element rest ih =>
      obtain ⟨closing, closed, -, named⟩ := (matched element List.mem_cons_self).closes
      have others := ih fun other member => matched other (List.mem_cons_of_mem _ member)
      rw [List.flatMap_cons, List.filter_append, others, List.filter_cons]
      by_cases listed : wanted element.opening.name = true
      · rw [if_pos listed, List.flatMap_cons]
        simp [tags, closed, named, listed]
      · rw [if_neg listed]
        simp [tags, closed, named, listed]

theorem named_tags (name : String) {elements : List Element}
    (matched : ∀ element ∈ elements, element.Matched) :
    Tag.named (elements.flatMap tags) name =
      (elements.filter fun element => element.opening.name == name).flatMap tags :=
  filter_tags (· == name) matched

theorem pairFrom_tags {elements : List Element}
    (matched : ∀ element ∈ elements, element.Matched) :
    pairFrom [] (elements.flatMap tags) = elements := by
  induction elements with
  | nil => rfl
  | cons element rest ih =>
      obtain ⟨opens, closing, closed, closes, -⟩ := matched element List.mem_cons_self
      have others := ih fun other member => matched other (List.mem_cons_of_mem _ member)
      rw [List.flatMap_cons, tags, closed, Option.toList_some, List.cons_append,
        List.singleton_append, pairFrom_opening opens, pairFrom_closing closes, others, ← closed]

theorem pair_of_named {all : List Tag} {name : String} {element : Element}
    (matched : element.Matched) (named : Tag.named all name = element.tags) :
    pair all name = [element] := by
  have alone : ∀ other ∈ [element], other.Matched := by
    intro other member
    rwa [List.mem_singleton.mp member]
  have found := pairFrom_tags alone
  rw [List.flatMap_cons, List.flatMap_nil, List.append_nil] at found
  unfold pair
  rw [named, found]
  rfl

theorem rising_of_ordered {elements : List Element}
    (ordered : Tag.Ordered (elements.flatMap tags)) :
    elements.Pairwise fun earlier later => earlier.start < later.start := by
  have openings : (elements.map (·.opening)).Sublist (elements.flatMap tags) := by
    clear ordered
    induction elements with
    | nil => exact List.Sublist.refl _
    | cons element rest ih =>
        rw [List.map_cons, List.flatMap_cons, tags, List.cons_append]
        exact (ih.trans (List.sublist_append_right _ _)).cons_cons _
  exact rising_of_openings (ordered.sublist openings)

/-- Tags that are those of elements in a row, as far as the name goes. -/
theorem pair_of_row {all : List Tag} {name : String} {elements : List Element}
    (matched : ∀ element ∈ elements, element.Matched)
    (ordered : Tag.Ordered (elements.flatMap tags))
    (same : Tag.named all name = Tag.named (elements.flatMap tags) name) :
    pair all name = elements.filter fun element => element.opening.name == name := by
  have kept : ∀ element ∈ elements.filter (fun element => element.opening.name == name),
      element.Matched := fun element member => matched element (List.mem_filter.mp member).1
  unfold pair
  rw [same, named_tags name matched, pairFrom_tags kept]
  exact sortByStart_eq_of_perm (List.Perm.refl _)
    ((rising_of_ordered ordered).sublist List.filter_sublist)

private theorem perm_flatMap_filter {names : List String} (distinct : names.Nodup)
    (elements : List Element) :
    (names.flatMap fun name => elements.filter fun element => element.opening.name == name).Perm
      (elements.filter fun element => names.contains element.opening.name) := by
  induction names with
  | nil => simp
  | cons name rest ih =>
      obtain ⟨fresh, restDistinct⟩ := List.nodup_cons.mp distinct
      let listed := elements.filter fun element => (name :: rest).contains element.opening.name
      have here : listed.filter (fun element => element.opening.name == name) =
          elements.filter fun element => element.opening.name == name := by
        rw [List.filter_filter]
        congr 1
        funext element
        by_cases same : element.opening.name = name <;> simp [same]
      have later : listed.filter (fun element => !(element.opening.name == name)) =
          elements.filter fun element => rest.contains element.opening.name := by
        rw [List.filter_filter]
        congr 1
        funext element
        by_cases same : element.opening.name = name <;> simp [same, fresh]
      have parts := List.filter_append_perm (fun element => element.opening.name == name) listed
      rw [here, later] at parts
      rw [List.flatMap_cons]
      exact ((ih restDistinct).append_left _).trans parts

/-- Where each name makes those of the elements that bear it, all the names together make
the elements in their order. -/
theorem sort_pairs_of_each {all : List Tag} {names : List String} (distinct : names.Nodup)
    {elements : List Element} (closed : ∀ element ∈ elements, element.isClosed = true)
    (rising : elements.Pairwise fun earlier later => earlier.start < later.start)
    (each : ∀ name ∈ names,
      pair all name = elements.filter fun element => element.opening.name == name) :
    sortByStart ((names.flatMap (pair all)).filter isClosed) =
      elements.filter fun element => names.contains element.opening.name := by
  have pairs : names.flatMap (pair all) =
      names.flatMap fun name => elements.filter fun element => element.opening.name == name := by
    rw [List.flatMap_def, List.flatMap_def, List.map_congr_left each]
  have allClosed : ∀ element ∈ names.flatMap (pair all), element.isClosed = true := by
    intro element member
    rw [pairs] at member
    obtain ⟨name, -, kept⟩ := List.mem_flatMap.mp member
    exact closed element (List.mem_filter.mp kept).1
  rw [List.filter_eq_self.mpr allClosed, pairs]
  exact sortByStart_eq_of_perm (perm_flatMap_filter distinct elements)
    (rising.sublist List.filter_sublist)

theorem sort_pairs_of_row {all : List Tag} {names : List String} (distinct : names.Nodup)
    {elements : List Element} (matched : ∀ element ∈ elements, element.Matched)
    (ordered : Tag.Ordered (elements.flatMap tags))
    (same : ∀ name ∈ names, Tag.named all name = Tag.named (elements.flatMap tags) name) :
    sortByStart ((names.flatMap (pair all)).filter isClosed) =
      elements.filter fun element => names.contains element.opening.name := by
  apply sort_pairs_of_each distinct
  · exact fun element member => (matched element member).isClosed
  · exact rising_of_ordered ordered
  · exact fun name listed => pair_of_row matched ordered (same name listed)

end Element

namespace Rules

theorem pairHeadingsFrom_tags {elements : List Element}
    (matched : ∀ element ∈ elements, element.Matched) :
    pairHeadingsFrom [] (elements.flatMap Element.tags) = .ok elements := by
  induction elements with
  | nil => rfl
  | cons element rest ih =>
      obtain ⟨opens, closing, closed, closes, named⟩ := matched element List.mem_cons_self
      have others := ih fun other member => matched other (List.mem_cons_of_mem _ member)
      rw [List.flatMap_cons, Element.tags, closed, Option.toList_some, List.cons_append,
        List.singleton_append]
      simp only [pairHeadingsFrom, opens, closes, named, if_true, others, Except.map]
      rw [← closed]

end Rules

end PageCheck
