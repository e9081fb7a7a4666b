import Mathlib.Data.List.Perm.Subperm
import PageCheck.Proofs.AttributeMaps

/-! The views of a tag's attributes.  A name can be looked for in the list of attributes, by
its value, or in the map; all three find the first attribute of the name or none, and the map
lists the names in the order in which they first occur. -/

set_option autoImplicit false

namespace PageCheck

/-- The distinct names of a list, in the order in which they first occur in it. -/
structure FirstOccurrences (names keys : List String) : Prop where
  distinct : keys.Nodup
  same : ∀ name, name ∈ keys ↔ name ∈ names
  rising : keys.Pairwise fun earlier later => names.idxOf earlier < names.idxOf later

/-! ### Names that occur more than once -/

private theorem idxOf_lt_of_filter {keep : String → Bool} {first second : String}
    (firstKept : keep first = true) (secondKept : keep second = true) {names : List String}
    (before : (names.filter keep).idxOf first < (names.filter keep).idxOf second) :
    names.idxOf first < names.idxOf second := by
  induction names with
  | nil => exact before
  | cons name rest ih =>
      by_cases kept : keep name = true
      · rw [List.filter_cons_of_pos kept, List.idxOf_cons, List.idxOf_cons] at before
        rw [List.idxOf_cons, List.idxOf_cons]
        cases atFirst : name == first with
        | true =>
            cases atSecond : name == second with
            | true => simp [atFirst, atSecond] at before
            | false => simp
        | false =>
            cases atSecond : name == second with
            | true => simp [atFirst, atSecond] at before
            | false =>
                simp only [atFirst, atSecond, cond_false] at before ⊢
                exact Nat.succ_lt_succ (ih (Nat.lt_of_succ_lt_succ before))
      · have notFirst : (name == first) = false := by
          rw [beq_eq_false_iff_ne]
          rintro rfl
          exact kept firstKept
        have notSecond : (name == second) = false := by
          rw [beq_eq_false_iff_ne]
          rintro rfl
          exact kept secondKept
        rw [List.filter_cons_of_neg kept] at before
        simp only [List.idxOf_cons, notFirst, notSecond, cond_false]
        exact Nat.succ_lt_succ (ih before)

theorem firstOccurrences_eraseDups (names : List String) :
    FirstOccurrences names names.eraseDups := by
  cases names with
  | nil => exact ⟨List.nodup_nil, fun _ => Iff.rfl, List.Pairwise.nil⟩
  | cons name rest =>
      obtain ⟨distinct, same, rising⟩ :=
        firstOccurrences_eraseDups (rest.filter fun other => !other == name)
      have differs : ∀ key ∈ (rest.filter fun other => !other == name).eraseDups,
          key ≠ name ∧ (!key == name) = true := by
        intro key member
        have kept := (List.mem_filter.mp ((same key).mp member)).2
        exact ⟨by simpa using kept, kept⟩
      refine ⟨?_, fun key => List.mem_eraseDups, ?_⟩
      · rw [List.eraseDups_cons, List.nodup_cons]
        exact ⟨fun member => (differs name member).1 rfl, distinct⟩
      · rw [List.eraseDups_cons, List.pairwise_cons]
        constructor
        · intro key member
          have other : (name == key) = false := by
            simpa using (differs key member).1.symm
          simp [List.idxOf_cons, other]
        · refine rising.imp_of_mem ?_
          intro earlier later earlierMember laterMember before
          have earlierOther : (name == earlier) = false := by
            simpa using (differs earlier earlierMember).1.symm
          have laterOther : (name == later) = false := by
            simpa using (differs later laterMember).1.symm
          have order := idxOf_lt_of_filter (differs earlier earlierMember).2
            (differs later laterMember).2 before
          simpa [List.idxOf_cons, earlierOther, laterOther] using order
termination_by names.length
decreasing_by
  have shorter := List.length_filter_le (fun other => !other == name) rest
  simp only [List.length_cons]
  omega

theorem FirstOccurrences.length_eq_iff {names keys : List String}
    (first : FirstOccurrences names keys) : keys.length = names.length ↔ names.Nodup := by
  constructor
  · intro same
    have listed : keys ⊆ names := fun name member => (first.same name).mp member
    have within := List.subperm_of_subset first.distinct listed
    have permuted := within.perm_of_length_le (Nat.le_of_eq same.symm)
    exact permuted.nodup_iff.mp first.distinct
  · intro distinct
    exact ((List.perm_ext_iff_of_nodup first.distinct distinct).mpr first.same).length_eq

/-! ### Looking a name up -/

def Attribute.FirstNamed (entries : List Attribute) (name : String) (entry : Attribute) : Prop :=
  ∃ before after, entries = before ++ entry :: after ∧
    (∀ earlier ∈ before, earlier.name ≠ name) ∧ entry.name = name

theorem Attribute.find?_eq_some_iff {entries : List Attribute} {name : String}
    {entry : Attribute} :
    entries.find? (·.name == name) = some entry ↔ FirstNamed entries name entry := by
  rw [List.find?_eq_some_iff_append]
  unfold FirstNamed
  constructor
  · rintro ⟨named, before, after, split, others⟩
    exact ⟨before, after, split, fun earlier member => by simpa using others earlier member,
      eq_of_beq named⟩
  · rintro ⟨before, after, split, others, named⟩
    exact ⟨beq_iff_eq.mpr named, before, after, split,
      fun earlier member => by simpa using others earlier member⟩

private theorem lookup_map (value : String → String) (keys : List String) (name : String) :
    (keys.map fun key => (key, value key)).lookup name =
      if name ∈ keys then some (value name) else none := by
  induction keys with
  | nil => rfl
  | cons key rest ih =>
      rw [List.map_cons, List.lookup_cons]
      by_cases same : name = key
      · simp [same]
      · have other : (name == key) = false := beq_eq_false_iff_ne.mpr same
        rw [other, ih]
        simp [same]

namespace Tag

theorem keys_attributeMap (tag : Tag) :
    tag.attributeMap.map Prod.fst = (tag.attributes.map (·.name)).eraseDups := by
  rw [attributeMap_eq, List.map_map]
  exact List.map_id _

theorem hasAttribute_iff (tag : Tag) (name : String) :
    tag.hasAttribute name = true ↔ name ∈ tag.attributes.map (·.name) := by
  unfold hasAttribute
  simp only [List.any_eq_true, beq_iff_eq, List.mem_map]

theorem isSome_attribute?_iff (tag : Tag) (name : String) :
    (tag.attribute? name).isSome = true ↔ name ∈ tag.attributes.map (·.name) := by
  unfold attribute?
  simp only [Option.isSome_map, List.find?_isSome, beq_iff_eq, List.mem_map]

theorem lookup_attributeMap (tag : Tag) (name : String) :
    tag.attributeMap.lookup name = tag.attribute? name := by
  rw [attributeMap_eq, lookup_map]
  simp only [List.mem_eraseDups, ← isSome_attribute?_iff]
  have first : Attribute.firstValue tag.attributes name = (tag.attribute? name).getD "" := rfl
  rw [first]
  cases tag.attribute? name <;> rfl

/-- All views of a tag's attributes agree: a name is found in the list just when it has a
value and just when it is a key of the map, and then the value is that of its first attribute.
The keys are the distinct names in the order in which they first occur. -/
theorem attribute_views_agree (tag : Tag) :
    (∀ name : String,
      (tag.hasAttribute name = true ↔ (tag.attribute? name).isSome = true) ∧
      ((tag.attribute? name).isSome = true ↔ name ∈ tag.attributeMap.map Prod.fst) ∧
      tag.attribute? name = tag.attributeMap.lookup name ∧
      ∀ value, tag.attribute? name = some value ↔
        ∃ entry, Attribute.FirstNamed tag.attributes name entry ∧ entry.valueOrEmpty = value) ∧
    FirstOccurrences (tag.attributes.map (·.name)) (tag.attributeMap.map Prod.fst) ∧
    (tag.attributeMap.length = tag.attributes.length ↔
      (tag.attributes.map (·.name)).Nodup) := by
  have first : FirstOccurrences (tag.attributes.map (·.name)) (tag.attributeMap.map Prod.fst) := by
    rw [keys_attributeMap]
    exact firstOccurrences_eraseDups _
  refine ⟨fun name => ⟨?_, ?_, (tag.lookup_attributeMap name).symm, fun value => ?_⟩, first, ?_⟩
  · rw [hasAttribute_iff, isSome_attribute?_iff]
  · rw [isSome_attribute?_iff, first.same]
  · unfold attribute?
    rw [Option.map_eq_some_iff]
    simp only [Attribute.find?_eq_some_iff]
  · have counted := first.length_eq_iff
    rwa [List.length_map, List.length_map] at counted

end Tag

end PageCheck
