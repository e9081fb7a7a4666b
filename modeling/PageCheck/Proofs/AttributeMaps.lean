import PageCheck.Markup.Tag

/-! Attribute maps.  The map of a tag has every attribute name once, in the order in
which the names first occur, and each with the value of its first attribute. -/

set_option autoImplicit false

namespace PageCheck

namespace Attribute

def firstValue (entries : List Attribute) (name : String) : String :=
  ((entries.find? (·.name == name)).map valueOrEmpty).getD ""

theorem firstValue_cons_self (entry : Attribute) (rest : List Attribute) :
    firstValue (entry :: rest) entry.name = entry.valueOrEmpty := by
  unfold firstValue
  rw [List.find?_cons_of_pos (by simp)]
  rfl

theorem firstValue_cons_of_ne {entry : Attribute} {name : String} (other : name ≠ entry.name)
    (rest : List Attribute) : firstValue (entry :: rest) name = firstValue rest name := by
  unfold firstValue
  rw [List.find?_cons_of_neg (by simpa using other.symm)]

theorem firstValue_of_mem {entries : List Attribute} (distinct : (entries.map (·.name)).Nodup)
    {entry : Attribute} (member : entry ∈ entries) :
    firstValue entries entry.name = entry.valueOrEmpty := by
  induction entries with
  | nil => cases member
  | cons first rest ih =>
      obtain ⟨fresh, distinct⟩ := List.nodup_cons.mp distinct
      rcases List.mem_cons.mp member with rfl | later
      · exact firstValue_cons_self entry rest
      · have other : entry.name ≠ first.name := fun same =>
          fresh (List.mem_map.mpr ⟨entry, later, same⟩)
        rw [firstValue_cons_of_ne other, ih distinct later]

private def held (kept : List (String × String)) (name : String) : Bool :=
  kept.any (·.1 == name)

private def collect (kept : List (String × String)) (entry : Attribute) :
    List (String × String) :=
  if held kept entry.name then kept else kept ++ [(entry.name, entry.valueOrEmpty)]

private theorem foldl_collect (entries : List Attribute) (kept : List (String × String)) :
    entries.foldl collect kept =
      kept ++ ((entries.filter fun entry => !held kept entry.name).map (·.name)).eraseDups.map
        fun name => (name, firstValue entries name) := by
  induction entries generalizing kept with
  | nil => simp
  | cons entry rest ih =>
      rw [List.foldl_cons, collect]
      cases seen : held kept entry.name with
      | true =>
          rw [if_pos rfl, ih, List.filter_cons_of_neg (by simp [seen])]
          refine congrArg (kept ++ ·) (List.map_congr_left fun name member => ?_)
          obtain ⟨other, present, rfl⟩ := List.mem_map.mp (List.mem_eraseDups.mp member)
          have fresh := (List.mem_filter.mp present).2
          have differs : other.name ≠ entry.name := by
            intro same
            rw [same, seen] at fresh
            cases fresh
          rw [firstValue_cons_of_ne differs]
      | false =>
          have extended (name : String) :
              held (kept ++ [(entry.name, entry.valueOrEmpty)]) name =
                (held kept name || entry.name == name) := by
            simp [held]
          have later : ((rest.filter fun other => !held kept other.name).map (·.name)).filter
              (fun name => !name == entry.name) =
              (rest.filter fun other =>
                !held (kept ++ [(entry.name, entry.valueOrEmpty)]) other.name).map (·.name) := by
            rw [List.filter_map, List.filter_filter]
            refine congrArg (List.map Attribute.name) (List.filter_congr fun other _ => ?_)
            rw [extended, Function.comp_apply, Bool.not_or, Bool.and_comm, Bool.beq_comm]
          rw [if_neg Bool.false_ne_true, ih, List.filter_cons_of_pos (by simp [seen]),
            List.map_cons, List.eraseDups_cons, List.map_cons, firstValue_cons_self, later,
            List.append_assoc, List.singleton_append]
          refine congrArg (kept ++ _ :: ·) (List.map_congr_left fun name member => ?_)
          obtain ⟨other, present, rfl⟩ := List.mem_map.mp (List.mem_eraseDups.mp member)
          have fresh := (List.mem_filter.mp present).2
          have differs : other.name ≠ entry.name := by
            intro same
            rw [extended, same, beq_self_eq_true, Bool.or_true] at fresh
            cases fresh
          rw [firstValue_cons_of_ne differs]

end Attribute

/-- The first attribute of each name wins, and its place counts. -/
theorem Tag.attributeMap_eq (tag : Tag) :
    tag.attributeMap =
      (tag.attributes.map (·.name)).eraseDups.map fun name =>
        (name, Attribute.firstValue tag.attributes name) := by
  have collected := Attribute.foldl_collect tag.attributes []
  have all : tag.attributes.filter (fun entry => !Attribute.held [] entry.name) = tag.attributes :=
    List.filter_eq_self.mpr fun _ _ => rfl
  rw [List.nil_append, all] at collected
  exact collected

private theorem eraseDups_of_nodup {names : List String} (distinct : names.Nodup) :
    names.eraseDups = names := by
  induction names with
  | nil => rfl
  | cons name rest ih =>
      obtain ⟨fresh, distinct⟩ := List.nodup_cons.mp distinct
      have kept : rest.filter (fun other => !other == name) = rest := by
        refine List.filter_eq_self.mpr fun other member => ?_
        have differs : other ≠ name := fun same => fresh (same ▸ member)
        simpa using differs
      rw [List.eraseDups_cons, kept, ih distinct]

theorem Tag.attributeMap_of_nodup {tag : Tag} (distinct : (tag.attributes.map (·.name)).Nodup) :
    tag.attributeMap = tag.attributes.map fun entry => (entry.name, entry.valueOrEmpty) := by
  rw [attributeMap_eq, eraseDups_of_nodup distinct, List.map_map]
  refine List.map_congr_left fun entry member => ?_
  rw [Function.comp_apply, Attribute.firstValue_of_mem distinct member]

end PageCheck
