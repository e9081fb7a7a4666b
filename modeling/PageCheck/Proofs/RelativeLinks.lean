import PageCheck.Link.Reference
import PageCheck.Proofs.VisibleText

/-! Relative links.  A text that begins neither with a scheme nor with two slashes is a
reference to a page of the same site, whatever it goes on with: as an address by itself it
fails for want of a base, and from the base it leads to a path, a query and a fragment
behind the authority of the base. -/

set_option autoImplicit false

namespace PageCheck

namespace Text

theorem trim_trim (text : List Char) : trim (trim text) = trim text := by
  obtain ⟨lead, trail, textEq, leading, trailing⟩ := trim_parts text
  have inner := trim_append leading trailing (trim text)
  rw [← textEq] at inner
  exact inner.symm

theorem dropWhile_congr {first second : Char → Bool} {text : List Char}
    (same : ∀ char ∈ text, first char = second char) :
    text.dropWhile first = text.dropWhile second := by
  induction text with
  | nil => rfl
  | cons char rest ih =>
      rw [List.dropWhile_cons, List.dropWhile_cons, same char List.mem_cons_self,
        ih fun other member => same other (List.mem_cons_of_mem _ member)]

theorem trimEndWhere_congr {first second : Char → Bool} {text : List Char}
    (same : ∀ char ∈ text, first char = second char) :
    trimEndWhere first text = trimEndWhere second text := by
  unfold trimEndWhere
  induction text with
  | nil => rfl
  | cons char rest ih =>
      rw [List.foldr_cons, List.foldr_cons, same char List.mem_cons_self,
        ih fun other member => same other (List.mem_cons_of_mem _ member)]

end Text

/-! ### Reading path, query and fragment -/

namespace Trail

theorem readQuery_fragment {front : List Char} (free : '#' ∉ front) (path : Path)
    (query rest : List Char) :
    readQuery path query (front ++ '#' :: rest) =
      { readQuery path query front with fragment := some rest } := by
  induction front generalizing query with
  | nil => rfl
  | cons char front ih =>
      rw [List.mem_cons, not_or] at free
      have other : char ≠ '#' := Ne.symm free.1
      rw [List.cons_append, readQuery, if_neg other, ih free.2, readQuery, if_neg other]

theorem readPath_fragment {front : List Char} (free : '#' ∉ front)
    (segments : List (List Char)) (segment rest : List Char) :
    readPath segments segment (front ++ '#' :: rest) =
      { readPath segments segment front with fragment := some rest } := by
  induction front generalizing segments segment with
  | nil => rfl
  | cons char front ih =>
      rw [List.mem_cons, not_or] at free
      have other : char ≠ '#' := Ne.symm free.1
      rw [List.cons_append, readPath, readPath]
      by_cases slash : SchemeClass.web.isSlash char = true
      · rw [if_pos slash, if_pos slash, ih free.2]
      · rw [if_neg slash, if_neg slash]
        by_cases asks : char = '?'
        · rw [if_pos asks, if_pos asks, readQuery_fragment free.2]
        · rw [if_neg asks, if_neg asks, if_neg other, if_neg other, ih free.2]

/-- A fragment may hold anything, and path and query are read as if it were not there. -/
theorem follow_fragment (base : Trail) {front : List Char} (free : '#' ∉ front)
    (rest : List Char) :
    base.follow (front ++ '#' :: rest) = { base.follow front with fragment := some rest } := by
  cases front with
  | nil => rfl
  | cons char front =>
      have behind : '#' ∉ front := fun member => free (List.mem_cons_of_mem _ member)
      have other : char ≠ '#' := fun same => free (same ▸ List.mem_cons_self)
      rw [List.cons_append, follow, follow]
      by_cases asks : char = '?'
      · rw [if_pos asks, if_pos asks, readQuery_fragment behind]
      · rw [if_neg asks, if_neg asks, if_neg other, if_neg other]
        by_cases slash : SchemeClass.web.isSlash char = true
        · rw [if_pos slash, if_pos slash, readPath_fragment behind]
        · rw [if_neg slash, if_neg slash, ← List.cons_append, readPath_fragment free]

example :
    follow ⟨.segmented ["b".toList, "a".toList], none, none⟩ "../c/%2e/d?x?y#../z#".toList =
      ⟨.segmented ["d".toList, "c".toList], some "x?y".toList, some "../z#".toList⟩ := by
  decide

end Trail

namespace Address

variable {text : List Char}

/-! ### Schemes and authorities -/

/-- The text begins with a letter, then letters, digits, `+`, `-` and `.`, and a colon. -/
def HasScheme (text : List Char) : Prop :=
  ∃ first more rest, text = first :: (more ++ ':' :: rest) ∧ Text.isAsciiLetter first = true ∧
    ∀ char ∈ more, Text.isAsciiLetter char = true ∨ Text.isAsciiDigit char = true ∨
      char = '+' ∨ char = '-' ∨ char = '.'

theorem isSchemeChar_iff {char : Char} :
    isSchemeChar char = true ↔ Text.isAsciiLetter char = true ∨ Text.isAsciiDigit char = true ∨
      char = '+' ∨ char = '-' ∨ char = '.' := by
  unfold isSchemeChar
  simp only [Bool.or_eq_true, beq_iff_eq, or_assoc]

private theorem isSchemeChar_of_isAsciiLetter {char : Char}
    (letter : Text.isAsciiLetter char = true) : isSchemeChar char = true :=
  isSchemeChar_iff.mpr (Or.inl letter)

theorem hasScheme_iff : HasScheme text ↔ (scheme? text).isSome = true := by
  constructor
  · rintro ⟨first, more, rest, rfl, letter, chars⟩
    have all : ∀ char ∈ first :: more, isSchemeChar char = true := List.forall_mem_cons.mpr
      ⟨isSchemeChar_of_isAsciiLetter letter,
        fun char member => isSchemeChar_iff.mpr (chars char member)⟩
    have dropped : (first :: (more ++ ':' :: rest)).dropWhile isSchemeChar = ':' :: rest := by
      rw [← List.cons_append, List.dropWhile_append_of_pos all,
        List.dropWhile_cons_of_neg (by decide)]
    rw [scheme?, if_pos letter, dropped]
    rfl
  · intro found
    cases text with
    | nil => cases found
    | cons first more =>
        rw [scheme?] at found
        split at found
        · rename_i letter
          rw [List.dropWhile_cons_of_pos (isSchemeChar_of_isAsciiLetter letter)] at found
          split at found
          · rename_i rest shape
            refine ⟨first, more.takeWhile isSchemeChar, rest, ?_, letter, ?_⟩
            · rw [← shape, List.takeWhile_append_dropWhile]
            · exact fun char member =>
                isSchemeChar_iff.mp (List.all_eq_true.mp List.all_takeWhile char member)
          · cases found
        · cases found

instance (text : List Char) : Decidable (HasScheme text) :=
  decidable_of_iff _ hasScheme_iff.symm

/-- The text begins with two slashes, forward or backward. -/
def HasTwoSlashes (text : List Char) : Prop :=
  ∃ first second rest, text = first :: second :: rest ∧ (first = '/' ∨ first = '\\') ∧
    (second = '/' ∨ second = '\\')

theorem isSlash_web_iff {char : Char} :
    SchemeClass.web.isSlash char = true ↔ char = '/' ∨ char = '\\' := by
  simp [SchemeClass.isSlash]

theorem hasTwoSlashes_iff : HasTwoSlashes text ↔ 2 ≤ slashes text := by
  unfold slashes
  constructor
  · rintro ⟨first, second, rest, rfl, one, two⟩
    rw [List.takeWhile_cons_of_pos (isSlash_web_iff.mpr one),
      List.takeWhile_cons_of_pos (isSlash_web_iff.mpr two)]
    exact Nat.le_add_left 2 _
  · intro two
    match text with
    | [] => cases two
    | [first] =>
        have short := (List.takeWhile_prefix SchemeClass.web.isSlash (l := [first])).length_le
        rw [List.length_singleton] at short
        omega
    | first :: second :: rest =>
        rw [List.takeWhile_cons] at two
        split at two
        · rename_i one
          rw [List.takeWhile_cons] at two
          split at two
          · rename_i again
            exact ⟨first, second, rest, rfl, isSlash_web_iff.mp one, isSlash_web_iff.mp again⟩
          · rw [List.length_singleton] at two
            omega
        · exact absurd two (by decide)

instance (text : List Char) : Decidable (HasTwoSlashes text) :=
  decidable_of_iff _ hasTwoSlashes_iff.symm

/-! ### References -/

def withoutControls (text : List Char) : List Char :=
  Text.trimEndWhere (fun char => decide (char.toNat < 0x20))
    (text.dropWhile fun char => decide (char.toNat < 0x20))

theorem bare_eq_withoutControls (solid : ∀ char ∈ text, Text.isBlank char = false) :
    bare text = withoutControls text := by
  have same : ∀ char ∈ text, isControlOrSpace char = decide (char.toNat < 0x20) := by
    intro char member
    have noSpace : char.toNat ≠ 0x20 := by
      intro space
      have blank := solid char member
      rw [Text.isBlank, space] at blank
      cases blank
    unfold isControlOrSpace
    exact decide_eq_decide.mpr (by omega)
  unfold bare withoutControls
  rw [Text.dropWhile_congr same]
  exact Text.trimEndWhere_congr fun char member =>
    same char ((List.dropWhile_suffix _).subset member)

/-- Behind less than two slashes there is no part that could be malformed. -/
theorem parse_reference (base : Address) (noScheme : ¬ HasScheme (bare text))
    (noSlashes : ¬ HasTwoSlashes (bare text)) :
    parse (some base) text = .ok { base with trail := base.trail.follow (bare text) } := by
  have unread : scheme? (bare text) = none :=
    Option.not_isSome_iff_eq_none.mp fun found => noScheme (hasScheme_iff.mpr found)
  have few : slashes (bare text) < 2 :=
    Nat.not_le.mp fun two => noSlashes (hasTwoSlashes_iff.mpr two)
  unfold parse ofReference?
  simp only [unread]
  rw [if_pos few]
  rfl

theorem parse_without_base (noScheme : ¬ HasScheme (bare text)) :
    parse none text = .error .withoutBase := by
  have unread : scheme? (bare text) = none :=
    Option.not_isSome_iff_eq_none.mp fun found => noScheme (hasScheme_iff.mpr found)
  unfold parse
  simp only [unread]

end Address

namespace Link

open Address (HasScheme HasTwoSlashes withoutControls)

theorem target_reference {text : List Char} (noScheme : ¬ HasScheme (Address.bare text))
    (noSlashes : ¬ HasTwoSlashes (Address.bare text)) :
    target text = .ok { base with trail := base.trail.follow (Address.bare text) } := by
  unfold target
  rw [Address.parse_without_base noScheme]
  exact Address.parse_reference base noScheme noSlashes

theorem isValid_eq_false {text : String} (unfit : Text.trim text.toList = [] ∨
    ∃ char ∈ Text.trim text.toList, Text.isBlank char = true) : isValid text = false := by
  unfold isValid
  refine if_pos ?_
  rw [Bool.or_eq_true, List.isEmpty_iff, List.any_eq_true]
  exact unfit

theorem isValid_eq_isOk {text : String} (filled : Text.trim text.toList ≠ [])
    (solid : ∀ char ∈ Text.trim text.toList, Text.isBlank char = false) :
    isValid text = (target (Text.trim text.toList)).isOk := by
  unfold isValid
  refine if_neg ?_
  rw [Bool.or_eq_true, List.isEmpty_iff, List.any_eq_true, not_or]
  exact ⟨filled, fun ⟨char, member, blank⟩ => by rw [solid char member] at blank; cases blank⟩

theorem isValid_trim (text : String) :
    isValid (String.ofList (Text.trim text.toList)) = isValid text := by
  unfold isValid
  rw [String.toList_ofList, Text.trim_trim]

/-- White space around a link does not count; a link of nothing else is not valid, nor is one
with white space inside.  Any other link is valid if, apart from the controls at its ends, it
begins neither with a scheme nor with two slashes. -/
theorem relative_links_are_valid (text : String) :
    isValid text = isValid (String.ofList (Text.trim text.toList)) ∧
    ((Text.trim text.toList = [] ∨ ∃ char ∈ Text.trim text.toList, Text.isBlank char = true) →
      isValid text = false) ∧
    (Text.trim text.toList ≠ [] →
      (∀ char ∈ Text.trim text.toList, Text.isBlank char = false) →
      ¬ HasScheme (withoutControls (Text.trim text.toList)) →
      ¬ HasTwoSlashes (withoutControls (Text.trim text.toList)) → isValid text = true) := by
  refine ⟨(isValid_trim text).symm, isValid_eq_false, fun filled solid noScheme noSlashes => ?_⟩
  have core := Address.bare_eq_withoutControls solid
  rw [← core] at noScheme noSlashes
  rw [isValid_eq_isOk filled solid, target_reference noScheme noSlashes]
  rfl

theorem relative_links_are_valid_behind_dots :
    isValid " \x01..\x5C%zz/%2E?é=:#//\x02\n" = true := by
  have trimmed : Text.trim " \x01..\x5C%zz/%2E?é=:#//\x02\n".toList =
      '\x01' :: "..\x5C%zz/%2E?é=:#//\x02".toList := by decide
  have solid : ('\x01' :: "..\x5C%zz/%2E?é=:#//\x02".toList).any Text.isBlank = false := by
    decide
  refine (relative_links_are_valid _).2.2 ?_ ?_ ?_ ?_ <;> rw [trimmed]
  · exact List.cons_ne_nil _ _
  · exact fun char member => Bool.eq_false_iff.mpr (List.any_eq_false.mp solid char member)
  · decide
  · decide

end Link

end PageCheck
