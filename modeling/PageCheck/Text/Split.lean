/-! Texts divided at a separator. -/

set_option autoImplicit false

namespace PageCheck

namespace Text

def splitAt (separator : Char) : List Char → List (List Char)
  | [] => [[]]
  | char :: rest =>
      if char = separator then
        [] :: splitAt separator rest
      else
        match splitAt separator rest with
        | [] => [[char]]
        | part :: parts => (char :: part) :: parts

theorem splitAt_ne_nil (separator : Char) (text : List Char) : splitAt separator text ≠ [] := by
  cases text with
  | nil => simp [splitAt]
  | cons char rest =>
      by_cases same : char = separator
      · simp [splitAt, same]
      · simp only [splitAt, same, if_false]
        split <;> simp

theorem intercalate_splitAt (separator : Char) (text : List Char) :
    [separator].intercalate (splitAt separator text) = text := by
  induction text with
  | nil => simp [splitAt]
  | cons char rest ih =>
      by_cases same : char = separator
      · obtain ⟨part, parts, shape⟩ := List.exists_cons_of_ne_nil (splitAt_ne_nil separator rest)
        simp only [splitAt, same, if_true]
        rw [shape] at ih ⊢
        simpa [List.intercalate] using ih
      · obtain ⟨part, parts, shape⟩ := List.exists_cons_of_ne_nil (splitAt_ne_nil separator rest)
        simp only [splitAt, same, if_false]
        rw [shape] at ih ⊢
        cases parts with
        | nil => simpa [List.intercalate] using ih
        | cons next parts => simpa [List.intercalate] using ih

end Text

end PageCheck
