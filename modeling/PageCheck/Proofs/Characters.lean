import PageCheck.Markup.Tag

/-! The classes of characters that markup distinguishes: which of them exclude
one another, and that lower case neither makes nor removes a bracket. -/

set_option autoImplicit false

namespace PageCheck

namespace Text

private theorem toNat_ofNat {code : Nat} (small : code < 0xD800) :
    (Char.ofNat code).toNat = code := by
  unfold Char.ofNat
  rw [dif_pos (Or.inl small)]
  rfl

theorem lowerChar_cases (char : Char) :
    lowerChar char = char ∨
      (65 ≤ char.toNat ∧ char.toNat ≤ 90 ∧ (lowerChar char).toNat = char.toNat + 32) := by
  unfold lowerChar
  split
  · rename_i capital
    have low : 65 ≤ char.toNat := capital.1
    have high : char.toNat ≤ 90 := capital.2
    exact Or.inr ⟨low, high, toNat_ofNat (by omega)⟩
  · exact Or.inl rfl

theorem toNat_lowerChar (char : Char) :
    (lowerChar char).toNat =
      if 65 ≤ char.toNat ∧ char.toNat ≤ 90 then char.toNat + 32 else char.toNat := by
  unfold lowerChar
  by_cases capital : 'A' ≤ char ∧ char ≤ 'Z'
  · have codes : 65 ≤ char.toNat ∧ char.toNat ≤ 90 := capital
    rw [if_pos capital, if_pos codes, toNat_ofNat (by omega)]
  · have codes : ¬ (65 ≤ char.toNat ∧ char.toNat ≤ 90) := capital
    rw [if_neg capital, if_neg codes]

theorem lowerChar_eq_bracket {char : Char} (lowered : lowerChar char = '<') : char = '<' := by
  rcases lowerChar_cases char with same | ⟨low, high, code⟩
  · rw [← same, lowered]
  · rw [lowered] at code
    have bracket : '<'.toNat = 60 := rfl
    omega

end Text

namespace TagText

theorem isNameChar_iff (char : Char) :
    isNameChar char = true ↔
      (97 ≤ char.toNat ∧ char.toNat ≤ 122) ∨ (65 ≤ char.toNat ∧ char.toNat ≤ 90) ∨
        (48 ≤ char.toNat ∧ char.toNat ≤ 57) ∨ char.toNat = 45 := by
  have dash : char = '-' ↔ char.toNat = 45 :=
    ⟨fun same => by rw [same]; rfl, fun same => Char.ext (UInt32.toNat_inj.mp same)⟩
  unfold isNameChar Text.isAsciiLetter Text.isAsciiDigit
  simp only [Bool.or_eq_true, Bool.and_eq_true, decide_eq_true_eq, beq_iff_eq, or_assoc, dash]
  rfl

theorem isNameChar_of_isAsciiLetter {char : Char} (letter : Text.isAsciiLetter char = true) :
    isNameChar char = true := by
  unfold isNameChar
  rw [letter]
  rfl

theorem isAsciiLetter_iff (char : Char) :
    Text.isAsciiLetter char = true ↔
      (97 ≤ char.toNat ∧ char.toNat ≤ 122) ∨ (65 ≤ char.toNat ∧ char.toNat ≤ 90) := by
  unfold Text.isAsciiLetter
  simp only [Bool.or_eq_true, Bool.and_eq_true, decide_eq_true_eq]
  rfl

theorem isNameChar_of_isBlank {char : Char} (blank : Text.isBlank char = true) :
    isNameChar char = false := by
  rw [Bool.eq_false_iff]
  intro named
  rw [isNameChar_iff] at named
  simp only [Text.isBlank, Bool.or_eq_true, Bool.and_eq_true, decide_eq_true_eq,
    beq_iff_eq] at blank
  omega

end TagText

theorem Text.ne_of_isBlank {char other : Char} (blank : Text.isBlank char = true)
    (visible : Text.isBlank other = false) : char ≠ other := by
  intro same
  rw [same, visible] at blank
  cases blank

end PageCheck
