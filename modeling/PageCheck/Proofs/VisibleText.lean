import Mathlib.Data.List.TakeWhile
import PageCheck.Markup.Content
import PageCheck.Proofs.Excerpts

/-! White space at the ends of a fragment.  It is no part of a tag or a comment, so
a fragment and what is left of it after trimming have the same tags and the same
visible text. -/

set_option autoImplicit false

namespace PageCheck

/-! ### Trimming -/

namespace Text

theorem allBlank_iff {text : List Char} :
    allBlank text = true ↔ ∀ char ∈ text, isBlank char = true := by
  unfold allBlank
  rw [List.all_eq_true]

theorem trimEndWhere_append {drop : Char → Bool} {trail : List Char}
    (dropped : ∀ char ∈ trail, drop char = true) (text : List Char) :
    trimEndWhere drop (text ++ trail) = trimEndWhere drop text := by
  have empty : trimEndWhere drop trail = [] := by
    induction trail with
    | nil => rfl
    | cons char rest ih =>
        have tail := ih fun other member => dropped other (List.mem_cons_of_mem _ member)
        unfold trimEndWhere at tail ⊢
        rw [List.foldr_cons, tail, dropped char List.mem_cons_self]
        rfl
  unfold trimEndWhere at empty ⊢
  rw [List.foldr_append, empty]

theorem trimEndWhere_behind {drop : Char → Bool} {last : Char} (kept : drop last = false)
    (front text : List Char) :
    trimEndWhere drop (front ++ last :: text) = front ++ last :: trimEndWhere drop text := by
  unfold trimEndWhere
  induction front with
  | nil =>
      rw [List.nil_append, List.nil_append, List.foldr_cons, kept, Bool.and_false]
      rfl
  | cons char front ih =>
      rw [List.cons_append, List.foldr_cons, ih]
      simp

theorem trimEndWhere_concat {drop : Char → Bool} {last : Char} (kept : drop last = false)
    (front : List Char) : trimEndWhere drop (front ++ [last]) = front ++ [last] :=
  trimEndWhere_behind kept front []

theorem trimEndWhere_parts (drop : Char → Bool) (text : List Char) :
    ∃ trail, text = trimEndWhere drop text ++ trail ∧ ∀ char ∈ trail, drop char = true := by
  induction text with
  | nil => exact ⟨[], rfl, fun _ absent => by cases absent⟩
  | cons char rest ih =>
      obtain ⟨trail, restEq, dropped⟩ := ih
      have step : trimEndWhere drop (char :: rest) =
          if (trimEndWhere drop rest).isEmpty && drop char then []
          else char :: trimEndWhere drop rest := rfl
      by_cases goes : (trimEndWhere drop rest).isEmpty && drop char
      · rw [step, if_pos goes]
        rw [Bool.and_eq_true, List.isEmpty_iff] at goes
        refine ⟨char :: rest, rfl, ?_⟩
        intro other member
        rcases List.mem_cons.mp member with rfl | later
        · exact goes.2
        · rw [restEq, goes.1, List.nil_append] at later
          exact dropped other later
      · rw [step, if_neg goes]
        exact ⟨trail, by rw [List.cons_append, ← restEq], dropped⟩

theorem trim_append {lead trail : List Char} (leading : allBlank lead = true)
    (trailing : allBlank trail = true) (text : List Char) :
    trim (lead ++ (text ++ trail)) = trim text := by
  have leadingChars := allBlank_iff.mp leading
  have trailingChars := allBlank_iff.mp trailing
  unfold trim trimStart trimEnd
  rw [List.dropWhile_append_of_pos leadingChars]
  by_cases blank : allBlank text = true
  · have textChars := allBlank_iff.mp blank
    have none : ∀ chars : List Char, (∀ char ∈ chars, isBlank char = true) →
        chars.dropWhile isBlank = [] := by
      intro chars all
      rw [List.dropWhile_eq_nil_iff]
      exact all
    rw [List.dropWhile_append_of_pos textChars, none trail trailingChars, none text textChars]
  · have stays : text.dropWhile isBlank ≠ [] := by
      intro empty
      exact blank (allBlank_iff.mpr (List.dropWhile_eq_nil_iff.mp empty))
    rw [List.dropWhile_append]
    rw [if_neg (by simpa using stays)]
    exact trimEndWhere_append trailingChars _

theorem trim_parts (text : List Char) :
    ∃ lead trail, text = lead ++ (trim text ++ trail) ∧ allBlank lead = true ∧
      allBlank trail = true := by
  obtain ⟨trail, restEq, dropped⟩ := trimEndWhere_parts isBlank (text.dropWhile isBlank)
  refine ⟨text.takeWhile isBlank, trail, ?_, List.all_takeWhile, allBlank_iff.mpr dropped⟩
  unfold trim trimEnd trimStart
  rw [← restEq, List.takeWhile_append_dropWhile]

theorem mem_of_mem_trim {text : List Char} {char : Char} (member : char ∈ trim text) :
    char ∈ text := by
  obtain ⟨lead, trail, textEq, -, -⟩ := trim_parts text
  rw [textEq]
  exact List.mem_append_right _ (List.mem_append_left _ member)

theorem not_mem_of_allBlank {text : List Char} (blank : allBlank text = true) {char : Char}
    (visible : isBlank char = false) : char ∉ text := by
  intro member
  rw [allBlank_iff.mp blank char member] at visible
  cases visible

theorem isBlank_bracket : isBlank '<' = false := rfl

theorem isBlank_closingBracket : isBlank '>' = false := rfl

theorem trim_eq_nil_iff {text : List Char} : trim text = [] ↔ allBlank text = true := by
  constructor
  · intro empty
    obtain ⟨lead, trail, textEq, leading, trailing⟩ := trim_parts text
    rw [textEq, empty, List.nil_append, allBlank, List.all_append]
    exact Bool.and_eq_true_iff.mpr ⟨leading, trailing⟩
  · intro blank
    have cut := trim_append blank (show allBlank [] = true from rfl) []
    rw [List.nil_append, List.append_nil] at cut
    exact cut.trans rfl

end Text

/-! ### Blank ends -/

/-- Blank text does not take part in any markup. -/
theorem Pattern.Bracketed.blank_seams {α : Type} {pattern : Pattern α}
    (brackets : pattern.Bracketed) {lead trail : List Char}
    (leading : Text.allBlank lead = true) (trailing : Text.allBlank trail = true)
    (text : List Char) :
    pattern.Seam lead (text ++ trail) ∧ pattern.Seam text trail := by
  have opens := Text.not_mem_of_allBlank leading Text.isBlank_bracket
  have closes := Text.not_mem_of_allBlank trailing Text.isBlank_closingBracket
  refine ⟨?_, brackets.seam (brackets.uncut_of_not_mem_right closes)⟩
  unfold Pattern.Seam
  rw [brackets.pieces_of_not_mem_left opens, brackets.pieces_of_not_mem opens]

theorem Pattern.Bracketed.erase_of_not_mem {α : Type} {pattern : Pattern α}
    (brackets : pattern.Bracketed) {text : List Char} (free : '<' ∉ text) :
    pattern.erase text = text :=
  Pattern.erase_of_pieces_plain (brackets.pieces_of_not_mem free)

theorem Pattern.Bracketed.erase_blank_ends {α : Type} {pattern : Pattern α}
    (brackets : pattern.Bracketed) {lead trail : List Char}
    (leading : Text.allBlank lead = true) (trailing : Text.allBlank trail = true)
    (text : List Char) :
    pattern.erase (lead ++ (text ++ trail)) = lead ++ (pattern.erase text ++ trail) := by
  obtain ⟨left, right⟩ := brackets.blank_seams leading trailing text
  have leadFree := Text.not_mem_of_allBlank leading Text.isBlank_bracket
  have trailFree := Text.not_mem_of_allBlank trailing Text.isBlank_bracket
  rw [left.erase, right.erase, brackets.erase_of_not_mem leadFree,
    brackets.erase_of_not_mem trailFree]

namespace Content

theorem visible_of_not_mem {fragment : List Char} (free : '<' ∉ fragment) :
    visible fragment = Text.trim fragment := by
  unfold visible Comment.strip
  rw [Comment.bracketed.erase_of_not_mem free, TagText.bracketed.erase_of_not_mem free]

theorem isBlank_of_not_mem {fragment : List Char} (free : '<' ∉ fragment) :
    isBlank fragment = Text.allBlank fragment := by
  unfold isBlank Comment.strip
  rw [Comment.bracketed.erase_of_not_mem free]

/-- Trimming a fragment does not change what is seen of it. -/
theorem visible_trim (fragment : List Char) :
    visible (Text.trim fragment) = visible fragment := by
  obtain ⟨lead, trail, fragmentEq, leading, trailing⟩ := Text.trim_parts fragment
  have stripped : Comment.strip fragment =
      lead ++ (Comment.strip (Text.trim fragment) ++ trail) := by
    conv => lhs; rw [fragmentEq]
    exact Comment.bracketed.erase_blank_ends leading trailing _
  have seen := TagText.bracketed.erase_blank_ends leading trailing
    (Comment.strip (Text.trim fragment))
  unfold visible
  rw [stripped, seen, Text.trim_append leading trailing]

theorem trim_ne_nil_of_visible {fragment : List Char} (seen : visible fragment ≠ []) :
    Text.trim fragment ≠ [] := by
  intro empty
  apply seen
  rw [← visible_trim, empty]
  rfl

end Content

/-- What trimming leaves is an excerpt of a fragment. -/
theorem exists_trim_excerpt (fragment : List Char) :
    ∃ excerpt : Excerpt fragment (Text.trim fragment),
      Tag.scan fragment = (Tag.scan (Text.trim fragment)).map (Tag.shift excerpt.offset) := by
  obtain ⟨lead, trail, fragmentEq, leading, trailing⟩ := Text.trim_parts fragment
  have tags := TagText.bracketed.blank_seams leading trailing (Text.trim fragment)
  have comments := Comment.bracketed.blank_seams leading trailing (Text.trim fragment)
  let excerpt : Excerpt fragment (Text.trim fragment) :=
    ⟨lead, trail, fragmentEq, ⟨tags.1, comments.1⟩, ⟨tags.2, comments.2⟩⟩
  have none : ∀ text : List Char, Text.allBlank text = true → Tag.scan text = [] := by
    intro text blank
    have opens := Text.not_mem_of_allBlank blank Text.isBlank_bracket
    rw [Tag.scan_eq_filter,
      Pattern.findAll_of_pieces_plain (TagText.bracketed.pieces_of_not_mem opens)]
    rfl
  refine ⟨excerpt, ?_⟩
  rw [excerpt.scan_parts]
  simp only [excerpt, none lead leading, none trail trailing, List.map_nil, List.nil_append,
    List.append_nil]

end PageCheck
