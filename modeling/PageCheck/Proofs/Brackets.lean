import PageCheck.Markup.Doctype
import PageCheck.Proofs.Characters
import PageCheck.Proofs.Passes

/-! The three patterns of markup.  Comments, document type declarations and tags
all stand between angle brackets, and each is recognised from its own characters
alone: for none of them does it matter what follows the closing bracket.  Beside
this the module says which texts the patterns read. -/

set_option autoImplicit false

namespace PageCheck

/-! ### Comments -/

namespace Comment

def close : List Char := ['-', '-', '>']

theorem throughClose?_close (rest : List Char) : throughClose? (close ++ rest) = some close := rfl

theorem throughClose?_cons {char : Char} {rest : List Char}
    (differs : ¬ close <+: char :: rest) :
    throughClose? (char :: rest) = (throughClose? rest).map (char :: ·) := by
  rw [throughClose?]
  intro behind charEq restEq
  apply differs
  rw [charEq, restEq]
  exact ⟨behind, rfl⟩

/-- Text without `-->` in it can stand inside a comment, also if it ends in dashes. -/
theorem throughClose?_append {body : List Char} (free : ¬ close <:+: body) (rest : List Char) :
    throughClose? (body ++ (close ++ rest)) = some (body ++ close) := by
  induction body with
  | nil => exact throughClose?_close rest
  | cons char body ih =>
      have tailFree : ¬ close <:+: body := fun inside =>
        free (inside.trans (List.suffix_cons _ _).isInfix)
      have differs : ¬ close <+: char :: (body ++ (close ++ rest)) := by
        rintro ⟨behind, same⟩
        simp only [close, List.cons_append, List.nil_append, List.cons.injEq] at same
        obtain ⟨rfl, same⟩ := same
        match body, same with
        | [], same => simp at same
        | [second], same => simp at same
        | second :: third :: body, same =>
            simp only [List.cons_append, List.cons.injEq] at same
            obtain ⟨rfl, rfl, -⟩ := same
            exact free ⟨[], body, rfl⟩
      rw [List.cons_append, throughClose?_cons differs, ih tailFree]
      rfl

theorem throughClose?_eq_some {text body : List Char} (read : throughClose? text = some body) :
    ∃ inner rest, body = inner ++ close ∧ ¬ close <:+: inner ∧ text = body ++ rest := by
  induction text generalizing body with
  | nil => cases read
  | cons char text ih =>
      by_cases here : close <+: char :: text
      · obtain ⟨rest, same⟩ := here
        rw [← same, throughClose?_close, Option.some.injEq] at read
        exact ⟨[], rest, read.symm, by simp [close], by rw [← read, same]⟩
      · rw [throughClose?_cons here] at read
        obtain ⟨tail, tailRead, rfl⟩ := Option.map_eq_some_iff.mp read
        obtain ⟨inner, rest, rfl, free, rfl⟩ := ih tailRead
        refine ⟨char :: inner, rest, rfl, ?_, rfl⟩
        intro inside
        rcases List.infix_cons_iff.mp inside with ⟨behind, same⟩ | deeper
        · apply here
          refine ⟨behind ++ (close ++ rest), ?_⟩
          rw [← List.append_assoc, same, List.cons_append, List.append_assoc]
        · exact free deeper

theorem pattern_comment {body : List Char} (free : ¬ close <:+: body) (rest : List Char) :
    pattern ('<' :: '!' :: '-' :: '-' :: (body ++ (close ++ rest))) =
      some ⟨(), '<' :: '!' :: '-' :: '-' :: (body ++ close)⟩ := by
  rw [pattern, throughClose?_append free]
  rfl

theorem pattern_eq_some {text : List Char} {reading : Reading Unit}
    (read : pattern text = some reading) :
    ∃ body rest, ¬ close <:+: body ∧
      reading.text = '<' :: '!' :: '-' :: '-' :: (body ++ close) ∧
      text = reading.text ++ rest := by
  unfold pattern at read
  split at read
  · obtain ⟨body, bodyRead, rfl⟩ := Option.map_eq_some_iff.mp read
    obtain ⟨inner, rest, rfl, free, rfl⟩ := throughClose?_eq_some bodyRead
    exact ⟨inner, rest, free, rfl, rfl⟩
  · cases read

theorem bracketed : pattern.Bracketed where
  bracketed := by
    intro text reading read
    obtain ⟨body, rest, -, shape, textEq⟩ := pattern_eq_some read
    exact ⟨'!' :: '-' :: '-' :: (body ++ ['-', '-']), rest, by rw [shape]; simp [close], textEq⟩
  settled := by
    intro reading rest other read
    obtain ⟨body, behind, free, shape, -⟩ := pattern_eq_some read
    obtain ⟨value, text⟩ := reading
    subst shape
    have again := pattern_comment free other
    rw [← List.append_assoc] at again
    exact again

end Comment

/-! ### Document type declarations -/

namespace Doctype

theorem throughBracket?_append {body : List Char} (free : '>' ∉ body) (rest : List Char) :
    throughBracket? (body ++ '>' :: rest) = some (body ++ ['>']) := by
  induction body with
  | nil => rfl
  | cons char body ih =>
      rw [List.mem_cons, not_or] at free
      rw [List.cons_append, throughBracket?, if_neg (Ne.symm free.1), ih free.2]
      rfl

theorem throughBracket?_eq_some {text body : List Char} (read : throughBracket? text = some body) :
    ∃ inner rest, body = inner ++ ['>'] ∧ '>' ∉ inner ∧ text = body ++ rest := by
  induction text generalizing body with
  | nil => cases read
  | cons char text ih =>
      rw [throughBracket?] at read
      by_cases here : char = '>'
      · rw [if_pos here, Option.some.injEq] at read
        exact ⟨[], text, read.symm, List.not_mem_nil, by rw [← read, here]; rfl⟩
      · rw [if_neg here] at read
        obtain ⟨tail, tailRead, rfl⟩ := Option.map_eq_some_iff.mp read
        obtain ⟨inner, rest, rfl, free, rfl⟩ := ih tailRead
        exact ⟨char :: inner, rest, rfl, by simp [free, Ne.symm here], rfl⟩

theorem pattern_declaration {head body : List Char} (keyed : Text.lower head = keyword)
    (free : '>' ∉ body) (ends : startsWord (body ++ ['>']) = false) (rest : List Char) :
    pattern (head ++ (body ++ '>' :: rest)) = some ⟨(), head ++ (body ++ ['>'])⟩ := by
  have size : head.length = keyword.length := by
    rw [← keyed, Text.lower, List.length_map]
  have word : startsWord (body ++ '>' :: rest) = false := by
    cases body with
    | nil => exact ends
    | cons char body => exact ends
  unfold pattern
  simp only
  rw [List.take_left' size, List.drop_left' size, if_pos ⟨keyed, word⟩,
    throughBracket?_append free]
  rfl

theorem pattern_eq_some {text : List Char} {reading : Reading Unit}
    (read : pattern text = some reading) :
    ∃ head body rest, Text.lower head = keyword ∧ '>' ∉ body ∧
      startsWord (body ++ ['>']) = false ∧ reading = ⟨(), head ++ (body ++ ['>'])⟩ ∧
      text = reading.text ++ rest := by
  unfold pattern at read
  simp only at read
  split at read
  · rename_i accepted
    obtain ⟨body, bodyRead, rfl⟩ := Option.map_eq_some_iff.mp read
    obtain ⟨inner, rest, rfl, free, restEq⟩ := throughBracket?_eq_some bodyRead
    refine ⟨text.take keyword.length, inner, rest, accepted.1, free, ?_, rfl, ?_⟩
    · rw [restEq] at accepted
      cases inner with
      | nil => exact accepted.2
      | cons char inner => exact accepted.2
    · rw [List.append_assoc, ← restEq, List.take_append_drop]
  · cases read

private theorem opens_of_lower {head : List Char} (keyed : Text.lower head = keyword) :
    ∃ tail, head = '<' :: tail := by
  cases head with
  | nil => cases keyed
  | cons char tail =>
      refine ⟨tail, ?_⟩
      rw [Text.lower, List.map_cons, keyword, List.cons.injEq] at keyed
      rw [Text.lowerChar_eq_bracket keyed.1]

theorem bracketed : pattern.Bracketed where
  bracketed := by
    intro text reading read
    obtain ⟨head, body, rest, keyed, -, -, shape, textEq⟩ := pattern_eq_some read
    obtain ⟨tail, rfl⟩ := opens_of_lower keyed
    exact ⟨tail ++ body, rest, by rw [shape]; simp, textEq⟩
  settled := by
    intro reading rest other read
    obtain ⟨head, body, behind, keyed, free, ends, rfl, -⟩ := pattern_eq_some read
    have again := pattern_declaration keyed free ends other
    rwa [show body ++ '>' :: other = (body ++ ['>']) ++ other by simp, ← List.append_assoc] at again

end Doctype

/-! ### Tags -/

namespace TagText

theorem untilBracket?_eq_some {quote : Option Char} {text body : List Char}
    (read : untilBracket? quote text = some body) :
    (∃ rest, text = body ++ '>' :: rest) ∧
      ∀ other, untilBracket? quote (body ++ '>' :: other) = some body := by
  induction text generalizing quote body with
  | nil => cases quote <;> cases read
  | cons char text ih =>
      cases quote with
      | none =>
          rw [untilBracket?] at read
          by_cases bracket : char = '>'
          · rw [if_pos bracket, Option.some.injEq] at read
            subst read
            exact ⟨⟨text, by rw [bracket]; rfl⟩, fun other => rfl⟩
          · by_cases quoting : char = '\x22' ∨ char = '\x27'
            · rw [if_neg bracket, if_pos quoting] at read
              obtain ⟨tail, tailRead, rfl⟩ := Option.map_eq_some_iff.mp read
              obtain ⟨⟨rest, rfl⟩, again⟩ := ih tailRead
              refine ⟨⟨rest, rfl⟩, ?_⟩
              intro other
              rw [List.cons_append, untilBracket?, if_neg bracket, if_pos quoting, again]
              rfl
            · rw [if_neg bracket, if_neg quoting] at read
              obtain ⟨tail, tailRead, rfl⟩ := Option.map_eq_some_iff.mp read
              obtain ⟨⟨rest, rfl⟩, again⟩ := ih tailRead
              refine ⟨⟨rest, rfl⟩, ?_⟩
              intro other
              rw [List.cons_append, untilBracket?, if_neg bracket, if_neg quoting, again]
              rfl
      | some mark =>
          rw [untilBracket?] at read
          obtain ⟨tail, tailRead, rfl⟩ := Option.map_eq_some_iff.mp read
          obtain ⟨⟨rest, rfl⟩, again⟩ := ih tailRead
          refine ⟨⟨rest, rfl⟩, ?_⟩
          intro other
          rw [List.cons_append, untilBracket?, again]
          rfl

theorem attributes?_cons_of_isBlank {char : Char} (blank : Text.isBlank char = true)
    (rest : List Char) :
    attributes? (char :: rest) = (untilBracket? none rest).map (char :: ·) := by
  unfold attributes?
  split
  · rename_i shape
    cases shape
  · rename_i shape
    cases shape
    cases blank
  · rename_i shape
    cases shape
    cases blank
  · rename_i shape
    cases shape
    rw [if_pos blank]

theorem attributes?_eq_some {text attributes : List Char}
    (read : attributes? text = some attributes) :
    (∃ rest, text = attributes ++ '>' :: rest) ∧
      ∀ other, attributes? (attributes ++ '>' :: other) = some attributes := by
  unfold attributes? at read
  split at read
  · cases read
  · cases read
    exact ⟨⟨_, rfl⟩, fun other => rfl⟩
  · cases read
    exact ⟨⟨_, rfl⟩, fun other => rfl⟩
  · rename_i char rest _ _
    split at read
    · rename_i blank
      obtain ⟨body, bodyRead, rfl⟩ := Option.map_eq_some_iff.mp read
      obtain ⟨⟨behind, rfl⟩, again⟩ := untilBracket?_eq_some bodyRead
      refine ⟨⟨behind, rfl⟩, ?_⟩
      intro other
      rw [List.cons_append, attributes?_cons_of_isBlank blank, again]
      rfl
    · cases read

theorem attributes?_stops {char : Char} {rest attributes : List Char}
    (read : attributes? (char :: rest) = some attributes) : isNameChar char = false := by
  unfold attributes? at read
  split at read
  · cases read
  · rename_i shape
    cases shape
    rfl
  · rename_i shape
    cases shape
    rfl
  · rename_i shape
    cases shape
    split at read
    · rename_i blank
      exact isNameChar_of_isBlank blank
    · cases read

/-- A tag whose parts are what reading its text gives back. -/
structure Proper (tag : TagText) : Prop where
  named : ∃ first more, tag.name = first :: more ∧ Text.isAsciiLetter first = true ∧
    ∀ char ∈ more, isNameChar char = true
  attributed : ∀ rest, attributes? (tag.attributes ++ '>' :: rest) = some tag.attributes

private theorem named?_append {tag : TagText} (proper : tag.Proper) (rest : List Char) :
    named? tag.closing (tag.name ++ (tag.attributes ++ '>' :: rest)) = some tag := by
  obtain ⟨first, more, nameEq, letter, chars⟩ := proper.named
  have read := proper.attributed rest
  have stopped : (tag.attributes ++ '>' :: rest).takeWhile isNameChar = [] ∧
      (tag.attributes ++ '>' :: rest).dropWhile isNameChar = tag.attributes ++ '>' :: rest := by
    cases shape : tag.attributes ++ '>' :: rest with
    | nil => simp at shape
    | cons char behind =>
        rw [shape] at read
        have stops := attributes?_stops read
        exact ⟨List.takeWhile_cons_of_neg (by simp [stops]),
          List.dropWhile_cons_of_neg (by simp [stops])⟩
  rw [nameEq, List.cons_append, named?, if_pos letter, List.takeWhile_append_of_pos chars,
    List.dropWhile_append_of_pos chars, stopped.1, stopped.2, read, List.append_nil, ← nameEq]
  rfl

private theorem named?_eq_some {closing : Bool} {text : List Char} {tag : TagText}
    (read : named? closing text = some tag) :
    tag.closing = closing ∧ tag.Proper ∧
      ∃ rest, text = tag.name ++ (tag.attributes ++ '>' :: rest) := by
  cases text with
  | nil => cases read
  | cons char text =>
      rw [named?] at read
      split at read
      · rename_i letter
        obtain ⟨attributes, attributesRead, rfl⟩ := Option.map_eq_some_iff.mp read
        obtain ⟨⟨rest, restEq⟩, again⟩ := attributes?_eq_some attributesRead
        refine ⟨rfl, ⟨⟨char, text.takeWhile isNameChar, rfl, letter, ?_⟩, again⟩, rest, ?_⟩
        · exact List.all_eq_true.mp List.all_takeWhile
        · rw [← restEq, List.cons_append, List.takeWhile_append_dropWhile]
      · cases read

theorem text_append (tag : TagText) (rest : List Char) :
    tag.text ++ rest =
      '<' :: ((if tag.closing then ['/'] else []) ++
        (tag.name ++ (tag.attributes ++ '>' :: rest))) := by
  unfold text
  simp

theorem read?_text {tag : TagText} (proper : tag.Proper) (rest : List Char) :
    read? (tag.text ++ rest) = some tag := by
  rw [text_append]
  have found := named?_append proper rest
  obtain ⟨first, more, nameEq, letter, -⟩ := proper.named
  cases closes : tag.closing with
  | true =>
      rw [closes] at found
      exact found
  | false =>
      rw [closes, nameEq, List.cons_append] at found
      have differs : first ≠ '/' := by
        rintro rfl
        cases letter
      rw [nameEq]
      simp only [Bool.false_eq_true, if_false, List.nil_append, List.cons_append]
      rw [read?]
      · exact found
      · intro behind same
        exact differs (List.cons.inj same).1

theorem read?_eq_some {text : List Char} {tag : TagText} (read : read? text = some tag) :
    tag.Proper ∧ ∃ rest, text = tag.text ++ rest := by
  unfold read? at read
  split at read
  · obtain ⟨closes, proper, rest, restEq⟩ := named?_eq_some read
    refine ⟨proper, rest, ?_⟩
    rw [text_append, restEq, closes]
    rfl
  · obtain ⟨closes, proper, rest, restEq⟩ := named?_eq_some read
    refine ⟨proper, rest, ?_⟩
    rw [text_append, restEq, closes]
    rfl
  · cases read

theorem pattern_text {tag : TagText} (proper : tag.Proper) (rest : List Char) :
    pattern (tag.text ++ rest) = some ⟨tag, tag.text⟩ := by
  unfold pattern
  rw [read?_text proper]
  rfl

theorem pattern_eq_some {text : List Char} {reading : Reading TagText}
    (read : pattern text = some reading) :
    reading.value.Proper ∧ reading.text = reading.value.text ∧
      ∃ rest, text = reading.text ++ rest := by
  obtain ⟨tag, tagRead, rfl⟩ := Option.map_eq_some_iff.mp read
  obtain ⟨proper, rest, textEq⟩ := read?_eq_some tagRead
  exact ⟨proper, rfl, rest, textEq⟩

theorem bracketed : pattern.Bracketed where
  bracketed := by
    intro text reading read
    obtain ⟨-, shape, rest, textEq⟩ := pattern_eq_some read
    have whole := text_append reading.value []
    rw [List.append_nil] at whole
    refine ⟨(if reading.value.closing then ['/'] else []) ++
      (reading.value.name ++ reading.value.attributes), rest, ?_, textEq⟩
    rw [shape, whole]
    simp
  settled := by
    intro reading rest other read
    obtain ⟨proper, shape, -⟩ := pattern_eq_some read
    obtain ⟨tag, text⟩ := reading
    simp only at shape proper
    rw [shape]
    exact pattern_text proper other

end TagText

end PageCheck
