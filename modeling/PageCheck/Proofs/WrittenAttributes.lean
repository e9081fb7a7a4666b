import PageCheck.Proofs.Brackets
import PageCheck.Proofs.VisibleText

/-! Attributes as they are written: a blank, the name, and perhaps an equals sign and
a value in quotes.  Reading what was written gives the attributes back, in order and
with repeated ones, and no quote that is closed hides the end of the tag. -/

set_option autoImplicit false

namespace PageCheck

inductive WrittenValue where
  | bare
  | double (body : List Char) (closed : '\x22' ∉ body) (free : '<' ∉ body)
  | single (body : List Char) (closed : '\x27' ∉ body) (free : '<' ∉ body)

namespace WrittenValue

def text : WrittenValue → List Char
  | bare => []
  | double body _ _ => '=' :: '\x22' :: (body ++ ['\x22'])
  | single body _ _ => '=' :: '\x27' :: (body ++ ['\x27'])

def value? : WrittenValue → Option (List Char)
  | bare => none
  | double body _ _ => some body
  | single body _ _ => some body

end WrittenValue

structure WrittenAttribute where
  name : List Char
  value : WrittenValue
  named : name ≠ []
  chars : ∀ char ∈ name, Attribute.isNameChar char = true
  free : '<' ∉ name

namespace WrittenAttribute

def text (entry : WrittenAttribute) : List Char :=
  ' ' :: (entry.name ++ entry.value.text)

def meant (entry : WrittenAttribute) : Attribute :=
  ⟨Text.lowerName entry.name, entry.value.value?.map String.ofList⟩

/-- What the pattern is to read: all but the blank. -/
def reading (entry : WrittenAttribute) : Reading Attribute :=
  ⟨entry.meant, entry.name ++ entry.value.text⟩

def textAll (entries : List WrittenAttribute) : List Char :=
  entries.flatMap text

end WrittenAttribute

/-! ### Reading -/

namespace Attribute

theorem isNameChar_iff (char : Char) :
    isNameChar char = true ↔ Text.isBlank char = false ∧ char ≠ '\x22' ∧ char ≠ '\x27' ∧
      char ≠ '>' ∧ char ≠ '/' ∧ char ≠ '=' := by
  unfold isNameChar
  simp only [Bool.and_eq_true, Bool.not_eq_true', bne_iff_ne, ne_eq, and_assoc]

theorem untilQuote?_append {quote : Char} {body : List Char} (closed : quote ∉ body)
    (rest : List Char) : untilQuote? quote (body ++ quote :: rest) = some body := by
  induction body with
  | nil =>
      rw [List.nil_append, untilQuote?, if_pos rfl]
  | cons char body ih =>
      rw [List.mem_cons, not_or] at closed
      rw [List.cons_append, untilQuote?, if_neg (Ne.symm closed.1), ih closed.2]
      rfl

/-- What may stand behind an attribute: neither more of the name nor a value. -/
structure Ends (rest : List Char) : Prop where
  name : rest.takeWhile isNameChar = []
  value : assignment? rest = none

private theorem ends_cons_blank {name rest : List Char} (named : name ≠ [])
    (chars : ∀ char ∈ name, isNameChar char = true) : Ends (' ' :: (name ++ rest)) := by
  obtain ⟨first, more, rfl⟩ := List.exists_cons_of_ne_nil named
  obtain ⟨visible, -, -, -, -, plain⟩ := (isNameChar_iff first).mp (chars first List.mem_cons_self)
  have dropped : (' ' :: (first :: more ++ rest)).dropWhile Text.isBlank =
      first :: more ++ rest := by
    rw [List.dropWhile_cons_of_pos rfl, List.cons_append,
      List.dropWhile_cons_of_neg (by simp [visible])]
  refine ⟨rfl, ?_⟩
  unfold assignment?
  simp only [dropped]
  split
  · rename_i same
    exact absurd (List.cons.inj same).1 plain
  · rfl

private theorem ends_of_allBlank {rest : List Char} (blank : Text.allBlank rest = true) :
    Ends rest := by
  have chars := Text.allBlank_iff.mp blank
  refine ⟨?_, ?_⟩
  · cases rest with
    | nil => rfl
    | cons char more =>
        have notName : isNameChar char = false := by
          unfold isNameChar
          rw [chars char List.mem_cons_self]
          rfl
        rw [List.takeWhile_cons_of_neg (by simp [notName])]
  · unfold assignment?
    simp only [List.dropWhile_eq_nil_iff.mpr chars]

end Attribute

namespace WrittenAttribute

theorem ends_textAll (entries : List WrittenAttribute) {trail : List Char}
    (blank : Text.allBlank trail = true) : Attribute.Ends (textAll entries ++ trail) := by
  cases entries with
  | nil => exact Attribute.ends_of_allBlank blank
  | cons entry rest =>
      have shape : textAll (entry :: rest) ++ trail =
          ' ' :: (entry.name ++ (entry.value.text ++ (textAll rest ++ trail))) := by
        simp [textAll, text]
      rw [shape]
      exact Attribute.ends_cons_blank entry.named entry.chars

private theorem assignment?_value (value : WrittenValue) {rest : List Char}
    (ends : Attribute.Ends rest) :
    Attribute.assignment? (value.text ++ rest) =
      value.value?.map fun body => ⟨body, value.text⟩ := by
  cases value with
  | bare => exact ends.value
  | double body closed free =>
      have read := Attribute.untilQuote?_append closed rest
      simp [Attribute.assignment?, WrittenValue.text, WrittenValue.value?, Attribute.value?, read,
        Text.isBlank]
  | single body closed free =>
      have read := Attribute.untilQuote?_append closed rest
      simp [Attribute.assignment?, WrittenValue.text, WrittenValue.value?, Attribute.value?, read,
        Text.isBlank]

theorem pattern_text (entry : WrittenAttribute) {rest : List Char} (ends : Attribute.Ends rest) :
    Attribute.pattern (entry.reading.text ++ rest) = some entry.reading := by
  have stops : (entry.value.text ++ rest).takeWhile Attribute.isNameChar = [] := by
    cases value : entry.value with
    | bare => exact ends.name
    | double body closed free => rfl
    | single body closed free => rfl
  have nameRead : ((entry.name ++ entry.value.text) ++ rest).takeWhile Attribute.isNameChar =
      entry.name := by
    rw [List.append_assoc, List.takeWhile_append_of_pos entry.chars, stops, List.append_nil]
  have valueRead : ((entry.name ++ entry.value.text) ++ rest).dropWhile Attribute.isNameChar =
      entry.value.text ++ rest := by
    rw [List.append_assoc, List.dropWhile_append_of_pos entry.chars]
    have parts := List.takeWhile_append_dropWhile
      (p := Attribute.isNameChar) (l := entry.value.text ++ rest)
    rwa [stops] at parts
  unfold Attribute.pattern reading
  simp only [nameRead, valueRead, assignment?_value entry.value ends]
  obtain ⟨first, more, nameEq⟩ := List.exists_cons_of_ne_nil entry.named
  cases value : entry.value with
  | bare => simp [nameEq, meant, value, WrittenValue.value?, WrittenValue.text]
  | double body closed free => simp [nameEq, meant, value, WrittenValue.value?]
  | single body closed free => simp [nameEq, meant, value, WrittenValue.value?]

private theorem readAll_of_allBlank {text : List Char} (blank : Text.allBlank text = true) :
    Attribute.readAll text = [] := by
  induction text with
  | nil => rfl
  | cons char rest ih =>
      have unread : Attribute.pattern (char :: rest) = none := by
        unfold Attribute.pattern
        rw [(Attribute.ends_of_allBlank blank).name]
      have restBlank : Text.allBlank rest = true :=
        Text.allBlank_iff.mpr fun other member =>
          Text.allBlank_iff.mp blank other (List.mem_cons_of_mem _ member)
      unfold Attribute.readAll at ih ⊢
      rw [Pattern.values_plain unread, ih restBlank]

theorem readAll_textAll_append (entries : List WrittenAttribute) {trail : List Char}
    (blank : Text.allBlank trail = true) :
    Attribute.readAll (textAll entries ++ trail) = entries.map meant := by
  induction entries with
  | nil => exact readAll_of_allBlank blank
  | cons entry rest ih =>
      have shape : textAll (entry :: rest) ++ trail =
          ' ' :: (entry.reading.text ++ (textAll rest ++ trail)) := by
        simp [textAll, text, reading]
      have unread : Attribute.pattern
          (' ' :: (entry.reading.text ++ (textAll rest ++ trail))) = none := rfl
      have nonempty : entry.reading.text ≠ [] := by simp [reading, entry.named]
      have read := pattern_text entry (ends_textAll rest blank)
      unfold Attribute.readAll at ih ⊢
      rw [shape, Pattern.values_plain unread, List.map_cons, ← ih]
      exact Pattern.values_hit nonempty read

/-- Reading the written attributes gives them back. -/
theorem readAll_textAll (entries : List WrittenAttribute) :
    Attribute.readAll (textAll entries) = entries.map meant := by
  have read := readAll_textAll_append entries (show Text.allBlank [] = true from rfl)
  rwa [List.append_nil] at read

theorem free_textAll (entries : List WrittenAttribute) : '<' ∉ textAll entries := by
  intro member
  obtain ⟨entry, -, inEntry⟩ := List.mem_flatMap.mp member
  simp only [text, List.mem_cons, List.mem_append] at inEntry
  rcases inEntry with blank | inName | inValue
  · cases blank
  · exact entry.free inName
  · cases value : entry.value with
    | bare => simp [value, WrittenValue.text] at inValue
    | double body closed free => simp [value, WrittenValue.text, free] at inValue
    | single body closed free => simp [value, WrittenValue.text, free] at inValue

/-- Attributes end with a quote or with their name, not with a slash or a blank. -/
theorem exists_last_textAll {entries : List WrittenAttribute} (nonempty : entries ≠ []) :
    ∃ front last, textAll entries = front ++ [last] ∧ Text.isBlank last = false ∧ last ≠ '/' := by
  obtain ⟨earlier, entry, rfl⟩ := (List.eq_nil_or_concat entries).resolve_left nonempty
  have shape : textAll (earlier.concat entry) = textAll earlier ++ entry.text := by
    simp [textAll]
  rw [shape]
  cases value : entry.value with
  | bare =>
      obtain ⟨front, last, nameEq⟩ := (List.eq_nil_or_concat entry.name).resolve_left entry.named
      have inName : last ∈ entry.name := by simp [nameEq]
      obtain ⟨visible, -, -, -, noSlash, -⟩ := (Attribute.isNameChar_iff last).mp
        (entry.chars last inName)
      exact ⟨textAll earlier ++ ' ' :: front, last,
        by simp [text, value, WrittenValue.text, nameEq],
        visible, noSlash⟩
  | double body closed free =>
      exact ⟨textAll earlier ++ ' ' :: (entry.name ++ '=' :: '\x22' :: body), '\x22',
        by simp [text, value, WrittenValue.text], rfl, by decide⟩
  | single body closed free =>
      exact ⟨textAll earlier ++ ' ' :: (entry.name ++ '=' :: '\x27' :: body), '\x27',
        by simp [text, value, WrittenValue.text], rfl, by decide⟩

end WrittenAttribute

/-! ### The end of the tag -/

namespace TagText

theorem untilBracket?_plain {chars : List Char}
    (plain : ∀ char ∈ chars, char ≠ '>' ∧ char ≠ '\x22' ∧ char ≠ '\x27') (rest : List Char) :
    untilBracket? none (chars ++ rest) = (untilBracket? none rest).map (chars ++ ·) := by
  induction chars with
  | nil => simp
  | cons char chars ih =>
      obtain ⟨noBracket, noDouble, noSingle⟩ := plain char List.mem_cons_self
      rw [List.cons_append, untilBracket?, if_neg noBracket,
        if_neg (not_or.mpr ⟨noDouble, noSingle⟩),
        ih fun other member => plain other (List.mem_cons_of_mem _ member), Option.map_map]
      rfl

theorem untilBracket?_quoted {quote : Char} {body : List Char} (closed : quote ∉ body)
    (rest : List Char) :
    untilBracket? (some quote) (body ++ quote :: rest) =
      (untilBracket? none rest).map (body ++ quote :: ·) := by
  induction body with
  | nil =>
      rw [List.nil_append, untilBracket?, if_pos rfl]
      rfl
  | cons char body ih =>
      rw [List.mem_cons, not_or] at closed
      rw [List.cons_append, untilBracket?, if_neg (Ne.symm closed.1), ih closed.2, Option.map_map]
      rfl

private theorem untilBracket?_value (value : WrittenValue) (rest : List Char) :
    untilBracket? none (value.text ++ rest) = (untilBracket? none rest).map (value.text ++ ·) := by
  cases value with
  | bare => simp [WrittenValue.text]
  | double body closed free =>
      have inside := untilBracket?_quoted closed rest
      simp [WrittenValue.text, untilBracket?, inside, Function.comp_def]
  | single body closed free =>
      have inside := untilBracket?_quoted closed rest
      simp [WrittenValue.text, untilBracket?, inside, Function.comp_def]

theorem untilBracket?_textAll (entries : List WrittenAttribute) (rest : List Char) :
    untilBracket? none (WrittenAttribute.textAll entries ++ rest) =
      (untilBracket? none rest).map (WrittenAttribute.textAll entries ++ ·) := by
  induction entries with
  | nil => simp [WrittenAttribute.textAll]
  | cons entry others ih =>
      have plain : ∀ char ∈ ' ' :: entry.name, char ≠ '>' ∧ char ≠ '\x22' ∧ char ≠ '\x27' := by
        intro char member
        rcases List.mem_cons.mp member with rfl | inName
        · decide
        · obtain ⟨-, noDouble, noSingle, noBracket, -, -⟩ :=
            (Attribute.isNameChar_iff char).mp (entry.chars char inName)
          exact ⟨noBracket, noDouble, noSingle⟩
      have shape : WrittenAttribute.textAll (entry :: others) ++ rest = (' ' :: entry.name) ++
          (entry.value.text ++ (WrittenAttribute.textAll others ++ rest)) := by
        simp [WrittenAttribute.textAll, WrittenAttribute.text]
      rw [shape, untilBracket?_plain plain, untilBracket?_value, ih, Option.map_map, Option.map_map]
      congr 1
      funext tail
      simp [WrittenAttribute.textAll, WrittenAttribute.text]

private theorem attributes?_of_isBlank {char : Char} (blank : Text.isBlank char = true)
    (rest : List Char) : attributes? (char :: rest) = untilBracket? none (char :: rest) := by
  have noBracket : char ≠ '>' := Text.ne_of_isBlank blank rfl
  have noDouble : char ≠ '\x22' := Text.ne_of_isBlank blank rfl
  have noSingle : char ≠ '\x27' := Text.ne_of_isBlank blank rfl
  rw [attributes?_cons_of_isBlank blank, untilBracket?, if_neg noBracket,
    if_neg (not_or.mpr ⟨noDouble, noSingle⟩)]

theorem attributes?_textAll (entries : List WrittenAttribute) {trail : List Char}
    (plain : ∀ char ∈ trail, char ≠ '>' ∧ char ≠ '\x22' ∧ char ≠ '\x27')
    (begins : ∀ char ∈ trail.head?, Text.isBlank char = true) (rest : List Char) :
    attributes? (WrittenAttribute.textAll entries ++ trail ++ '>' :: rest) =
      some (WrittenAttribute.textAll entries ++ trail) := by
  have ends : untilBracket? none (WrittenAttribute.textAll entries ++ (trail ++ '>' :: rest)) =
      some (WrittenAttribute.textAll entries ++ trail) := by
    have last : untilBracket? none ('>' :: rest) = some [] := rfl
    rw [untilBracket?_textAll, untilBracket?_plain plain, last]
    simp
  rw [List.append_assoc]
  cases entries with
  | nil =>
      cases trail with
      | nil => rfl
      | cons char more => exact (attributes?_of_isBlank (begins char rfl) _).trans ends
  | cons entry others => exact (attributes?_of_isBlank rfl _).trans ends

end TagText

end PageCheck
