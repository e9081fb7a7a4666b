import PageCheck.Proofs.Rendering

/-! Quoting.  The value of an attribute can be written bare, in single quotes or in double
quotes, and a tag with one attribute is the same tag however the value is written.  The one
exception is a bare value that ends in a slash: the slash in front of the closing bracket is
taken for the mark of a self-closing tag and is no part of the value. -/

set_option autoImplicit false

namespace PageCheck

/-! ### Tags on their own -/

theorem TagText.Proper.uncommented {tag : TagText} (proper : tag.Proper) (rest : List Char) :
    Comment.pattern (tag.text ++ rest) = none := by
  obtain ⟨first, more, nameEq, letter, -⟩ := proper.named
  rw [TagText.text_append, nameEq]
  unfold Comment.pattern
  split
  · rename_i shape
    cases closes : tag.closing with
    | true => simp [closes] at shape
    | false =>
        simp only [closes, Bool.false_eq_true, if_false, List.nil_append, List.cons_append,
          List.cons.injEq, true_and] at shape
        rw [shape.1] at letter
        cases letter
  · rfl

theorem Tag.scan_text {tag : TagText} (proper : tag.Proper) :
    scan tag.text = [tag.placed ⟨0, Text.byteLength tag.text⟩] := by
  have unread := proper.uncommented []
  rw [List.append_nil] at unread
  have read : TagText.pattern ((Reading.mk tag tag.text).text ++ []) = some ⟨tag, tag.text⟩ :=
    TagText.pattern_text proper []
  have found : TagText.pattern.findAll tag.text = [⟨tag, ⟨0, Text.byteLength tag.text⟩⟩] := by
    have first := TagText.bracketed.sound.findAll_hit read
    rwa [List.append_nil] at first
  have live : Comment.covers (Comment.spans tag.text) 0 = false := by
    rw [Comment.covers_zero, unread]
    rfl
  rw [scan_eq_filter, found]
  simp [live]

/-! ### Names and values -/

structure AttributeName where
  text : List Char
  nonempty : text ≠ []
  chars : ∀ char ∈ text, Attribute.isNameChar char = true

structure BareValue where
  text : List Char
  nonempty : text ≠ []
  chars : ∀ char ∈ text, Attribute.isBareChar char = true

inductive Quoting where
  | bare
  | single
  | double
deriving DecidableEq

namespace Quoting

def around : Quoting → List Char → List Char
  | bare, value => value
  | single, value => '\x27' :: (value ++ ['\x27'])
  | double, value => '\x22' :: (value ++ ['\x22'])

def written (quoting : Quoting) (name : TagName) (key : AttributeName) (value : BareValue) :
    List Char :=
  '<' :: (name.text ++ ' ' :: (key.text ++ '=' :: (quoting.around value.text ++ ['>'])))

/-- The value is bare and ends in a slash. -/
def Slashed (quoting : Quoting) (value : BareValue) : Prop :=
  quoting = bare ∧ value.text.getLast? = some '/'

end Quoting

/-! ### Reading the attribute -/

namespace Attribute

theorem isBareChar_iff (char : Char) :
    isBareChar char = true ↔ Text.isBlank char = false ∧ char ≠ '\x22' ∧ char ≠ '\x27' ∧
      char ≠ '=' ∧ char ≠ '<' ∧ char ≠ '>' ∧ char ≠ '\x60' := by
  unfold isBareChar
  simp only [Bool.and_eq_true, Bool.not_eq_true', bne_iff_ne, ne_eq, and_assoc]

theorem value?_bare {value : List Char} (nonempty : value ≠ [])
    (chars : ∀ char ∈ value, isBareChar char = true) : value? value = some ⟨value, value⟩ := by
  obtain ⟨first, more, rfl⟩ := List.exists_cons_of_ne_nil nonempty
  have bare := chars first List.mem_cons_self
  obtain ⟨-, noDouble, noSingle, -⟩ := (isBareChar_iff first).mp bare
  have all : (first :: more).takeWhile isBareChar = first :: more :=
    List.takeWhile_eq_self_iff.mpr chars
  rw [value?, if_neg (not_or.mpr ⟨noDouble, noSingle⟩), if_pos bare, all]

theorem value?_quoted {quote : Char} (mark : quote = '\x22' ∨ quote = '\x27')
    {value : List Char} (closed : quote ∉ value) :
    value? (quote :: (value ++ [quote])) = some ⟨value, quote :: (value ++ [quote])⟩ := by
  rw [value?, if_pos mark, untilQuote?_append closed []]
  rfl

theorem value?_around (quoting : Quoting) (value : BareValue) :
    value? (quoting.around value.text) = some ⟨value.text, quoting.around value.text⟩ := by
  have unquoted : '\x22' ∉ value.text ∧ '\x27' ∉ value.text := by
    constructor <;> intro member <;> cases value.chars _ member
  cases quoting with
  | bare => exact value?_bare value.nonempty value.chars
  | single => exact value?_quoted (Or.inr rfl) unquoted.2
  | double => exact value?_quoted (Or.inl rfl) unquoted.1

private theorem parts_of_key (key : AttributeName) (rest : List Char) :
    (key.text ++ '=' :: rest).takeWhile isNameChar = key.text ∧
      (key.text ++ '=' :: rest).dropWhile isNameChar = '=' :: rest := by
  have stops : isNameChar '=' = false := rfl
  constructor
  · rw [List.takeWhile_append_of_pos key.chars, List.takeWhile_cons_of_neg (by simp [stops]),
      List.append_nil]
  · rw [List.dropWhile_append_of_pos key.chars, List.dropWhile_cons_of_neg (by simp [stops])]

private theorem unspaced_of_value? {text : List Char} {reading : Reading (List Char)}
    (read : value? text = some reading) : text.takeWhile Text.isBlank = [] := by
  cases text with
  | nil => rfl
  | cons char rest =>
      apply List.takeWhile_cons_of_neg
      intro blank
      have noDouble : char ≠ '\x22' := Text.ne_of_isBlank blank rfl
      have noSingle : char ≠ '\x27' := Text.ne_of_isBlank blank rfl
      rw [value?, if_neg (not_or.mpr ⟨noDouble, noSingle⟩),
        if_neg (by simp [isBareChar, blank])] at read
      cases read

theorem readAll_assigned (key : AttributeName) {value rest : List Char}
    (read : value? rest = some ⟨value, rest⟩) :
    readAll (' ' :: (key.text ++ '=' :: rest)) =
      [⟨Text.lowerName key.text, some (String.ofList value)⟩] := by
  have visible := unspaced_of_value? read
  have skipped : rest.dropWhile Text.isBlank = rest := by
    have parts := List.takeWhile_append_dropWhile (p := Text.isBlank) (l := rest)
    rwa [visible] at parts
  have assigned : assignment? ('=' :: rest) = some ⟨value, '=' :: rest⟩ := by
    have unspaced : Text.isBlank '=' = false := rfl
    unfold assignment?
    rw [List.dropWhile_cons_of_neg (by simp [unspaced]),
      List.takeWhile_cons_of_neg (by simp [unspaced])]
    simp only [skipped, visible, read]
    rfl
  obtain ⟨taken, dropped⟩ := parts_of_key key rest
  obtain ⟨first, more, shape⟩ := List.exists_cons_of_ne_nil key.nonempty
  let reading : Reading Attribute :=
    ⟨⟨Text.lowerName key.text, some (String.ofList value)⟩, key.text ++ '=' :: rest⟩
  have whole : pattern (reading.text ++ []) = some reading := by
    rw [List.append_nil]
    unfold pattern
    simp only [reading, taken, dropped, assigned]
    rw [shape]
  have filled : reading.text ≠ [] := by simp [reading]
  have spaced : pattern (' ' :: (key.text ++ '=' :: rest)) = none := rfl
  have values := Pattern.values_hit filled whole
  rw [List.append_nil] at values
  unfold readAll
  rw [Pattern.values_plain spaced]
  exact values

theorem readAll_unassigned (key : AttributeName) :
    readAll (' ' :: (key.text ++ ['='])) = [⟨Text.lowerName key.text, none⟩] := by
  obtain ⟨taken, dropped⟩ := parts_of_key key []
  obtain ⟨first, more, shape⟩ := List.exists_cons_of_ne_nil key.nonempty
  let reading : Reading Attribute := ⟨⟨Text.lowerName key.text, none⟩, key.text⟩
  have named : pattern (reading.text ++ ['=']) = some reading := by
    have unassigned : assignment? ['='] = none := rfl
    unfold pattern
    simp only [reading, taken, dropped, unassigned]
    rw [shape]
  have filled : reading.text ≠ [] := key.nonempty
  have spaced : pattern (' ' :: (key.text ++ ['='])) = none := rfl
  unfold readAll
  rw [Pattern.values_plain spaced]
  exact Pattern.values_hit filled named

end Attribute

/-! ### The tag -/

namespace Quoting

variable (quoting : Quoting) (name : TagName) (key : AttributeName) (value : BareValue)

def tagText : TagText :=
  ⟨false, name.text, ' ' :: (key.text ++ '=' :: quoting.around value.text)⟩

theorem text_tagText : (quoting.tagText name key value).text = quoting.written name key value := by
  simp [tagText, TagText.text, written]

/-- The attribute text ends where the tag ends. -/
theorem untilBracket?_around (rest : List Char) :
    TagText.untilBracket? none (quoting.around value.text ++ '>' :: rest) =
      some (quoting.around value.text) := by
  have ends : TagText.untilBracket? none ('>' :: rest) = some [] := rfl
  have quoted : ∀ quote : Char, quote = '\x22' ∨ quote = '\x27' → quote ∉ value.text →
      TagText.untilBracket? none (quote :: (value.text ++ [quote]) ++ '>' :: rest) =
        some (quote :: (value.text ++ [quote])) := by
    intro quote mark closed
    have noBracket : quote ≠ '>' := by rcases mark with rfl | rfl <;> decide
    have inside := TagText.untilBracket?_quoted closed ('>' :: rest)
    rw [List.cons_append, TagText.untilBracket?, if_neg noBracket, if_pos mark,
      List.append_assoc, List.singleton_append, inside, ends]
    rfl
  cases quoting with
  | bare =>
      have plain : ∀ char ∈ value.text, char ≠ '>' ∧ char ≠ '\x22' ∧ char ≠ '\x27' := by
        intro char member
        obtain ⟨-, noDouble, noSingle, -, -, noBracket, -⟩ :=
          (Attribute.isBareChar_iff char).mp (value.chars char member)
        exact ⟨noBracket, noDouble, noSingle⟩
      rw [around, TagText.untilBracket?_plain plain, ends]
      simp
  | single => exact quoted _ (Or.inr rfl) fun member => by cases value.chars _ member
  | double => exact quoted _ (Or.inl rfl) fun member => by cases value.chars _ member

theorem proper_tagText : (quoting.tagText name key value).Proper where
  named := ⟨name.first, name.more, rfl, name.letter, name.chars⟩
  attributed := by
    intro rest
    have plain : ∀ char ∈ key.text ++ ['='], char ≠ '>' ∧ char ≠ '\x22' ∧ char ≠ '\x27' := by
      intro char member
      rcases List.mem_append.mp member with inKey | sign
      · obtain ⟨-, noDouble, noSingle, noBracket, -⟩ :=
          (Attribute.isNameChar_iff char).mp (key.chars char inKey)
        exact ⟨noBracket, noDouble, noSingle⟩
      · rw [List.mem_singleton.mp sign]
        decide
    have read := TagText.untilBracket?_plain plain (quoting.around value.text ++ '>' :: rest)
    rw [untilBracket?_around] at read
    have spaced := TagText.attributes?_cons_of_isBlank (show Text.isBlank ' ' = true from rfl)
      ((key.text ++ ['=']) ++ (quoting.around value.text ++ '>' :: rest))
    rw [read] at spaced
    simpa [tagText] using spaced

/-- A value ends with its last character or with a quote; only a slashed one ends in a slash. -/
theorem exists_last_around :
    ∃ front last, quoting.around value.text = front ++ [last] ∧ Text.isBlank last = false ∧
      (last = '/' ↔ quoting.Slashed value) := by
  have quoted : ∀ quote : Char, quote ≠ '/' → quoting ≠ bare →
      (quote = '/' ↔ quoting.Slashed value) :=
    fun quote noSlash notBare => ⟨fun same => absurd same noSlash, fun slashed =>
      absurd slashed.1 notBare⟩
  cases quoting with
  | bare =>
      obtain ⟨front, last, shape⟩ := (List.eq_nil_or_concat value.text).resolve_left value.nonempty
      rw [List.concat_eq_append] at shape
      have inValue : last ∈ value.text := by simp [shape]
      refine ⟨front, last, shape, ((Attribute.isBareChar_iff last).mp (value.chars _ inValue)).1, ?_⟩
      unfold Slashed
      rw [shape, List.getLast?_concat, Option.some.injEq]
      exact ⟨fun same => ⟨rfl, same⟩, fun slashed => slashed.2⟩
  | single =>
      exact ⟨'\x27' :: value.text, '\x27', rfl, rfl, quoted _ (by decide) (by decide)⟩
  | double =>
      exact ⟨'\x22' :: value.text, '\x22', rfl, rfl, quoted _ (by decide) (by decide)⟩

theorem kind_tagText :
    (quoting.Slashed value → (quoting.tagText name key value).kind = .selfClosing) ∧
      (¬ quoting.Slashed value → (quoting.tagText name key value).kind = .opening) := by
  obtain ⟨front, last, shape, visible, slash⟩ := quoting.exists_last_around value
  have ends : (Text.trimEnd (quoting.tagText name key value).attributes).getLast? = some last := by
    have whole : (quoting.tagText name key value).attributes =
        (' ' :: (key.text ++ '=' :: front)) ++ [last] := by
      simp [tagText, shape]
    rw [whole, Text.trimEnd, Text.trimEndWhere_concat visible, List.getLast?_concat]
  have starts : (quoting.tagText name key value).closing = false := rfl
  unfold TagText.kind
  rw [starts, ends, ← slash]
  constructor
  · rintro rfl
    rfl
  · intro noSlash
    simp [noSlash]

/-- The slashes at the end of the attribute text are not read. -/
theorem attributeText_placed (span : Span) :
    ((quoting.tagText name key value).placed span).attributeText =
      ' ' :: (key.text ++ '=' :: Text.trimEndWhere (· == '/') (quoting.around value.text)) :=
  Text.trimEndWhere_behind rfl (' ' :: key.text) _

def meant : TagView :=
  ⟨name.lowered, .opening, ⟨0, Text.byteLength (quoting.written name key value)⟩,
    [⟨Text.lowerName key.text, some (String.ofList value.text)⟩]⟩

/-- What a slashed value is taken for: a self-closing tag and the value without the slashes
at its end, if anything is left of it. -/
def slashed : TagView :=
  let kept := Text.trimEndWhere (· == '/') value.text
  ⟨name.lowered, .selfClosing, ⟨0, Text.byteLength (bare.written name key value)⟩,
    [⟨Text.lowerName key.text, if kept = [] then none else some (String.ofList kept)⟩]⟩

theorem view_scan :
    (Tag.scan (quoting.written name key value)).map Tag.view =
      [((quoting.tagText name key value).placed
        ⟨0, Text.byteLength (quoting.written name key value)⟩).view] := by
  have found := Tag.scan_text (quoting.proper_tagText name key value)
  rw [text_tagText] at found
  rw [found]
  rfl

theorem scan_of_not_slashed (free : ¬ quoting.Slashed value) :
    (Tag.scan (quoting.written name key value)).map Tag.view =
      [quoting.meant name key value] := by
  obtain ⟨front, last, shape, visible, slash⟩ := quoting.exists_last_around value
  have kept : Text.trimEndWhere (· == '/') (quoting.around value.text) =
      quoting.around value.text := by
    rw [shape]
    exact Text.trimEndWhere_concat (by simpa [slash] using free) front
  have read := Attribute.readAll_assigned key (Attribute.value?_around quoting value)
  rw [view_scan, Tag.view, Tag.attributes, attributeText_placed, kept, read]
  simp only [TagText.placed, (quoting.kind_tagText name key value).2 free]
  rfl

theorem scan_of_slashed (ends : value.text.getLast? = some '/') :
    (Tag.scan (bare.written name key value)).map Tag.view = [slashed name key value] := by
  have read : Attribute.readAll
      (' ' :: (key.text ++ '=' :: Text.trimEndWhere (· == '/') value.text)) =
        (slashed name key value).attributes := by
    unfold slashed
    by_cases empty : Text.trimEndWhere (· == '/') value.text = []
    · rw [empty]
      exact Attribute.readAll_unassigned key
    · simp only [if_neg empty]
      obtain ⟨trail, valueEq, -⟩ := Text.trimEndWhere_parts (· == '/') value.text
      have chars : ∀ char ∈ Text.trimEndWhere (· == '/') value.text,
          Attribute.isBareChar char = true := by
        intro char member
        apply value.chars
        rw [valueEq]
        exact List.mem_append_left _ member
      exact Attribute.readAll_assigned key (Attribute.value?_bare empty chars)
  rw [view_scan, Tag.view, Tag.attributes, attributeText_placed, around, read]
  simp only [TagText.placed, (bare.kind_tagText name key value).1 ⟨rfl, ends⟩]
  rfl

/-- A tag with one attribute is the same tag in all three styles, unless the value ends in a
slash and stands without quotes; then the slash closes the tag. -/
theorem quoting_style_is_irrelevant (name : TagName) (key : AttributeName) (value : BareValue) :
    (∀ quoting : Quoting, quoting ≠ bare →
      (Tag.scan (quoting.written name key value)).map Tag.view =
        [quoting.meant name key value]) ∧
    ((Tag.scan (bare.written name key value)).map Tag.view = [bare.meant name key value] ↔
      value.text.getLast? ≠ some '/') ∧
    (value.text.getLast? = some '/' →
      (Tag.scan (bare.written name key value)).map Tag.view = [slashed name key value]) := by
  refine ⟨?_, ⟨?_, ?_⟩, scan_of_slashed name key value⟩
  · intro quoting quoted
    exact quoting.scan_of_not_slashed name key value fun slash => quoted slash.1
  · intro same ends
    rw [scan_of_slashed name key value ends, List.cons.injEq] at same
    have kinds := congrArg TagView.kind same.1
    cases kinds
  · intro free
    exact bare.scan_of_not_slashed name key value fun slash => free slash.2

def area : TagName :=
  ⟨'a', ['r', 'e', 'a'], by decide, List.all_eq_true.mp (by decide)⟩

def target : AttributeName :=
  ⟨"href".toList, by decide, List.all_eq_true.mp (by decide)⟩

def folder : BareValue :=
  ⟨"/docs/".toList, by decide, List.all_eq_true.mp (by decide)⟩

theorem quoting_style_of_folder :
    single ≠ bare ∧ folder.text.getLast? = some '/' ∧
      (Tag.scan (single.written area target folder)).map Tag.view =
        [⟨"area", .opening, ⟨0, 20⟩, [⟨"href", some "/docs/"⟩]⟩] ∧
      (Tag.scan (bare.written area target folder)).map Tag.view =
        [⟨"area", .selfClosing, ⟨0, 18⟩, [⟨"href", some "/docs"⟩]⟩] := by
  obtain ⟨quoted, -, unquoted⟩ := quoting_style_is_irrelevant area target folder
  have ends : folder.text.getLast? = some '/' := by decide
  exact ⟨by decide, ends, (quoted single (by decide)).trans (by decide +kernel),
    (unquoted ends).trans (by decide +kernel)⟩

/-- The slash that ends the value of `<area href=/docs/>` closes the tag. -/
theorem bare_slash_closes_tag :
    bare.written area target folder = "<area href=/docs/>".toList ∧
      (Tag.scan (bare.written area target folder)).map Tag.view =
        [⟨"area", .selfClosing, ⟨0, 18⟩, [⟨"href", some "/docs"⟩]⟩] ∧
      (Tag.scan (double.written area target folder)).map Tag.view =
        [⟨"area", .opening, ⟨0, 20⟩, [⟨"href", some "/docs/"⟩]⟩] ∧
      ¬ ∀ (name : TagName) (key : AttributeName) (value : BareValue),
        (Tag.scan (bare.written name key value)).map Tag.view = [bare.meant name key value] := by
  have closed : (Tag.scan (bare.written area target folder)).map Tag.view =
      [⟨"area", .selfClosing, ⟨0, 18⟩, [⟨"href", some "/docs"⟩]⟩] := by decide +kernel
  refine ⟨by decide +kernel, closed, by decide +kernel, ?_⟩
  intro all
  have same := all area target folder
  rw [closed, List.cons.injEq] at same
  have kinds := congrArg TagView.kind same.1
  cases kinds

end Quoting

end PageCheck
