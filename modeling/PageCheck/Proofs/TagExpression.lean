import PageCheck.Proofs.Encoding
import PageCheck.Proofs.Expressions
import PageCheck.Proofs.SuccessiveTags
import PageCheck.Proofs.WrittenAttributes

/-! The grammar of tags as a regular expression,
`<(/?)([a-zA-Z][a-zA-Z0-9-]*)(\s(?:[^>"']|"[^"]*"|'[^']*')*|/)?>`.  The texts that it
matches are those of the tags that reading gives back, and reading a tag does not look
behind it.  So of the texts that begin at one place at most one is matched, in one way;
what follows a tag has no influence on it; and the one pass forward finds what the search
with all its choices finds. -/

set_option autoImplicit false

namespace PageCheck

namespace Pattern

variable {α β : Type} {pattern : Pattern α} {text first second : List Char}

/-! ### Patterns that read alike -/

def mapValue (pattern : Pattern α) (value : α → β) : Pattern β := fun text =>
  (pattern text).map fun reading => ⟨value reading.value, reading.text⟩

theorem findAll_mapValue (pattern : Pattern α) (value : α → β) (text : List Char) :
    (pattern.mapValue value).findAll text =
      (pattern.findAll text).map fun found => ⟨value found.value, found.span⟩ := by
  have along (offset skip : Nat) :
      locate offset ((pattern.mapValue value).piecesAfter skip text) =
        (locate offset (pattern.piecesAfter skip text)).map fun found =>
          ⟨value found.value, found.span⟩ := by
    induction text generalizing offset skip with
    | nil => cases skip <;> rfl
    | cons char rest ih =>
        cases skip with
        | succ skip => exact ih offset skip
        | zero =>
            rw [piecesAfter, piecesAfter, mapValue]
            cases pattern (char :: rest) with
            | none => exact ih _ 0
            | some reading => exact congrArg (List.cons _) (ih _ _)
  exact along 0 0

theorem finds_mapValue_iff {value : α → β} {found : Found β} :
    (pattern.mapValue value).Finds text found ↔
      ∃ origin, pattern.Finds text ⟨origin, found.span⟩ ∧ found.value = value origin := by
  constructor
  · rintro ⟨before, reading, after, textEq, read, valueEq, spanEq⟩
    obtain ⟨origin, originRead, rfl⟩ := Option.map_eq_some_iff.mp read
    exact ⟨origin.value, ⟨before, origin, after, textEq, originRead, rfl, spanEq⟩, valueEq⟩
  · rintro ⟨origin, ⟨before, reading, after, textEq, read, originEq, spanEq⟩, valueEq⟩
    refine ⟨before, ⟨value reading.value, reading.text⟩, after, textEq, ?_, ?_, spanEq⟩
    · rw [mapValue, read]
      rfl
    · rw [valueEq]
      exact congrArg value originEq

/-- Where the bytes of what was found stand in another text, it is found there, too. -/
theorem Bracketed.finds_of_agreeOn (brackets : pattern.Bracketed) {found : Found α}
    (agree : Utf8.AgreeOn found.span first second) (finds : pattern.Finds first found) :
    pattern.Finds second found := by
  obtain ⟨before, reading, after, rfl, read, valueEq, spanEq⟩ := finds
  rw [spanEq] at agree
  obtain ⟨left, right, secondEq, lengthEq⟩ := agree.exists_part (brackets.sound.nonempty read)
  exact ⟨left, reading, right, secondEq, brackets.settled right read, valueEq,
    by rw [spanEq, lengthEq]⟩

end Pattern

namespace TagText

open Expression (Groups Matches matches_sequence_iff matches_only_sequence_iff
  matches_group_sequence_iff matches_sequence_only_iff matches_choice_iff matches_only_iff
  matches_oneOf_iff matches_group_iff matches_optional_iff matches_star_oneOf_iff)

/-! ### The expression -/

def isMark (char : Char) : Bool :=
  char == '>' || char == '\x22' || char == '\x27'

def quotedBy (quote : Char) : Expression :=
  .sequence (.only quote) (.sequence (.star (.oneOf (· != quote))) (.only quote))

/-- One character or one quoted text of an attribute part. -/
def item : Expression :=
  .choice (.oneOf fun char => !isMark char) (.choice (quotedBy '\x22') (quotedBy '\x27'))

def slashPart : Expression :=
  .optional (.only '/')

def namePart : Expression :=
  .sequence (.oneOf Text.isAsciiLetter) (.star (.oneOf isNameChar))

def attributePart : Expression :=
  .choice (.sequence (.oneOf Text.isBlank) (.star item)) (.only '/')

def expression : Expression :=
  .sequence (.only '<') (.sequence (.group 1 slashPart) (.sequence (.group 2 namePart)
    (.sequence (.optional (.group 3 attributePart)) (.only '>'))))

def groups (tag : TagText) : Groups :=
  (1, if tag.closing then ['/'] else []) :: (2, tag.name) ::
    if tag.attributes = [] then [] else [(3, tag.attributes)]

theorem groups_injective {tag other : TagText} (same : tag.groups = other.groups) :
    tag = other := by
  obtain ⟨closing, name, attributes⟩ := tag
  obtain ⟨otherClosing, otherName, otherAttributes⟩ := other
  unfold groups at same
  obtain ⟨slashEq, rest⟩ := List.cons.inj same
  obtain ⟨nameEq, attributesEq⟩ := List.cons.inj rest
  have closingEq : closing = otherClosing := by
    cases closing <;> cases otherClosing <;> first | rfl | cases slashEq
  have partEq : attributes = otherAttributes := by
    by_cases none : attributes = [] <;> by_cases otherNone : otherAttributes = [] <;>
      simp_all
  rw [TagText.mk.injEq]
  exact ⟨closingEq, (Prod.mk.inj nameEq).2, partEq⟩

/-! ### The attribute part -/

variable {text body part : List Char} {matched : Groups}

theorem matches_quotedBy_iff {quote : Char} :
    (quotedBy quote).Matches text matched ↔
      ∃ inside, quote ∉ inside ∧ text = quote :: (inside ++ [quote]) ∧ matched = [] := by
  unfold quotedBy
  simp only [matches_only_sequence_iff, matches_sequence_only_iff, matches_star_oneOf_iff,
    bne_iff_ne]
  constructor
  · rintro ⟨_, ⟨inside, ⟨free, rfl⟩, rfl⟩, rfl⟩
    exact ⟨inside, fun member => free quote member rfl, rfl, rfl⟩
  · rintro ⟨inside, free, rfl, rfl⟩
    have others : ∀ char ∈ inside, char ≠ quote := fun char member same => free (same ▸ member)
    exact ⟨_, ⟨inside, ⟨others, rfl⟩, rfl⟩, rfl⟩

theorem matches_item_iff :
    item.Matches text matched ↔
      matched = [] ∧ ((∃ char, isMark char = false ∧ text = [char]) ∨
        ∃ quote inside, (quote = '\x22' ∨ quote = '\x27') ∧ quote ∉ inside ∧
          text = quote :: (inside ++ [quote])) := by
  unfold item
  simp only [matches_choice_iff, matches_oneOf_iff, matches_quotedBy_iff, Bool.not_eq_true']
  constructor
  · rintro (⟨char, plain, rfl, rfl⟩ | ⟨inside, free, rfl, rfl⟩ | ⟨inside, free, rfl, rfl⟩)
    · exact ⟨rfl, Or.inl ⟨char, plain, rfl⟩⟩
    · exact ⟨rfl, Or.inr ⟨_, inside, Or.inl rfl, free, rfl⟩⟩
    · exact ⟨rfl, Or.inr ⟨_, inside, Or.inr rfl, free, rfl⟩⟩
  · rintro ⟨rfl, ⟨char, plain, rfl⟩ | ⟨quote, inside, rfl | rfl, free, rfl⟩⟩
    · exact Or.inl ⟨char, plain, rfl, rfl⟩
    · exact Or.inr (Or.inl ⟨inside, free, rfl, rfl⟩)
    · exact Or.inr (Or.inr ⟨inside, free, rfl, rfl⟩)

private theorem isMark_eq_false_iff {char : Char} :
    isMark char = false ↔ char ≠ '>' ∧ char ≠ '\x22' ∧ char ≠ '\x27' := by
  simp [isMark, and_assoc]

theorem untilBracket?_of_matches (items : (Expression.star item).Matches body matched) :
    matched = [] ∧ ∀ rest,
      untilBracket? none (body ++ rest) = (untilBracket? none rest).map (body ++ ·) := by
  refine Expression.star_induction items ⟨rfl, fun rest => by simp⟩ ?_
  rintro left right before after once ⟨rfl, passes⟩
  obtain ⟨rfl, ⟨char, plain, rfl⟩ | ⟨quote, inside, quoting, free, rfl⟩⟩ := matches_item_iff.mp once
  · refine ⟨rfl, fun rest => ?_⟩
    rw [List.append_assoc, untilBracket?_plain
      (List.forall_mem_singleton.mpr (isMark_eq_false_iff.mp plain)), passes, Option.map_map]
    exact congrArg (Option.map · _) (funext fun _ => (List.append_assoc _ _ _).symm)
  · refine ⟨rfl, fun rest => ?_⟩
    have noBracket : quote ≠ '>' := by
      rcases quoting with rfl | rfl <;> decide
    rw [List.cons_append, List.cons_append, List.append_assoc, List.append_assoc,
      List.singleton_append, untilBracket?, if_neg noBracket, if_pos quoting,
      untilBracket?_quoted free, passes, Option.map_map, Option.map_map]
    refine congrArg (Option.map · _) (funext fun _ => ?_)
    simp

/-- What has been read of an item when a quote may be open: nothing, or the quote and a
text without it. -/
def Opens : Option Char → List Char → Prop
  | none, opened => opened = []
  | some quote, opened =>
      (quote = '\x22' ∨ quote = '\x27') ∧ ∃ inside, quote ∉ inside ∧ opened = quote :: inside

theorem opens_nil : Opens none [] := rfl

/-- What is read up to a bracket outside quotes consists of characters and quoted texts. -/
theorem matches_of_untilBracket? {quote : Option Char} {opened : List Char}
    (read : untilBracket? quote text = some body) (opens : Opens quote opened) :
    (Expression.star item).Matches (opened ++ body) [] := by
  induction text generalizing quote opened body with
  | nil => cases quote <;> cases read
  | cons char rest ih =>
      cases quote with
      | none =>
          obtain rfl : opened = [] := opens
          rw [untilBracket?] at read
          by_cases bracket : char = '>'
          · rw [if_pos bracket] at read
            cases read
            exact .stop
          · rw [if_neg bracket] at read
            by_cases quoting : char = '\x22' ∨ char = '\x27'
            · rw [if_pos quoting] at read
              obtain ⟨tail, tailRead, rfl⟩ := Option.map_eq_some_iff.mp read
              have opening : Opens (some char) [char] := ⟨quoting, [], List.not_mem_nil, rfl⟩
              have passed := ih tailRead opening
              exact passed
            · rw [if_neg quoting] at read
              obtain ⟨tail, tailRead, rfl⟩ := Option.map_eq_some_iff.mp read
              have plain : isMark char = false :=
                isMark_eq_false_iff.mpr ⟨bracket, not_or.mp quoting⟩
              exact .more (matches_item_iff.mpr ⟨rfl, Or.inl ⟨char, plain, rfl⟩⟩)
                (List.cons_ne_nil _ _) (ih tailRead opens_nil)
      | some mark =>
          obtain ⟨quoting, inside, free, rfl⟩ := opens
          rw [untilBracket?] at read
          obtain ⟨tail, tailRead, rfl⟩ := Option.map_eq_some_iff.mp read
          by_cases closes : char = mark
          · rw [if_pos closes] at tailRead
            have once : item.Matches (mark :: (inside ++ [mark])) [] :=
              matches_item_iff.mpr ⟨rfl, Or.inr ⟨mark, inside, quoting, free, rfl⟩⟩
            have whole := Matches.more once (List.cons_ne_nil _ _) (ih tailRead opens_nil)
            rw [closes]
            simpa using whole
          · rw [if_neg closes] at tailRead
            have longer : Opens (some mark) (mark :: (inside ++ [char])) := by
              refine ⟨quoting, inside ++ [char], fun member => ?_, rfl⟩
              rcases List.mem_append.mp member with earlier | last
              · exact free earlier
              · exact closes (List.mem_singleton.mp last).symm
            simpa using ih tailRead longer

theorem matches_attributePart_iff :
    attributePart.Matches part matched ↔
      matched = [] ∧ part ≠ [] ∧ ∀ rest, attributes? (part ++ '>' :: rest) = some part := by
  unfold attributePart
  simp only [matches_choice_iff, matches_sequence_iff, matches_oneOf_iff, matches_only_iff]
  constructor
  · rintro (⟨_, items, _, _, ⟨char, blank, rfl, rfl⟩, matchedItems, rfl, rfl⟩ | ⟨rfl, rfl⟩)
    · obtain ⟨rfl, passes⟩ := untilBracket?_of_matches matchedItems
      refine ⟨rfl, List.cons_ne_nil _ _, fun rest => ?_⟩
      rw [List.singleton_append, List.cons_append, attributes?_cons_of_isBlank blank, passes]
      simp [untilBracket?]
    · exact ⟨rfl, List.cons_ne_nil _ _, fun rest => rfl⟩
  · rintro ⟨rfl, filled, reads⟩
    obtain ⟨char, items, rfl⟩ := List.exists_cons_of_ne_nil filled
    have read := reads []
    unfold attributes? at read
    split at read
    · cases read
    · cases read
    · rename_i shape
      cases read
      exact Or.inr ⟨rfl, rfl⟩
    · rename_i shape
      cases shape
      split at read
      · rename_i blank
        obtain ⟨tail, tailRead, same⟩ := Option.map_eq_some_iff.mp read
        cases same
        exact Or.inl ⟨[char], items, [], [], ⟨char, blank, rfl, rfl⟩,
          matches_of_untilBracket? tailRead opens_nil, rfl, rfl⟩
      · cases read

/-! ### Tags -/

theorem matches_namePart_iff :
    namePart.Matches text matched ↔
      matched = [] ∧ ∃ first more, text = first :: more ∧ Text.isAsciiLetter first = true ∧
        ∀ char ∈ more, isNameChar char = true := by
  unfold namePart
  simp only [matches_sequence_iff, matches_oneOf_iff, matches_star_oneOf_iff]
  constructor
  · rintro ⟨_, more, _, _, ⟨first, letter, rfl, rfl⟩, ⟨chars, rfl⟩, rfl, rfl⟩
    exact ⟨rfl, first, more, rfl, letter, chars⟩
  · rintro ⟨rfl, first, more, rfl, letter, chars⟩
    exact ⟨[first], more, [], [], ⟨first, letter, rfl, rfl⟩, ⟨chars, rfl⟩, rfl, rfl⟩

theorem matches_slashPart_iff :
    slashPart.Matches text matched ↔
      matched = [] ∧ ∃ closing : Bool, text = if closing then ['/'] else [] := by
  unfold slashPart
  rw [matches_optional_iff, matches_only_iff]
  constructor
  · rintro (⟨rfl, rfl⟩ | ⟨rfl, rfl⟩)
    · exact ⟨rfl, true, rfl⟩
    · exact ⟨rfl, false, rfl⟩
  · rintro ⟨rfl, _ | _, rfl⟩
    · exact Or.inr ⟨rfl, rfl⟩
    · exact Or.inl ⟨rfl, rfl⟩

theorem matches_optional_attributePart_iff :
    (Expression.optional (.group 3 attributePart)).Matches part matched ↔
      (∀ rest, attributes? (part ++ '>' :: rest) = some part) ∧
        matched = if part = [] then [] else [(3, part)] := by
  rw [matches_optional_iff, matches_group_iff]
  simp only [matches_attributePart_iff]
  constructor
  · rintro (⟨_, ⟨rfl, filled, reads⟩, rfl⟩ | ⟨rfl, rfl⟩)
    · exact ⟨reads, (if_neg filled).symm⟩
    · exact ⟨fun rest => rfl, rfl⟩
  · rintro ⟨reads, rfl⟩
    by_cases none : part = []
    · exact Or.inr ⟨none, if_pos none⟩
    · exact Or.inl ⟨[], ⟨rfl, none, reads⟩, if_neg none⟩

/-- The expression matches the texts of tags, and cuts out their parts. -/
theorem matches_expression_iff :
    expression.Matches text matched ↔
      ∃ tag : TagText, tag.Proper ∧ text = tag.text ∧ matched = tag.groups := by
  unfold expression
  simp only [matches_only_sequence_iff, matches_group_sequence_iff, matches_sequence_only_iff,
    matches_slashPart_iff, matches_namePart_iff, matches_optional_attributePart_iff]
  constructor
  · rintro ⟨_, ⟨_, _, _, _, ⟨rfl, closing, rfl⟩, ⟨name, _, _, _, ⟨rfl, named⟩,
      ⟨part, ⟨reads, rfl⟩, rfl⟩, rfl, rfl⟩, rfl, rfl⟩, rfl⟩
    refine ⟨⟨closing, name, part⟩, ⟨named, reads⟩, ?_, rfl⟩
    simp [TagText.text]
  · rintro ⟨tag, ⟨named, reads⟩, rfl, rfl⟩
    refine ⟨_, ⟨_, _, [], _, ⟨rfl, tag.closing, rfl⟩, ⟨tag.name, _, [], _, ⟨rfl, named⟩,
      ⟨tag.attributes, ⟨reads, rfl⟩, rfl⟩, rfl, rfl⟩, rfl, rfl⟩, ?_⟩
    simp [TagText.text]

/-! ### One way to match -/

/-- Reading the longer text gives the tag of either beginning. -/
theorem expression_unambiguous : expression.Unambiguous := by
  intro first second left right matched others same matchedFirst matchedSecond
  obtain ⟨tag, proper, rfl, rfl⟩ := matches_expression_iff.mp matchedFirst
  obtain ⟨other, alsoProper, rfl, rfl⟩ := matches_expression_iff.mp matchedSecond
  have read := read?_text proper left
  rw [same, read?_text alsoProper, Option.some.injEq] at read
  rw [read]
  exact ⟨rfl, rfl⟩

/-- Reading a tag and searching the expression find the same, in the same order. -/
theorem pattern_expression (text : List Char) :
    expression.pattern text = (pattern.mapValue groups) text := by
  refine Option.ext fun reading => ?_
  rw [expression_unambiguous.pattern_eq_some_iff, matches_expression_iff, Pattern.mapValue,
    Option.map_eq_some_iff]
  obtain ⟨value, part⟩ := reading
  constructor
  · rintro ⟨⟨rest, rfl⟩, tag, proper, partEq, valueEq⟩
    simp only at partEq valueEq
    exact ⟨⟨tag, tag.text⟩, by rw [partEq, pattern_text proper], by rw [partEq, valueEq]⟩
  · rintro ⟨found, read, same⟩
    obtain ⟨proper, partEq, begins⟩ := pattern_eq_some read
    cases same
    exact ⟨begins, found.value, proper, partEq, rfl⟩

theorem exists_unique_split (whole : expression.Matches part matched) :
    ∃ tag : TagText, (part = tag.text ∧ matched = tag.groups) ∧
      ∀ other : TagText, matched = other.groups → other = tag := by
  obtain ⟨tag, -, partEq, groupsEq⟩ := matches_expression_iff.mp whole
  exact ⟨tag, ⟨partEq, groupsEq⟩, fun other same => groups_injective (same.symm.trans groupsEq)⟩

theorem finds_of_agreeOn {first second : List Char} {span : Span}
    (agree : Utf8.AgreeOn span first second)
    (finds : expression.pattern.Finds first ⟨matched, span⟩) :
    expression.pattern.Finds second ⟨matched, span⟩ := by
  have same : expression.pattern = pattern.mapValue groups := funext pattern_expression
  rw [same, Pattern.finds_mapValue_iff] at finds ⊢
  obtain ⟨tag, found, groupsEq⟩ := finds
  exact ⟨tag, bracketed.finds_of_agreeOn agree found, groupsEq⟩

/-- Of the texts that begin at one place at most one is matched by the expression of tags, and
it falls into a slash, a name and an attribute part in one way; none that is matched begins
another.  Whether a tag is found in a span depends on the bytes of the span alone.  And the
pass forward, which never goes back, finds what the search with its choices finds. -/
theorem tag_match_unambiguous_local :
    (∀ (text : List Char) (start stop other : Nat) (part second : List Char)
      (matched others : Groups), Text.slice? text ⟨start, stop⟩ = some part →
        expression.Matches part matched → Text.slice? text ⟨start, other⟩ = some second →
        expression.Matches second others → stop = other ∧ matched = others) ∧
    (∀ (left right : List Char) (matched others : Groups), left <+: right →
      expression.Matches left matched → expression.Matches right others → left = right) ∧
    (∀ (part : List Char) (matched : Groups), expression.Matches part matched →
      ∃ tag : TagText, (part = tag.text ∧ matched = tag.groups) ∧
        ∀ other : TagText, matched = other.groups → other = tag) ∧
    (∀ (first second : List Char) (span : Span), Utf8.AgreeOn span first second →
      (∀ matched, expression.pattern.Finds first ⟨matched, span⟩ ↔
        expression.pattern.Finds second ⟨matched, span⟩) ∧
      ∀ tag, pattern.Finds first ⟨tag, span⟩ ↔ pattern.Finds second ⟨tag, span⟩) ∧
    ∀ text : List Char,
      expression.pattern text =
        (pattern text).map (fun reading => ⟨reading.value.groups, reading.text⟩) ∧
      expression.pattern.findAll text =
        (pattern.findAll text).map fun found => ⟨found.value.groups, found.span⟩ := by
  refine ⟨?_, ?_, fun _ _ => exists_unique_split, ?_, fun text => ⟨pattern_expression text, ?_⟩⟩
  · intro text start stop other part second matched others cut matchedPart cutOther matchedOther
    exact expression_unambiguous.stop_unique cut matchedPart cutOther matchedOther
  · intro left right matched others begins matchedLeft matchedRight
    exact expression_unambiguous.eq_of_prefix begins matchedLeft matchedRight
  · intro first second span agree
    exact ⟨fun matched => ⟨finds_of_agreeOn agree, finds_of_agreeOn agree.symm⟩,
      fun tag => ⟨bracketed.finds_of_agreeOn agree, bracketed.finds_of_agreeOn agree.symm⟩⟩
  · have same : expression.pattern = pattern.mapValue groups := funext pattern_expression
    rw [same]
    exact pattern.findAll_mapValue groups text

theorem tag_match_unambiguous_local_in_quotes :
    Utf8.AgreeOn ⟨2, 19⟩ "é<a title='1 > 0'> and".toList "é<a title='1 > 0'><b>".toList ∧
    pattern.Finds "é<a title='1 > 0'><b>".toList
      ⟨⟨false, ['a'], " title='1 > 0'".toList⟩, ⟨2, 19⟩⟩ := by
  have agree : Utf8.AgreeOn ⟨2, 19⟩ "é<a title='1 > 0'> and".toList
      "é<a title='1 > 0'><b>".toList := by decide
  refine ⟨agree, ((tag_match_unambiguous_local.2.2.2.1 _ _ _ agree).2 _).mp ?_⟩
  exact ⟨['é'], ⟨⟨false, ['a'], " title='1 > 0'".toList⟩, "<a title='1 > 0'>".toList⟩,
    " and".toList, rfl, rfl, rfl, rfl⟩

end TagText

end PageCheck
