import PageCheck.Markup.Content
import PageCheck.Proofs.Scanning

/-! Letter case in what is read.  Every pattern of markup reads a text in lower case
as it reads the text itself, and what it reads is then in lower case too.  So a pass
divides both texts at the same places, and scanning, stripping and trimming a text
can be done before or after its letters are lowered. -/

set_option autoImplicit false

namespace PageCheck

namespace Text

/-! ### Characters -/

/-- A class of characters that holds a letter in both cases or in neither. -/
def Caseless (kept : Char → Bool) : Prop :=
  ∀ char, kept (lowerChar char) = kept char

/-- What holds of a character and its lower case need only be shown for the capitals. -/
theorem forall_lowerChar (property : Char → Char → Prop) (same : ∀ char, property char char)
    (capitals : ∀ index : Fin 26,
      property (Char.ofNat (index + 65)) (Char.ofNat (index + 97))) (char : Char) :
    property char (lowerChar char) := by
  rcases lowerChar_cases char with lowered | ⟨low, high, code⟩
  · rw [lowered]
    exact same char
  · have capital := capitals ⟨char.toNat - 65, by omega⟩
    have charEq : Char.ofNat (char.toNat - 65 + 65) = char := by
      rw [Nat.sub_add_cancel low, Char.ofNat_toNat]
    have loweredEq : Char.ofNat (char.toNat - 65 + 97) = lowerChar char := by
      rw [show char.toNat - 65 + 97 = (lowerChar char).toNat by omega, Char.ofNat_toNat]
    rwa [charEq, loweredEq] at capital

theorem caseless_of_capitals {kept : Char → Bool}
    (capitals : ∀ index : Fin 26,
      kept (Char.ofNat (index + 97)) = kept (Char.ofNat (index + 65))) : Caseless kept :=
  forall_lowerChar (fun char lowered => kept lowered = kept char)
    (fun _ => rfl) capitals

theorem caseless_isBlank : Caseless isBlank :=
  caseless_of_capitals (by decide)

theorem caseless_isAsciiLetter : Caseless isAsciiLetter :=
  caseless_of_capitals (by decide)

theorem caseless_isWordChar : Caseless isWordChar :=
  caseless_of_capitals (by decide)

theorem lowerChar_lowerChar (char : Char) : lowerChar (lowerChar char) = lowerChar char :=
  forall_lowerChar (fun char lowered => lowerChar lowered = lowerChar char)
    (fun _ => rfl) (by decide) char

theorem utf8Size_lowerChar (char : Char) : (lowerChar char).utf8Size = char.utf8Size :=
  forall_lowerChar (fun char lowered => lowered.utf8Size = char.utf8Size)
    (fun _ => rfl) (by decide) char

theorem lowerChar_eq_iff (mark : Char) (other : isAsciiLetter mark = false) {char : Char} :
    lowerChar char = mark ↔ char = mark := by
  rcases lowerChar_cases char with lowered | ⟨low, high, -⟩
  · rw [lowered]
  · -- a capital is a letter, and so is what becomes of it
    have letter : isAsciiLetter char = true :=
      (TagText.isAsciiLetter_iff char).mpr (Or.inr ⟨low, high⟩)
    constructor
    · intro same
      rw [← same, caseless_isAsciiLetter, letter] at other
      cases other
    · intro same
      rw [← same, letter] at other
      cases other

/-! ### Texts -/

theorem lower_cons (char : Char) (rest : List Char) :
    lower (char :: rest) = lowerChar char :: lower rest := rfl

theorem lower_append (first second : List Char) :
    lower (first ++ second) = lower first ++ lower second :=
  List.map_append

theorem lower_lower (text : List Char) : lower (lower text) = lower text := by
  unfold lower
  rw [List.map_map]
  exact List.map_congr_left fun char _ => lowerChar_lowerChar char

theorem lowerName_lower (text : List Char) : lowerName (lower text) = lowerName text :=
  congrArg String.ofList (lower_lower text)

theorem length_lower (text : List Char) : (lower text).length = text.length :=
  List.length_map _

theorem isEmpty_lower (text : List Char) : (lower text).isEmpty = text.isEmpty :=
  List.isEmpty_map

theorem byteLength_lower (text : List Char) : byteLength (lower text) = byteLength text := by
  induction text with
  | nil => rfl
  | cons char rest ih => rw [lower_cons, byteLength, byteLength, utf8Size_lowerChar, ih]

theorem prefix_lower_iff (marks : List Char) (others : marks.any isAsciiLetter = false)
    (text : List Char) : marks <+: lower text ↔ marks <+: text := by
  induction marks generalizing text with
  | nil => exact ⟨fun _ => List.nil_prefix, fun _ => List.nil_prefix⟩
  | cons mark marks ih =>
      obtain ⟨other, rest⟩ := Bool.or_eq_false_iff.mp others
      cases text with
      | nil => rfl
      | cons char text =>
          rw [lower_cons, List.cons_prefix_cons, List.cons_prefix_cons, ih rest,
            eq_comm, lowerChar_eq_iff _ other, eq_comm]

section Class

variable {kept : Char → Bool} (caseless : Caseless kept)

include caseless

theorem comp_lowerChar : kept ∘ lowerChar = kept :=
  funext caseless

theorem all_lower (text : List Char) : (lower text).all kept = text.all kept := by
  unfold lower
  rw [List.all_map, comp_lowerChar caseless]

theorem takeWhile_lower (text : List Char) :
    (lower text).takeWhile kept = lower (text.takeWhile kept) := by
  unfold lower
  rw [List.takeWhile_map, comp_lowerChar caseless]

theorem dropWhile_lower (text : List Char) :
    (lower text).dropWhile kept = lower (text.dropWhile kept) := by
  unfold lower
  rw [List.dropWhile_map, comp_lowerChar caseless]

theorem trimEndWhere_lower (text : List Char) :
    trimEndWhere kept (lower text) = lower (trimEndWhere kept text) := by
  induction text with
  | nil => rfl
  | cons char rest ih =>
      have step (text : List Char) (char : Char) : trimEndWhere kept (char :: text) =
          if (trimEndWhere kept text).isEmpty && kept char then [] else
            char :: trimEndWhere kept text := rfl
      rw [lower_cons, step, step, ih, isEmpty_lower, caseless char]
      split
      · rfl
      · rfl

end Class

theorem trim_lower (text : List Char) : trim (lower text) = lower (trim text) := by
  unfold trim trimStart trimEnd
  rw [dropWhile_lower caseless_isBlank, trimEndWhere_lower caseless_isBlank]

/-! ### Slices -/

private theorem dropBytes?_lower (text : List Char) (count : Nat) :
    dropBytes? (lower text) count = (dropBytes? text count).map lower := by
  induction text generalizing count with
  | nil => cases count <;> rfl
  | cons char rest ih =>
      cases count with
      | zero => rfl
      | succ count =>
          rw [lower_cons, dropBytes?, dropBytes?, utf8Size_lowerChar, ih]
          split
          · rfl
          · rfl

private theorem takeBytes?_lower (text : List Char) (count : Nat) :
    takeBytes? (lower text) count = (takeBytes? text count).map lower := by
  induction text generalizing count with
  | nil => cases count <;> rfl
  | cons char rest ih =>
      cases count with
      | zero => rfl
      | succ count =>
          rw [lower_cons, takeBytes?, takeBytes?, utf8Size_lowerChar, ih]
          split
          · rw [Option.map_map, Option.map_map]
            rfl
          · rfl

theorem slice?_lower (text : List Char) (span : Span) :
    slice? (lower text) span = (slice? text span).map lower := by
  unfold slice?
  split
  · rw [dropBytes?_lower]
    cases dropBytes? text span.start with
    | none => rfl
    | some rest => exact takeBytes?_lower rest span.length
  · rfl

end Text

open Text (Caseless caseless_of_capitals lower_cons lowerChar_eq_iff prefix_lower_iff)

/-! ### Passes -/

section Passes

variable {α : Type}

def Reading.lower (fold : α → α) (reading : Reading α) : Reading α :=
  ⟨fold reading.value, Text.lower reading.text⟩

def Piece.lower (fold : α → α) : Piece α → Piece α
  | .plain char => .plain (Text.lowerChar char)
  | .hit reading => .hit (reading.lower fold)

def Found.lower (fold : α → α) (found : Found α) : Found α :=
  ⟨fold found.value, found.span⟩

namespace Pattern

/-- The pattern reads a text in lower case as it reads the text, with the value that
`fold` makes of the other. -/
def Folds (pattern : Pattern α) (fold : α → α) : Prop :=
  ∀ text, pattern (Text.lower text) = (pattern text).map (Reading.lower fold)

variable {pattern : Pattern α} {fold : α → α}

private theorem Folds.piecesAfter (folds : pattern.Folds fold) (skip : Nat) (text : List Char) :
    pattern.piecesAfter skip (Text.lower text) =
      (pattern.piecesAfter skip text).map (Piece.lower fold) := by
  induction text generalizing skip with
  | nil => cases skip <;> rfl
  | cons char rest ih =>
      cases skip with
      | succ skip => exact ih skip
      | zero =>
          have here := folds (char :: rest)
          rw [lower_cons] at here ⊢
          rw [Pattern.piecesAfter, Pattern.piecesAfter, here]
          cases pattern (char :: rest) with
          | none => exact congrArg (.plain (Text.lowerChar char) :: ·) (ih 0)
          | some reading =>
              simp only [Option.map_some, Reading.lower, Text.length_lower, List.map_cons, ih]
              rfl

theorem Folds.pieces (folds : pattern.Folds fold) (text : List Char) :
    pattern.pieces (Text.lower text) = (pattern.pieces text).map (Piece.lower fold) :=
  folds.piecesAfter 0 text

private theorem locate_lower (fold : α → α) (offset : Nat) (pieces : List (Piece α)) :
    locate offset (pieces.map (Piece.lower fold)) =
      (locate offset pieces).map (Found.lower fold) := by
  induction pieces generalizing offset with
  | nil => rfl
  | cons piece rest ih =>
      cases piece with
      | plain char =>
          rw [List.map_cons, Piece.lower, locate, locate, Text.utf8Size_lowerChar, ih]
      | hit reading =>
          rw [List.map_cons, Piece.lower, locate, locate, Reading.lower, Text.byteLength_lower, ih]
          rfl

/-- The same readings stand at the same places. -/
theorem Folds.findAll (folds : pattern.Folds fold) (text : List Char) :
    pattern.findAll (Text.lower text) = (pattern.findAll text).map (Found.lower fold) := by
  unfold Pattern.findAll
  rw [folds.pieces, locate_lower]

theorem Folds.spans (folds : pattern.Folds fold) (text : List Char) :
    pattern.spans (Text.lower text) = pattern.spans text := by
  unfold Pattern.spans
  rw [folds.findAll, List.map_map]
  rfl

theorem Folds.erase (folds : pattern.Folds fold) (text : List Char) :
    pattern.erase (Text.lower text) = Text.lower (pattern.erase text) := by
  unfold Pattern.erase Text.lower
  rw [← Text.lower, folds.pieces, List.filterMap_map, List.map_filterMap]
  refine congrArg (List.filterMap · _) (funext fun piece => ?_)
  cases piece <;> rfl

theorem Folds.values (folds : pattern.Folds fold) (text : List Char) :
    pattern.values (Text.lower text) = (pattern.values text).map fold := by
  unfold Pattern.values
  rw [folds.pieces, List.filterMap_map, List.map_filterMap]
  refine congrArg (List.filterMap · _) (funext fun piece => ?_)
  cases piece <;> rfl

end Pattern

end Passes

/-! ### Comments -/

namespace Comment

private theorem throughClose?_lower (text : List Char) :
    throughClose? (Text.lower text) = (throughClose? text).map Text.lower := by
  induction text with
  | nil => rfl
  | cons char rest ih =>
      have closes := prefix_lower_iff close rfl (char :: rest)
      by_cases here : close <+: char :: rest
      · obtain ⟨behind, same⟩ := here
        rw [← same, throughClose?_close]
        exact throughClose?_close (Text.lower behind)
      · rw [lower_cons] at closes ⊢
        rw [throughClose?_cons here, throughClose?_cons fun there => here (closes.mp there), ih,
          Option.map_map, Option.map_map]
        rfl

private theorem pattern_unopened {text : List Char} (unopened : ¬ ['<', '!', '-', '-'] <+: text) :
    pattern text = none := by
  unfold pattern
  split
  · exact absurd ⟨_, rfl⟩ unopened
  · rfl

theorem folds : pattern.Folds id := by
  intro text
  have opens := prefix_lower_iff ['<', '!', '-', '-'] rfl text
  by_cases here : ['<', '!', '-', '-'] <+: text
  · obtain ⟨rest, rfl⟩ := here
    have read := throughClose?_lower rest
    change (throughClose? (Text.lower rest)).map _ = ((throughClose? rest).map _).map _
    rw [read, Option.map_map, Option.map_map]
    rfl
  · rw [pattern_unopened here, pattern_unopened fun there => here (opens.mp there)]
    rfl

theorem spans_lower (text : List Char) : spans (Text.lower text) = spans text :=
  folds.spans text

theorem strip_lower (text : List Char) : strip (Text.lower text) = Text.lower (strip text) :=
  folds.erase text

end Comment

/-! ### Document type declarations -/

namespace Doctype

private theorem throughBracket?_lower (text : List Char) :
    throughBracket? (Text.lower text) = (throughBracket? text).map Text.lower := by
  induction text with
  | nil => rfl
  | cons char rest ih =>
      rw [lower_cons, throughBracket?, throughBracket?, ih]
      by_cases bracket : char = '>'
      · subst bracket
        rfl
      · rw [if_neg bracket, if_neg fun lowered => bracket ((lowerChar_eq_iff _ rfl).mp lowered),
          Option.map_map, Option.map_map]
        rfl

private theorem startsWord_lower (text : List Char) :
    startsWord (Text.lower text) = startsWord text := by
  cases text with
  | nil => rfl
  | cons char rest => exact Text.caseless_isWordChar char

theorem folds : pattern.Folds id := by
  intro text
  have head : (Text.lower text).take keyword.length = Text.lower (text.take keyword.length) :=
    List.map_take.symm
  have rest : (Text.lower text).drop keyword.length = Text.lower (text.drop keyword.length) :=
    List.map_drop.symm
  unfold pattern
  simp only [head, rest, Text.lower_lower, startsWord_lower, throughBracket?_lower]
  split
  · rw [Option.map_map, Option.map_map]
    refine congrArg (Option.map · _) (funext fun body => ?_)
    simp only [Function.comp_apply, Reading.lower, Text.lower_append]
  · rfl

theorem strip_lower (text : List Char) : strip (Text.lower text) = Text.lower (strip text) :=
  folds.erase text

theorem find?_lower (text : List Char) : find? (Text.lower text) = find? text := by
  unfold find?
  rw [Comment.spans_lower, folds.spans]

end Doctype

/-! ### Attributes -/

def Text.lowerString (text : String) : String :=
  lowerName text.toList

theorem Text.lowerString_ofList (text : List Char) :
    lowerString (String.ofList text) = String.ofList (lower text) := by
  unfold lowerString lowerName
  rw [String.toList_ofList]

namespace Attribute

def lower (entry : Attribute) : Attribute :=
  ⟨entry.name, entry.value.map Text.lowerString⟩

theorem caseless_isNameChar : Caseless isNameChar :=
  caseless_of_capitals (by decide)

theorem caseless_isBareChar : Caseless isBareChar :=
  caseless_of_capitals (by decide)

private theorem untilQuote?_lower {quote : Char} (mark : Text.isAsciiLetter quote = false)
    (text : List Char) :
    untilQuote? quote (Text.lower text) = (untilQuote? quote text).map Text.lower := by
  induction text with
  | nil => rfl
  | cons char rest ih =>
      rw [lower_cons, untilQuote?, untilQuote?, ih]
      simp only [lowerChar_eq_iff _ mark]
      split
      · rfl
      · rw [Option.map_map, Option.map_map]
        rfl

private theorem value?_folds : value?.Folds Text.lower := by
  intro text
  cases text with
  | nil => rfl
  | cons char rest =>
      rw [lower_cons, value?, value?]
      simp only [lowerChar_eq_iff '\x22' rfl, lowerChar_eq_iff '\x27' rfl,
        caseless_isBareChar char]
      split
      · rename_i quoted
        have mark : Text.isAsciiLetter char = false := by
          rcases quoted with rfl | rfl <;> rfl
        have same : Text.lowerChar char = char := (lowerChar_eq_iff _ mark).mpr rfl
        rw [same, untilQuote?_lower mark, Option.map_map, Option.map_map]
        refine congrArg (Option.map · _) (funext fun body => ?_)
        simp only [Function.comp_apply, Reading.lower, lower_cons, List.cons_append,
          Text.lower_append, same]
        rfl
      · split
        · rw [← lower_cons, Text.takeWhile_lower caseless_isBareChar]
          rfl
        · rfl

private theorem assignment?_folds : assignment?.Folds Text.lower := by
  intro text
  unfold assignment?
  simp only [Text.takeWhile_lower Text.caseless_isBlank, Text.dropWhile_lower Text.caseless_isBlank]
  cases text.dropWhile Text.isBlank with
  | nil => rfl
  | cons char rest =>
      rw [lower_cons]
      by_cases sign : char = '='
      · subst sign
        change (value? ((Text.lower rest).dropWhile Text.isBlank)).map _ =
          ((value? (rest.dropWhile Text.isBlank)).map _).map _
        rw [Text.dropWhile_lower Text.caseless_isBlank,
          Text.takeWhile_lower Text.caseless_isBlank, value?_folds, Option.map_map,
          Option.map_map]
        refine congrArg (Option.map · _) (funext fun reading => ?_)
        simp only [Function.comp_apply, Reading.lower, Text.lower_append, lower_cons]
        rfl
      · have other : Text.lowerChar char ≠ '=' :=
          fun same => sign ((lowerChar_eq_iff _ rfl).mp same)
        split
        · rename_i shape
          exact absurd (List.cons.inj shape).1 other
        · split
          · rename_i shape
            exact absurd (List.cons.inj shape).1 sign
          · rfl

theorem folds : pattern.Folds lower := by
  intro text
  unfold pattern
  rw [Text.takeWhile_lower caseless_isNameChar, Text.dropWhile_lower caseless_isNameChar,
    assignment?_folds]
  cases text.takeWhile isNameChar with
  | nil => rfl
  | cons char rest =>
      rw [lower_cons]
      simp only
      rw [← lower_cons]
      cases assignment? (text.dropWhile isNameChar) with
      | none =>
          simp only [Option.map_none, Option.map_some, Reading.lower, lower, Text.lowerName_lower]
      | some reading =>
          simp only [Option.map_some, Reading.lower, lower, Text.lowerName_lower,
            Text.lowerString_ofList, Text.lower_append]

theorem readAll_lower (text : List Char) :
    readAll (Text.lower text) = (readAll text).map lower :=
  folds.values text

end Attribute

/-! ### Tags -/

namespace TagText

def lower (tag : TagText) : TagText :=
  ⟨tag.closing, Text.lower tag.name, Text.lower tag.attributes⟩

theorem text_lower (tag : TagText) : tag.lower.text = Text.lower tag.text := by
  unfold text lower
  cases tag.closing <;>
    simp only [Bool.false_eq_true, if_false, if_true, Text.lower_append, lower_cons] <;> rfl

theorem caseless_isNameChar : Caseless isNameChar :=
  caseless_of_capitals (by decide)

private theorem untilBracket?_lower {quote : Option Char}
    (mark : ∀ char ∈ quote, Text.isAsciiLetter char = false) (text : List Char) :
    untilBracket? quote (Text.lower text) = (untilBracket? quote text).map Text.lower := by
  induction text generalizing quote with
  | nil => cases quote <;> rfl
  | cons char rest ih =>
      cases quote with
      | none =>
          rw [lower_cons, untilBracket?, untilBracket?]
          simp only [lowerChar_eq_iff '>' rfl, lowerChar_eq_iff '\x22' rfl,
            lowerChar_eq_iff '\x27' rfl]
          split
          · rfl
          · split
            · rename_i quoting
              have opens : Text.isAsciiLetter char = false := by
                rcases quoting with rfl | rfl <;> rfl
              have same : Text.lowerChar char = char := (lowerChar_eq_iff _ opens).mpr rfl
              have inside : ∀ mark ∈ some char, Text.isAsciiLetter mark = false := by
                rintro mark ⟨rfl⟩
                exact opens
              rw [same, ih inside, Option.map_map, Option.map_map]
              refine congrArg (Option.map · _) (funext fun body => ?_)
              simp only [Function.comp_apply, lower_cons, same]
            · rw [ih mark, Option.map_map, Option.map_map]
              rfl
      | some quote =>
          have same : Text.lowerChar char = quote ↔ char = quote :=
            lowerChar_eq_iff quote (mark quote rfl)
          rw [lower_cons, untilBracket?, untilBracket?]
          simp only [same]
          have behind : ∀ mark ∈ (if char = quote then none else some quote),
              Text.isAsciiLetter mark = false := by
            intro other member
            split at member
            · cases member
            · exact mark other member
          rw [ih behind, Option.map_map, Option.map_map]
          rfl

private theorem attributes?_cons {char : Char} {rest : List Char} (bracket : char ≠ '>')
    (slash : ¬ ['/', '>'] <+: char :: rest) :
    attributes? (char :: rest) =
      if Text.isBlank char then (untilBracket? none rest).map (char :: ·) else none := by
  unfold attributes?
  split
  · rename_i shape
    cases shape
  · rename_i shape
    exact absurd (List.cons.inj shape).1 bracket
  · rename_i shape
    exact absurd ⟨_, shape.symm⟩ slash
  · rename_i shape
    cases shape
    rfl

private theorem attributes?_lower (text : List Char) :
    attributes? (Text.lower text) = (attributes? text).map Text.lower := by
  cases text with
  | nil => rfl
  | cons char rest =>
      have slashes := prefix_lower_iff ['/', '>'] rfl (char :: rest)
      rw [lower_cons] at slashes ⊢
      by_cases bracket : char = '>'
      · subst bracket
        rfl
      · by_cases slash : ['/', '>'] <+: char :: rest
        · obtain ⟨behind, same⟩ := slash
          cases same
          rfl
        · have lowered : Text.lowerChar char ≠ '>' :=
            fun same => bracket ((lowerChar_eq_iff _ rfl).mp same)
          rw [attributes?_cons bracket slash,
            attributes?_cons lowered fun there => slash (slashes.mp there),
            Text.caseless_isBlank char, untilBracket?_lower (by nofun)]
          split
          · rw [Option.map_map, Option.map_map]
            rfl
          · rfl

private theorem named?_lower (closing : Bool) (text : List Char) :
    named? closing (Text.lower text) = (named? closing text).map lower := by
  cases text with
  | nil => rfl
  | cons char rest =>
      rw [lower_cons, named?, named?, Text.caseless_isAsciiLetter char,
        Text.takeWhile_lower caseless_isNameChar, Text.dropWhile_lower caseless_isNameChar,
        attributes?_lower]
      split
      · rw [Option.map_map, Option.map_map]
        rfl
      · rfl

private theorem read?_opening {rest : List Char} (slash : ¬ ['/'] <+: rest) :
    read? ('<' :: rest) = named? false rest := by
  unfold read?
  split
  · rename_i shape
    cases shape
    exact absurd ⟨_, rfl⟩ slash
  · rename_i shape
    cases shape
    rfl
  · rename_i other
    exact absurd rfl (other rest)

private theorem read?_unopened {text : List Char} (unopened : ¬ ['<'] <+: text) :
    read? text = none := by
  unfold read?
  split
  · exact absurd ⟨_, rfl⟩ unopened
  · exact absurd ⟨_, rfl⟩ unopened
  · rfl

private theorem read?_lower (text : List Char) :
    read? (Text.lower text) = (read? text).map lower := by
  have opens := prefix_lower_iff ['<'] rfl text
  by_cases here : ['<'] <+: text
  · obtain ⟨rest, rfl⟩ := here
    have slashes := prefix_lower_iff ['/'] rfl rest
    by_cases slash : ['/'] <+: rest
    · obtain ⟨behind, rfl⟩ := slash
      exact named?_lower true behind
    · have lowered := read?_opening fun there => slash (slashes.mp there)
      rw [List.singleton_append, read?_opening slash, ← named?_lower]
      exact lowered
  · rw [read?_unopened here, read?_unopened fun there => here (opens.mp there)]
    rfl

theorem folds : pattern.Folds lower := by
  intro text
  unfold pattern
  rw [read?_lower, Option.map_map, Option.map_map]
  refine congrArg (Option.map · _) (funext fun tag => ?_)
  simp only [Function.comp_apply, Reading.lower, text_lower]

end TagText

namespace Tag

def lower (tag : Tag) : Tag :=
  { tag with attributeText := Text.lower tag.attributeText }

theorem attributes_lower (tag : Tag) : tag.lower.attributes = tag.attributes.map Attribute.lower :=
  Attribute.readAll_lower tag.attributeText

end Tag

theorem TagText.placed_lower (tag : TagText) (span : Span) :
    tag.lower.placed span = (tag.placed span).lower := by
  have slash : Caseless (· == '/') := caseless_of_capitals (by decide)
  have kept : tag.lower.kind = tag.kind := by
    unfold TagText.kind TagText.lower Text.trimEnd
    simp only [Text.trimEndWhere_lower Text.caseless_isBlank]
    rw [Text.lower, List.getLast?_map]
    cases (Text.trimEndWhere Text.isBlank tag.attributes).getLast? with
    | none => rfl
    | some char => simp only [Option.map_some, Option.some.injEq, lowerChar_eq_iff '/' rfl]
  unfold TagText.placed Tag.lower
  rw [kept]
  simp only [TagText.lower, Text.lowerName_lower, Text.trimEndWhere_lower slash]

/-- Scanning finds the same tags in a text of either case. -/
theorem Tag.scan_lower (text : List Char) : scan (Text.lower text) = (scan text).map lower := by
  rw [scan_eq_filter, scan_eq_filter, Comment.spans_lower, TagText.folds.findAll, List.filter_map,
    List.map_map, List.map_map]
  exact List.map_congr_left fun found _ => TagText.placed_lower found.value found.span

/-! ### Content -/

namespace Content

theorem visible_lower (fragment : List Char) :
    visible (Text.lower fragment) = Text.lower (visible fragment) := by
  unfold visible
  rw [Comment.strip_lower, TagText.folds.erase, Text.trim_lower]

theorem isBlank_lower (fragment : List Char) :
    isBlank (Text.lower fragment) = isBlank fragment := by
  unfold isBlank Text.allBlank
  rw [Comment.strip_lower, Text.all_lower Text.caseless_isBlank]

end Content

end PageCheck
