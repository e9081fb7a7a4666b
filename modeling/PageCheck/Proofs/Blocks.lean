import PageCheck.Proofs.ParagraphLanguage
import PageCheck.Proofs.RenderedElements
import PageCheck.Proofs.VisibleText

/-! Blocks: paragraphs and headings in a row, with white space before each of them and
nothing but text in them.  In a source that holds such a row and no other paragraph or
heading, the rules accept all of them, and extraction takes a leaf from each. -/

set_option autoImplicit false

namespace PageCheck

/-- White space between tags. -/
structure Gap where
  text : List Char
  blank : Text.allBlank text = true

def Gap.token (gap : Gap) : Token :=
  .text gap.text (Text.not_mem_of_allBlank gap.blank Text.isBlank_bracket)

@[simp] theorem Token.names_gap (gap : Gap) (rest : List Token) :
    names (gap.token :: rest) = names rest := rfl

structure Block where
  gap : Gap
  name : TagName
  attributes : List WrittenAttribute
  text : List Char
  listed : name.lowered ∈ "p" :: Vocabulary.headings
  distinct : (attributes.map fun entry => entry.meant.name).Nodup
  free : '<' ∉ text
  seen : Text.allBlank text = false

namespace Block

def inside (block : Block) : List Token :=
  [.text block.text block.free]

def tokens (block : Block) : List Token :=
  block.gap.token :: Token.element block.name block.attributes block.inside

def tokensAll (blocks : List Block) : List Token :=
  blocks.flatMap tokens

def leaf (block : Block) : Node :=
  .leaf block.name.lowered (String.ofList (Text.trim block.text))
    (block.attributes.map fun entry => (entry.meant.name, entry.meant.valueOrEmpty))

/-- Blocks with their elements, the blocks being rendered behind an offset. -/
def place (offset : Nat) : List Block → List (Block × Element)
  | [] => []
  | block :: rest =>
      (block, Token.elementAt (offset + Token.size [block.gap.token]) block.name block.attributes
        block.inside) :: place (offset + Token.size block.tokens) rest

def elements (offset : Nat) (blocks : List Block) : List Element :=
  (place offset blocks).map (·.2)

theorem map_place (offset : Nat) (blocks : List Block) :
    (place offset blocks).map (·.1) = blocks := by
  induction blocks generalizing offset with
  | nil => rfl
  | cons block rest ih => rw [place, List.map_cons, ih]

theorem mem_names {blocks : List Block} {name : String}
    (member : name ∈ Token.names (tokensAll blocks)) : name ∈ "p" :: Vocabulary.headings := by
  induction blocks with
  | nil => cases member
  | cons block rest ih =>
      have split : Token.names (tokensAll (block :: rest)) =
          [block.name.lowered, block.name.lowered] ++ Token.names (tokensAll rest) := by
        rw [tokensAll, List.flatMap_cons, Token.names_append, tokens, Token.names_gap,
          Token.names_element]
        rfl
      rw [split] at member
      simp only [List.mem_append, List.mem_cons, List.not_mem_nil, or_false] at member
      rcases member with (rfl | rfl) | later
      · exact block.listed
      · exact block.listed
      · exact ih later

theorem plain_of_mem {blocks : List Block} {token : Token} (member : token ∈ tokensAll blocks) :
    token.isComment = false ∧ token.isDeclaration = false := by
  obtain ⟨block, -, here⟩ := List.mem_flatMap.mp member
  simp only [tokens, Token.element, inside, Gap.token, List.mem_cons, List.mem_append,
    List.not_mem_nil, or_false] at here
  rcases here with rfl | rfl | rfl | rfl <;> exact ⟨rfl, rfl⟩

theorem bracket_mem_render {blocks : List Block} (filled : blocks ≠ []) :
    '<' ∈ Token.render (tokensAll blocks) := by
  obtain ⟨block, rest, rfl⟩ := List.exists_cons_of_ne_nil filled
  apply List.mem_flatMap.mpr
  refine ⟨.opening block.name block.attributes, ?_, List.mem_cons_self⟩
  simp [tokensAll, tokens, Token.element]

theorem tags_tokensAll (offset : Nat) (blocks : List Block) :
    Token.tags offset (tokensAll blocks) = (elements offset blocks).flatMap Element.tags := by
  induction blocks generalizing offset with
  | nil => rfl
  | cons block rest ih =>
      have here : Token.tags offset block.tokens =
          (Token.elementAt (offset + Token.size [block.gap.token]) block.name block.attributes
            block.inside).tags := by
        rw [tokens, Token.tags_cons, Token.tags_element, Token.size_singleton]
        rfl
      rw [tokensAll, List.flatMap_cons, Token.tags_append, here]
      change _ ++ Token.tags _ (tokensAll rest) = _
      rw [ih]
      rfl

theorem matched_elements {offset : Nat} {blocks : List Block} :
    ∀ element ∈ elements offset blocks, element.Matched := by
  induction blocks generalizing offset with
  | nil =>
      intro element member
      cases member
  | cons block rest ih =>
      intro element member
      rcases List.mem_cons.mp member with rfl | later
      · exact Token.matched_elementAt _ _ _ _
      · exact ih element later

/-! ### One block among others -/

def surround (before after : List Token) (blocks : List Block) : List Char :=
  Token.render (before ++ (tokensAll blocks ++ after))

section

variable {before after : List Token} {blocks : List Block} {placed : Block × Element}

theorem exists_parts (member : placed ∈ place (Token.size before) blocks) (after : List Token) :
    ∃ front back, before ++ (tokensAll blocks ++ after) =
        front ++ (Token.element placed.1.name placed.1.attributes placed.1.inside ++ back) ∧
      placed.2 = Token.elementAt (Token.size front) placed.1.name placed.1.attributes
        placed.1.inside := by
  induction blocks generalizing before with
  | nil => cases member
  | cons block rest ih =>
      rcases List.mem_cons.mp member with rfl | later
      · refine ⟨before ++ [block.gap.token], tokensAll rest ++ after, ?_, ?_⟩
        · simp [tokensAll, tokens]
        · rw [Token.size_append]
      · rw [← Token.size_append] at later
        obtain ⟨front, back, shape, same⟩ := ih later
        refine ⟨front, back, ?_, same⟩
        rw [← shape]
        simp [tokensAll]

theorem slice_place (member : placed ∈ place (Token.size before) blocks) (length : Nat) :
    Text.slice? (surround before after blocks) (placed.2.innerSpan length) =
      some placed.1.text := by
  obtain ⟨front, back, shape, same⟩ := exists_parts member after
  rw [surround, shape, same, Token.slice_element, inside, Token.render]
  simp [Token.source]

theorem within_place (member : placed ∈ place (Token.size before) blocks) (length : Nat) :
    Tag.within (Tag.scan (surround before after blocks)) (placed.2.innerSpan length) = [] := by
  obtain ⟨front, back, shape, same⟩ := exists_parts member after
  rw [surround, shape, same, Token.within_element]
  rfl

theorem name_place (member : placed ∈ place (Token.size before) blocks) :
    placed.2.opening.name = placed.1.name.lowered := by
  obtain ⟨front, back, -, same⟩ := exists_parts member []
  rw [same]
  rfl

theorem leafNode_place (member : placed ∈ place (Token.size before) blocks) :
    Outline.leafNode (surround before after blocks) placed.2 = placed.1.leaf := by
  obtain ⟨front, back, shape, same⟩ := exists_parts member after
  rw [surround, shape, same, Token.leafNode_element _ _ _ _ _ placed.1.distinct,
    show Token.render placed.1.inside = placed.1.text from List.append_nil _]
  rfl

end

/-! ### All blocks of a source -/

/-- There are no other paragraphs and headings around the blocks. -/
def Alone (before after : List Token) : Prop :=
  ∀ name ∈ "p" :: Vocabulary.headings, name ∉ Token.names before ∧ name ∉ Token.names after

section

variable {before after : List Token} {blocks : List Block}

theorem ordered_elements :
    Tag.Ordered ((elements (Token.size before) blocks).flatMap Element.tags) := by
  have ordered := Tag.scan_ordered (Token.render (before ++ tokensAll blocks))
  rw [Token.scan_render, Token.tags_append, Nat.zero_add, tags_tokensAll] at ordered
  exact ordered.sublist (List.sublist_append_right _ _)

/-- Of the names of blocks, only the blocks have tags. -/
theorem filter_scan (alone : Alone before after) {wanted : String → Bool}
    (some : ∀ name, wanted name = true → name ∈ "p" :: Vocabulary.headings) :
    (Tag.scan (surround before after blocks)).filter (fun tag => wanted tag.name) =
      ((elements (Token.size before) blocks).flatMap Element.tags).filter
        fun tag => wanted tag.name := by
  have unwantedBefore : ∀ name ∈ Token.names before, wanted name = false := by
    intro name present
    by_contra listed
    exact (alone name (some name (by simpa using listed))).1 present
  have unwantedAfter : ∀ name ∈ Token.names after, wanted name = false := by
    intro name present
    by_contra listed
    exact (alone name (some name (by simpa using listed))).2 present
  rw [surround, Token.scan_render, Token.tags_append, Token.tags_append, List.filter_append,
    List.filter_append, Token.filter_tags_of_unwanted unwantedBefore,
    Token.filter_tags_of_unwanted unwantedAfter, List.nil_append, List.append_nil, Nat.zero_add,
    tags_tokensAll]

theorem named_scan (alone : Alone before after) {name : String}
    (listed : name ∈ "p" :: Vocabulary.headings) :
    Tag.named (Tag.scan (surround before after blocks)) name =
      Tag.named ((elements (Token.size before) blocks).flatMap Element.tags) name := by
  have some : ∀ other, (other == name) = true → other ∈ "p" :: Vocabulary.headings := by
    intro other same
    rwa [beq_iff_eq.mp same]
  exact filter_scan alone some

/-- The leaves of some of the names are those of the blocks with these names, in order. -/
theorem leafNodes_eq (alone : Alone before after) {names : List String} (distinct : names.Nodup)
    (listed : ∀ name ∈ names, name ∈ "p" :: Vocabulary.headings) :
    Outline.leafNodes names (surround before after blocks) =
      (blocks.filter fun block => names.contains block.name.lowered).map leaf := by
  have sorted : Outline.closedElements (surround before after blocks) names =
      (elements (Token.size before) blocks).filter
        fun element => names.contains element.opening.name :=
    Element.sort_pairs_of_row distinct matched_elements ordered_elements
      fun name member => named_scan alone (listed name member)
  have kept : ∀ placed ∈ place (Token.size before) blocks,
      names.contains placed.2.opening.name = names.contains placed.1.name.lowered := by
    intro placed member
    rw [name_place member]
  rw [Outline.leafNodes, sorted, elements, List.filter_map, List.map_map]
  conv => rhs; rw [← map_place (Token.size before) blocks, List.filter_map, List.map_map]
  have same : (place (Token.size before) blocks).filter
      ((fun element => names.contains element.opening.name) ∘ fun placed => placed.2) =
      (place (Token.size before) blocks).filter
        ((fun block => names.contains block.name.lowered) ∘ fun placed => placed.1) :=
    List.filter_congr kept
  rw [same]
  apply List.map_congr_left
  intro placed member
  exact leafNode_place (List.mem_filter.mp member).1

/-! ### The rules on blocks -/

theorem visible_text_ne_nil (block : Block) : Content.visible block.text ≠ [] := by
  rw [Content.visible_of_not_mem block.free]
  intro empty
  have blank := Text.trim_eq_nil_iff.mp empty
  rw [block.seen] at blank
  cases blank

private theorem blockLevelIn?_place {placed : Block × Element}
    (member : placed ∈ place (Token.size before) blocks) (length : Nat) :
    Rules.blockLevelIn? (.ofText (surround before after blocks)) (placed.2.innerSpan length) =
      none := by
  unfold Rules.blockLevelIn?
  rw [show Tag.within (Document.ofText (surround before after blocks)).tags
    (placed.2.innerSpan length) = [] from within_place member length]
  rfl

theorem heading_clean (alone : Alone before after) :
    Rules.heading (.ofText (surround before after blocks)) = some .clean := by
  let headings := (elements (Token.size before) blocks).filter
    fun element => Vocabulary.headings.contains element.opening.name
  have matched : ∀ element ∈ headings, element.Matched := fun element member =>
    matched_elements element (List.mem_filter.mp member).1
  have tags : (Tag.scan (surround before after blocks)).filter Rules.isHeading =
      headings.flatMap Element.tags := by
    have listed : ∀ name, Vocabulary.headings.contains name = true →
        name ∈ "p" :: Vocabulary.headings := by
      intro name member
      exact List.mem_cons_of_mem _ (by simpa using member)
    exact (filter_scan alone listed).trans (Element.filter_tags _ matched_elements)
  have sorted : Element.sortByStart headings = headings :=
    Element.sortByStart_eq_of_perm (List.Perm.refl _)
      ((Element.rising_of_ordered ordered_elements).sublist List.filter_sublist)
  have paired : Rules.pairHeadings (.ofText (surround before after blocks)) = .ok headings := by
    unfold Rules.pairHeadings
    rw [show (Document.ofText (surround before after blocks)).tags.filter Rules.isHeading = _
      from tags, Rules.pairHeadingsFrom_tags matched]
    exact congrArg Except.ok sorted
  refine Rules.heading_clean paired ?_
  intro heading member
  obtain ⟨placed, present, rfl⟩ := List.mem_map.mp (List.mem_filter.mp member).1
  exact ⟨placed.1.text, slice_place present _, placed.1.visible_text_ne_nil,
    blockLevelIn?_place present _⟩

theorem paragraph_clean (alone : Alone before after) :
    Rules.paragraph (.ofText (surround before after blocks)) = some .clean := by
  have named : Tag.named (Tag.scan (surround before after blocks)) "p" =
      Tag.named ((elements (Token.size before) blocks).flatMap Element.tags) "p" :=
    named_scan alone List.mem_cons_self
  have matched : ∀ element ∈ (elements (Token.size before) blocks).filter
      (fun element => element.opening.name == "p"), element.Matched := fun element member =>
    matched_elements element (List.mem_filter.mp member).1
  have row := Document.Row.of_tagsNamed matched
    (show (Document.ofText (surround before after blocks)).tagsNamed "p" = _ from
      named.trans (Element.named_tags "p" matched_elements))
  refine Rules.paragraph_clean row ?_
  intro paragraph member
  obtain ⟨placed, present, rfl⟩ := List.mem_map.mp (List.mem_filter.mp member).1
  refine ⟨blockLevelIn?_place present _, placed.1.text, slice_place present _, ?_⟩
  rw [Content.isBlank_of_not_mem placed.1.free]
  exact placed.1.seen

end

end Block

end PageCheck
