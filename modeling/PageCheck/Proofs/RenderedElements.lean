import PageCheck.Proofs.AttributeMaps
import PageCheck.Proofs.Extraction
import PageCheck.Proofs.MatchedElements
import PageCheck.Proofs.Rendering

/-! Rendered elements.  An element whose tags were put around other tokens is found
again by pairing, and its inside is what was rendered between its tags. -/

set_option autoImplicit false

namespace PageCheck

namespace Token

def size (tokens : List Token) : Nat :=
  Text.byteLength (render tokens)

theorem render_append (first second : List Token) :
    render (first ++ second) = render first ++ render second :=
  List.flatMap_append

theorem size_append (first second : List Token) :
    size (first ++ second) = size first + size second := by
  rw [size, render_append, Text.byteLength_append]
  rfl

theorem size_singleton (token : Token) : size [token] = Text.byteLength token.source := by
  simp [size, render]

theorem size_cons (token : Token) (rest : List Token) :
    size (token :: rest) = Text.byteLength token.source + size rest := by
  rw [← size_singleton, ← size_append]
  rfl

theorem tags_append (offset : Nat) (first second : List Token) :
    tags offset (first ++ second) = tags offset first ++ tags (offset + size first) second := by
  induction first generalizing offset with
  | nil => rfl
  | cons token rest ih =>
      rw [List.cons_append, tags_cons, tags_cons, ih, size_cons, List.append_assoc, Nat.add_assoc]

theorem seam_render (tokens : List Token) (rest : List Char) : Seam (render tokens) rest := by
  induction tokens with
  | nil => constructor <;> rfl
  | cons token others ih => exact (token.seam (render others ++ rest)).of_left ih

/-- Tokens between others make an excerpt of what is rendered. -/
def excerpt (before inside after : List Token) :
    Excerpt (render (before ++ (inside ++ after))) (render inside) where
  before := render before
  after := render after
  text_eq := by rw [render_append, render_append]
  left := seam_render before _
  right := seam_render inside _

theorem slice_render (before inside after : List Token) :
    Text.slice? (render (before ++ (inside ++ after))) ⟨size before, size before + size inside⟩ =
      some (render inside) :=
  (excerpt before inside after).slice

theorem slice_rest (before after : List Token) :
    Text.slice? (render (before ++ after)) ⟨size before, size (before ++ after)⟩ =
      some (render after) := by
  have cut := slice_render before after []
  rwa [List.append_nil, ← size_append] at cut

theorem within_render (before inside after : List Token) :
    Tag.within (Tag.scan (render (before ++ (inside ++ after))))
      ⟨size before, size before + size inside⟩ = tags (size before) inside := by
  rw [← scan_render_shift]
  exact (excerpt before inside after).scan_eq_within.symm

/-! ### Names -/

def name? : Token → Option String
  | closing name => some name.lowered
  | opening name _ => some name.lowered
  | selfClosing name _ => some name.lowered
  | _ => none

def names (tokens : List Token) : List String :=
  tokens.filterMap name?

@[simp] theorem names_append (first second : List Token) :
    names (first ++ second) = names first ++ names second :=
  List.filterMap_append

@[simp] theorem names_nil : names [] = [] := rfl

@[simp] theorem names_text (body : List Char) (free : '<' ∉ body) (rest : List Token) :
    names (text body free :: rest) = names rest := rfl

@[simp] theorem names_declaration (body : List Char) (spaced : body.head? = some ' ')
    (free : '<' ∉ body) (unclosed : '>' ∉ body) (rest : List Token) :
    names (declaration body spaced free unclosed :: rest) = names rest := rfl

@[simp] theorem names_opening (name : TagName) (attributes : List WrittenAttribute)
    (rest : List Token) : names (opening name attributes :: rest) = name.lowered :: names rest :=
  rfl

@[simp] theorem names_closing (name : TagName) (rest : List Token) :
    names (closing name :: rest) = name.lowered :: names rest := rfl

theorem name_of_tag? {token : Token} {span : Span} {tag : Tag} (same : token.tag? span = some tag) :
    token.name? = some tag.name := by
  cases token <;> cases same <;> rfl

theorem name_mem_names {offset : Nat} {tokens : List Token} {tag : Tag}
    (member : tag ∈ tags offset tokens) : tag.name ∈ names tokens := by
  induction tokens generalizing offset with
  | nil => cases member
  | cons token rest ih =>
      rw [tags_cons, List.mem_append, Option.mem_toList] at member
      rcases member with here | later
      · exact List.mem_filterMap.mpr ⟨token, List.mem_cons_self, name_of_tag? here⟩
      · obtain ⟨other, present, same⟩ := List.mem_filterMap.mp (ih later)
        exact List.mem_filterMap.mpr ⟨other, List.mem_cons_of_mem _ present, same⟩

theorem filter_tags_of_unwanted {wanted : String → Bool} {tokens : List Token}
    (unwanted : ∀ name ∈ names tokens, wanted name = false) (offset : Nat) :
    (tags offset tokens).filter (fun tag => wanted tag.name) = [] := by
  apply List.filter_eq_nil_iff.mpr
  intro tag member
  rw [unwanted tag.name (name_mem_names member)]
  exact Bool.false_ne_true

theorem named_tags_of_not_mem {name : String} {tokens : List Token} (absent : name ∉ names tokens)
    (offset : Nat) : Tag.named (tags offset tokens) name = [] := by
  have unwanted : ∀ other ∈ names tokens, (other == name) = false := by
    intro other present
    exact beq_false_of_ne fun same => absent (same ▸ present)
  exact filter_tags_of_unwanted unwanted offset

/-! ### Elements -/

def element (name : TagName) (attributes : List WrittenAttribute) (inside : List Token) :
    List Token :=
  opening name attributes :: (inside ++ [closing name])

def openingAt (offset : Nat) (name : TagName) (attributes : List WrittenAttribute) : Tag where
  name := name.lowered
  kind := .opening
  span := ⟨offset, offset + Text.byteLength (opening name attributes).source⟩
  attributeText := WrittenAttribute.textAll attributes

def closingAt (offset : Nat) (name : TagName) : Tag where
  name := name.lowered
  kind := .closing
  span := ⟨offset, offset + Text.byteLength (closing name).source⟩
  attributeText := []

def elementAt (offset : Nat) (name : TagName) (attributes : List WrittenAttribute)
    (inside : List Token) : Element :=
  let first := offset + Text.byteLength (opening name attributes).source
  ⟨openingAt offset name attributes, some (closingAt (first + size inside) name)⟩

theorem matched_elementAt (offset : Nat) (name : TagName) (attributes : List WrittenAttribute)
    (inside : List Token) : (elementAt offset name attributes inside).Matched :=
  ⟨rfl, _, rfl, rfl, rfl⟩

section

variable (name : TagName) (attributes : List WrittenAttribute) (inside before after : List Token)

@[simp] theorem names_element :
    names (element name attributes inside) = name.lowered :: (names inside ++ [name.lowered]) := by
  simp [element]

theorem size_element :
    size (element name attributes inside) =
      Text.byteLength (opening name attributes).source + size inside +
        Text.byteLength (closing name).source := by
  rw [element, size_cons, size_append, size_singleton, Nat.add_assoc]

theorem attributes_openingAt (offset : Nat) :
    (openingAt offset name attributes).attributes = attributes.map WrittenAttribute.meant :=
  WrittenAttribute.readAll_textAll attributes

theorem tags_element (offset : Nat) :
    tags offset (element name attributes inside) =
      openingAt offset name attributes ::
        (tags (offset + Text.byteLength (opening name attributes).source) inside ++
          [closingAt (offset + Text.byteLength (opening name attributes).source + size inside)
            name]) := by
  rw [element, tags_cons, tags_append, tags_cons]
  rfl

theorem innerSpan_element (offset length : Nat) :
    (elementAt offset name attributes inside).innerSpan length =
      ⟨offset + Text.byteLength (opening name attributes).source,
        offset + Text.byteLength (opening name attributes).source + size inside⟩ := by
  simp only [Element.innerSpan, elementAt, openingAt, closingAt]
  rw [Nat.max_eq_left (Nat.le_add_right _ _)]

private theorem element_parts :
    before ++ (element name attributes inside ++ after) =
      (before ++ [opening name attributes]) ++ (inside ++ (closing name :: after)) := by
  simp [element]

theorem slice_element (length : Nat) :
    Text.slice? (render (before ++ (element name attributes inside ++ after)))
      ((elementAt (size before) name attributes inside).innerSpan length) =
        some (render inside) := by
  rw [element_parts, innerSpan_element, ← size_singleton, ← size_append]
  exact slice_render _ _ _

theorem slice_behind_element :
    Text.slice? (render (before ++ (element name attributes inside ++ after)))
      ⟨(closingAt (size before + Text.byteLength (opening name attributes).source + size inside)
          name).span.stop,
        size (before ++ (element name attributes inside ++ after))⟩ = some (render after) := by
  have stop : (closingAt (size before + Text.byteLength (opening name attributes).source +
      size inside) name).span.stop = size (before ++ element name attributes inside) := by
    rw [size_append, size_element, closingAt]
    simp only [Nat.add_assoc]
  rw [stop, ← List.append_assoc]
  exact slice_rest _ _

theorem inside_element :
    (elementAt (size before) name attributes inside).inside
      (render (before ++ (element name attributes inside ++ after))) = render inside := by
  unfold Element.inside Element.inner?
  rw [slice_element]
  rfl

theorem within_element (length : Nat) :
    Tag.within (Tag.scan (render (before ++ (element name attributes inside ++ after))))
      ((elementAt (size before) name attributes inside).innerSpan length) =
        tags (size before + Text.byteLength (opening name attributes).source) inside := by
  rw [element_parts, innerSpan_element, ← size_singleton, ← size_append]
  exact within_render _ _ _

/-! ### Nodes of rendered elements -/

theorem attributeMap_openingAt (distinct : (attributes.map fun entry => entry.meant.name).Nodup)
    (offset : Nat) :
    (openingAt offset name attributes).attributeMap =
      attributes.map fun entry => (entry.meant.name, entry.meant.valueOrEmpty) := by
  have meant := attributes_openingAt name attributes offset
  have kept : ((openingAt offset name attributes).attributes.map (·.name)).Nodup := by
    rw [meant, List.map_map]
    exact distinct
  rw [Tag.attributeMap_of_nodup kept, meant, List.map_map]
  rfl

theorem leafNode_element (distinct : (attributes.map fun entry => entry.meant.name).Nodup) :
    Outline.leafNode (render (before ++ (element name attributes inside ++ after)))
        (elementAt (size before) name attributes inside) =
      .leaf name.lowered (String.ofList (Text.trim (render inside)))
        (attributes.map fun entry => (entry.meant.name, entry.meant.valueOrEmpty)) := by
  rw [Outline.leafNode, inside_element, elementAt, attributeMap_openingAt name attributes distinct]
  rfl

theorem containerNode_element (distinct : (attributes.map fun entry => entry.meant.name).Nodup)
    (label : String) (children : List Char → List Node) :
    Outline.containerNode label children
        (render (before ++ (element name attributes inside ++ after)))
        (elementAt (size before) name attributes inside) =
      .container label (attributes.map fun entry => (entry.meant.name, entry.meant.valueOrEmpty))
        (children (render inside)) := by
  rw [Outline.containerNode, inside_element, elementAt,
    attributeMap_openingAt name attributes distinct]

/-! ### Finding rendered elements -/

variable {name inside before after}

theorem named_element (notBefore : name.lowered ∉ names before)
    (notInside : name.lowered ∉ names inside) (notAfter : name.lowered ∉ names after)
    (offset : Nat) :
    Tag.named (tags offset (before ++ (element name attributes inside ++ after))) name.lowered =
      (elementAt (offset + size before) name attributes inside).tags := by
  have opens (place : Nat) : (openingAt place name attributes).name = name.lowered := rfl
  have closes (place : Nat) : (closingAt place name).name = name.lowered := rfl
  rw [tags_append, tags_append, tags_element, Tag.named_append, Tag.named_append,
    named_tags_of_not_mem notBefore, named_tags_of_not_mem notAfter,
    Tag.named_cons_of_eq (opens _), Tag.named_append, named_tags_of_not_mem notInside,
    Tag.named_cons_of_eq (closes _)]
  rfl

theorem named_scan_element (notBefore : name.lowered ∉ names before)
    (notInside : name.lowered ∉ names inside) (notAfter : name.lowered ∉ names after) :
    Tag.named (Tag.scan (render (before ++ (element name attributes inside ++ after))))
        name.lowered = (elementAt (size before) name attributes inside).tags := by
  rw [scan_render, named_element attributes notBefore notInside notAfter, Nat.zero_add]

/-- The only element of its name is found by pairing. -/
theorem pair_scan_element (notBefore : name.lowered ∉ names before)
    (notInside : name.lowered ∉ names inside) (notAfter : name.lowered ∉ names after) :
    Element.pair (Tag.scan (render (before ++ (element name attributes inside ++ after))))
      name.lowered = [elementAt (size before) name attributes inside] :=
  Element.pair_of_named (matched_elementAt _ _ _ _)
    (named_scan_element attributes notBefore notInside notAfter)

end

end Token

end PageCheck
