import PageCheck.Proofs.Excerpts
import PageCheck.Proofs.WrittenAttributes

/-! Rendering and scanning.  A source that is put together from texts, comments,
declarations and tags, none of which holds a bracket where it should not, has just
these tags and comments, each at the place where it was put. -/

set_option autoImplicit false

namespace PageCheck

structure TagName where
  first : Char
  more : List Char
  letter : Text.isAsciiLetter first = true
  chars : ∀ char ∈ more, TagText.isNameChar char = true

namespace TagName

def text (name : TagName) : List Char :=
  name.first :: name.more

def lowered (name : TagName) : String :=
  Text.lowerName name.text

theorem isNameChar_of_mem {name : TagName} {char : Char} (member : char ∈ name.text) :
    TagText.isNameChar char = true := by
  rcases List.mem_cons.mp member with rfl | later
  · exact TagText.isNameChar_of_isAsciiLetter name.letter
  · exact name.chars char later

theorem free_text (name : TagName) : '<' ∉ name.text := by
  intro member
  have named := isNameChar_of_mem member
  cases named

def html : TagName :=
  ⟨'h', ['t', 'm', 'l'], by decide, List.all_eq_true.mp (by decide)⟩

def head : TagName :=
  ⟨'h', ['e', 'a', 'd'], by decide, List.all_eq_true.mp (by decide)⟩

def title : TagName :=
  ⟨'t', ['i', 't', 'l', 'e'], by decide, List.all_eq_true.mp (by decide)⟩

def body : TagName :=
  ⟨'b', ['o', 'd', 'y'], by decide, List.all_eq_true.mp (by decide)⟩

@[simp] theorem lowered_html : html.lowered = "html" := rfl

@[simp] theorem lowered_head : head.lowered = "head" := rfl

@[simp] theorem lowered_title : title.lowered = "title" := rfl

@[simp] theorem lowered_body : body.lowered = "body" := rfl

end TagName

/-- A part of a source.  The body of a declaration follows the word `DOCTYPE`. -/
inductive Token where
  | text (body : List Char) (free : '<' ∉ body)
  | comment (body : List Char) (free : '<' ∉ body) (unclosed : ¬ Comment.close <:+: body)
  | declaration (body : List Char) (spaced : body.head? = some ' ') (free : '<' ∉ body)
      (unclosed : '>' ∉ body)
  | closing (name : TagName)
  | opening (name : TagName) (attributes : List WrittenAttribute)
  | selfClosing (name : TagName) (attributes : List WrittenAttribute)

namespace Token

def source : Token → List Char
  | text body _ => body
  | comment body _ _ => '<' :: '!' :: '-' :: '-' :: (body ++ Comment.close)
  | declaration body _ _ _ =>
      '<' :: '!' :: 'D' :: 'O' :: 'C' :: 'T' :: 'Y' :: 'P' :: 'E' :: (body ++ ['>'])
  | closing name => '<' :: '/' :: (name.text ++ ['>'])
  | opening name attributes => '<' :: (name.text ++ (WrittenAttribute.textAll attributes ++ ['>']))
  | selfClosing name attributes =>
      '<' :: (name.text ++ (WrittenAttribute.textAll attributes ++ [' ', '/', '>']))

def render (tokens : List Token) : List Char :=
  tokens.flatMap source

/-- The tokens with their places behind an offset. -/
def locate (offset : Nat) : List Token → List (Token × Span)
  | [] => []
  | token :: rest =>
      let stop := offset + Text.byteLength token.source
      (token, ⟨offset, stop⟩) :: locate stop rest

theorem mem_of_mem_locate {offset : Nat} {tokens : List Token} {placed : Token × Span}
    (member : placed ∈ locate offset tokens) : placed.1 ∈ tokens := by
  induction tokens generalizing offset with
  | nil => cases member
  | cons token rest ih =>
      rcases List.mem_cons.mp member with rfl | later
      · exact List.mem_cons_self
      · exact List.mem_cons_of_mem _ (ih later)

/-- The tag that a token is at a place. -/
def tag? (span : Span) : Token → Option Tag
  | closing name => some ⟨name.lowered, .closing, span, []⟩
  | opening name attributes =>
      some ⟨name.lowered, .opening, span, WrittenAttribute.textAll attributes⟩
  | selfClosing name attributes =>
      some ⟨name.lowered, .selfClosing, span, WrittenAttribute.textAll attributes ++ [' ']⟩
  | _ => none

/-! ### Tags as they are read -/

def tagText? : Token → Option TagText
  | closing name => some ⟨true, name.text, []⟩
  | opening name attributes => some ⟨false, name.text, WrittenAttribute.textAll attributes⟩
  | selfClosing name attributes =>
      some ⟨false, name.text, WrittenAttribute.textAll attributes ++ [' ', '/']⟩
  | _ => none

private theorem named (name : TagName) :
    ∃ first more, name.text = first :: more ∧ Text.isAsciiLetter first = true ∧
      ∀ char ∈ more, TagText.isNameChar char = true :=
  ⟨name.first, name.more, rfl, name.letter, name.chars⟩

private theorem proper_of_tagText? {token : Token} {tag : TagText}
    (same : token.tagText? = some tag) : tag.Proper := by
  cases token with
  | text body free => cases same
  | comment body free unclosed => cases same
  | declaration body spaced free unclosed => cases same
  | closing name =>
      cases same
      exact ⟨named name, fun rest => rfl⟩
  | opening name attributes =>
      cases same
      refine ⟨named name, fun rest => ?_⟩
      have none : ∀ char ∈ ([] : List Char), char ≠ '>' ∧ char ≠ '\x22' ∧ char ≠ '\x27' := by simp
      have read := TagText.attributes?_textAll attributes none (by simp) rest
      rwa [List.append_nil] at read
  | selfClosing name attributes =>
      cases same
      refine ⟨named name, fun rest => ?_⟩
      have plain : ∀ char ∈ [' ', '/'], char ≠ '>' ∧ char ≠ '\x22' ∧ char ≠ '\x27' := by simp
      have blank : ∀ char ∈ [' ', '/'].head?, Text.isBlank char = true := by simp [Text.isBlank]
      exact TagText.attributes?_textAll attributes plain blank rest

private theorem source_of_tagText? {token : Token} {tag : TagText}
    (same : token.tagText? = some tag) : token.source = tag.text := by
  cases token with
  | text body free => cases same
  | comment body free unclosed => cases same
  | declaration body spaced free unclosed => cases same
  | closing name =>
      cases same
      simp [source, TagText.text]
  | opening name attributes =>
      cases same
      simp [source, TagText.text]
  | selfClosing name attributes =>
      cases same
      simp [source, TagText.text]

theorem tag?_eq (token : Token) (span : Span) :
    token.tag? span = token.tagText?.map (·.placed span) := by
  cases token with
  | text body free => rfl
  | comment body free unclosed => rfl
  | declaration body spaced free unclosed => rfl
  | closing name => rfl
  | opening name attributes =>
      by_cases bare : attributes = []
      · subst bare
        rfl
      · obtain ⟨front, last, shape, visible, noSlash⟩ :=
          WrittenAttribute.exists_last_textAll bare
        have kept : Text.trimEndWhere (· == '/') (front ++ [last]) = front ++ [last] :=
          Text.trimEndWhere_concat (by simpa using noSlash) front
        simp only [tag?, tagText?, Option.map_some, TagText.placed, TagText.kind, shape,
          Text.trimEnd, Text.trimEndWhere_concat visible, kept]
        simp [noSlash, TagName.lowered]
  | selfClosing name attributes =>
      have shape : WrittenAttribute.textAll attributes ++ [' ', '/'] =
          (WrittenAttribute.textAll attributes ++ [' ']) ++ ['/'] := by simp
      have ends : Text.trimEnd (WrittenAttribute.textAll attributes ++ [' ', '/']) =
          (WrittenAttribute.textAll attributes ++ [' ']) ++ ['/'] := by
        rw [shape]
        exact Text.trimEndWhere_concat rfl _
      have kept : Text.trimEndWhere (· == '/') (WrittenAttribute.textAll attributes ++ [' ', '/']) =
          WrittenAttribute.textAll attributes ++ [' '] := by
        rw [shape, Text.trimEndWhere_append (by simp)]
        exact Text.trimEndWhere_concat rfl _
      simp only [tag?, tagText?, Option.map_some, TagText.placed, TagText.kind, ends, kept]
      simp [TagName.lowered]

/-! ### Patterns and tokens -/

/-- A pass reads just the tokens that `reads` picks out, each as a whole. -/
structure ReadsBy {α : Type} (pattern : Pattern α) (reads : Token → Bool) : Prop where
  hit : ∀ token : Token, reads token = true → ∃ reading : Reading α,
    reading.text = token.source ∧
      ∀ rest, pattern.pieces (token.source ++ rest) = .hit reading :: pattern.pieces rest
  plain : ∀ token : Token, reads token = false → ∀ rest,
    pattern.pieces (token.source ++ rest) = token.source.map .plain ++ pattern.pieces rest

private theorem pieces_unread {α : Type} {pattern : Pattern α} (brackets : pattern.Bracketed)
    {body : List Char} (free : '<' ∉ body)
    (unread : ∀ rest, pattern ('<' :: (body ++ rest)) = none) (rest : List Char) :
    pattern.pieces (('<' :: body) ++ rest) = ('<' :: body).map .plain ++ pattern.pieces rest := by
  rw [List.cons_append, Pattern.pieces_plain (unread rest), brackets.pieces_of_not_mem_left free]
  rfl

private theorem pieces_tag {token : Token} {tag : TagText} (same : token.tagText? = some tag)
    (rest : List Char) :
    TagText.pattern.pieces (token.source ++ rest) =
      .hit ⟨tag, tag.text⟩ :: TagText.pattern.pieces rest := by
  have nonempty : tag.text ≠ [] := List.cons_ne_nil _ _
  have read : TagText.pattern ((Reading.mk tag tag.text).text ++ rest) = some ⟨tag, tag.text⟩ :=
    TagText.pattern_text (proper_of_tagText? same) rest
  rw [source_of_tagText? same]
  exact Pattern.pieces_hit nonempty read

def isTag (token : Token) : Bool :=
  token.tagText?.isSome

def isComment : Token → Bool
  | comment _ _ _ => true
  | _ => false

def isDeclaration : Token → Bool
  | declaration _ _ _ _ => true
  | _ => false

theorem readsBy_tags : ReadsBy TagText.pattern isTag where
  hit := by
    intro token reads
    obtain ⟨tag, same⟩ := Option.isSome_iff_exists.mp reads
    exact ⟨⟨tag, tag.text⟩, (source_of_tagText? same).symm, pieces_tag same⟩
  plain := by
    intro token unread rest
    cases token with
    | text body free => exact TagText.bracketed.pieces_of_not_mem_left free rest
    | comment body free unclosed =>
        exact pieces_unread TagText.bracketed (by simp [free, Comment.close]) (fun _ => rfl) rest
    | declaration body spaced free unclosed =>
        exact pieces_unread TagText.bracketed (by simp [free]) (fun _ => rfl) rest
    | closing name => cases unread
    | opening name attributes => cases unread
    | selfClosing name attributes => cases unread

private theorem comment_unread (name : TagName) (rest : List Char) :
    Comment.pattern ('<' :: (name.text ++ rest)) = none := by
  have letter := name.letter
  unfold Comment.pattern
  split
  · rename_i shape
    rw [TagName.text, List.cons_append, List.cons.injEq, List.cons.injEq] at shape
    rw [shape.2.1] at letter
    cases letter
  · rfl

theorem readsBy_comments : ReadsBy Comment.pattern isComment where
  hit := by
    intro token reads
    cases token with
    | comment body free unclosed =>
        refine ⟨⟨(), (comment body free unclosed).source⟩, rfl, fun rest => ?_⟩
        have nonempty : (comment body free unclosed).source ≠ [] := List.cons_ne_nil _ _
        have read : Comment.pattern
            ((Reading.mk () (comment body free unclosed).source).text ++ rest) =
            some ⟨(), (comment body free unclosed).source⟩ := by
          have found := Comment.pattern_comment unclosed rest
          simpa [source] using found
        exact Pattern.pieces_hit nonempty read
    | _ => cases reads
  plain := by
    intro token unread rest
    cases token with
    | text body free => exact Comment.bracketed.pieces_of_not_mem_left free rest
    | comment body free unclosed => cases unread
    | declaration body spaced free unclosed =>
        exact pieces_unread Comment.bracketed (by simp [free]) (fun _ => rfl) rest
    | closing name =>
        exact pieces_unread Comment.bracketed (by simp [name.free_text]) (fun _ => rfl) rest
    | opening name attributes =>
        refine pieces_unread Comment.bracketed
          (by simp [name.free_text, WrittenAttribute.free_textAll]) (fun more => ?_) rest
        rw [List.append_assoc]
        exact comment_unread name _
    | selfClosing name attributes =>
        refine pieces_unread Comment.bracketed
          (by simp [name.free_text, WrittenAttribute.free_textAll]) (fun more => ?_) rest
        rw [List.append_assoc]
        exact comment_unread name _

private theorem declaration_unread (name : TagName) (rest : List Char) :
    Doctype.pattern ('<' :: (name.text ++ rest)) = none := by
  unfold Doctype.pattern
  simp only
  rw [if_neg]
  rintro ⟨keyed, -⟩
  simp only [TagName.text, List.cons_append, Doctype.keyword, List.length_cons,
    List.take_succ_cons, Text.lower, List.map_cons, List.cons.injEq] at keyed
  have letter := (TagText.isAsciiLetter_iff name.first).mp name.letter
  have mark : '!'.toNat = 33 := rfl
  rcases Text.lowerChar_cases name.first with same | ⟨low, high, code⟩
  · rw [← same, keyed.2.1] at letter
    omega
  · rw [keyed.2.1] at code
    omega

theorem readsBy_declarations : ReadsBy Doctype.pattern isDeclaration where
  hit := by
    intro token reads
    cases token with
    | declaration body spaced free unclosed =>
        refine ⟨⟨(), (declaration body spaced free unclosed).source⟩, rfl, fun rest => ?_⟩
        have nonempty : (declaration body spaced free unclosed).source ≠ [] :=
          List.cons_ne_nil _ _
        have ends : Doctype.startsWord (body ++ ['>']) = false := by
          cases body with
          | nil => cases spaced
          | cons char more =>
              cases spaced
              exact show Text.isWordChar ' ' = false by decide +kernel
        have keyed :
            Text.lower ['<', '!', 'D', 'O', 'C', 'T', 'Y', 'P', 'E'] = Doctype.keyword := by
          decide
        have read : Doctype.pattern
            ((Reading.mk () (declaration body spaced free unclosed).source).text ++ rest) =
            some ⟨(), (declaration body spaced free unclosed).source⟩ := by
          have found := Doctype.pattern_declaration keyed unclosed ends rest
          simpa [source] using found
        exact Pattern.pieces_hit nonempty read
    | _ => cases reads
  plain := by
    intro token unread rest
    cases token with
    | text body free => exact Doctype.bracketed.pieces_of_not_mem_left free rest
    | comment body free unclosed =>
        exact pieces_unread Doctype.bracketed (by simp [free, Comment.close]) (fun _ => rfl) rest
    | declaration body spaced free unclosed => cases unread
    | closing name =>
        exact pieces_unread Doctype.bracketed (by simp [name.free_text]) (fun _ => rfl) rest
    | opening name attributes =>
        refine pieces_unread Doctype.bracketed
          (by simp [name.free_text, WrittenAttribute.free_textAll]) (fun more => ?_) rest
        rw [List.append_assoc]
        exact declaration_unread name _
    | selfClosing name attributes =>
        refine pieces_unread Doctype.bracketed
          (by simp [name.free_text, WrittenAttribute.free_textAll]) (fun more => ?_) rest
        rw [List.append_assoc]
        exact declaration_unread name _

/-! ### Many tokens -/

namespace ReadsBy

variable {α : Type} {pattern : Pattern α} {reads : Token → Bool}

theorem exists_pieces (readsBy : ReadsBy pattern reads) (token : Token) :
    ∃ pieces, ∀ rest, pattern.pieces (token.source ++ rest) = pieces ++ pattern.pieces rest := by
  cases read : reads token with
  | true =>
      obtain ⟨reading, -, hit⟩ := readsBy.hit token read
      exact ⟨[.hit reading], hit⟩
  | false => exact ⟨_, readsBy.plain token read⟩

/-- A source can be cut behind each of its tokens. -/
theorem seam (readsBy : ReadsBy pattern reads) (token : Token) (rest : List Char) :
    pattern.Seam token.source rest := by
  obtain ⟨pieces, whole⟩ := readsBy.exists_pieces token
  have alone := whole []
  rw [List.append_nil, Pattern.pieces_nil, List.append_nil] at alone
  rw [Pattern.Seam, whole rest, alone]

theorem findAll_source (readsBy : ReadsBy pattern reads) {token : Token}
    (unread : reads token = false) : pattern.findAll token.source = [] := by
  have plain := readsBy.plain token unread []
  rw [List.append_nil, Pattern.pieces_nil, List.append_nil] at plain
  exact Pattern.findAll_of_pieces_plain plain

theorem spans_source (readsBy : ReadsBy pattern reads) (token : Token) :
    pattern.spans token.source =
      if reads token then [⟨0, Text.byteLength token.source⟩] else [] := by
  unfold Pattern.spans
  cases read : reads token with
  | true =>
      obtain ⟨reading, textEq, hit⟩ := readsBy.hit token read
      have alone := hit []
      rw [List.append_nil, Pattern.pieces_nil] at alone
      unfold Pattern.findAll
      rw [alone]
      simp [Pattern.locate, textEq]
  | false =>
      rw [readsBy.findAll_source read]
      rfl

theorem erase_source (readsBy : ReadsBy pattern reads) (token : Token) :
    pattern.erase token.source = if reads token then [] else token.source := by
  cases read : reads token with
  | true =>
      obtain ⟨reading, -, hit⟩ := readsBy.hit token read
      have alone := hit []
      rw [List.append_nil, Pattern.pieces_nil] at alone
      unfold Pattern.erase
      rw [alone]
      rfl
  | false =>
      have plain := readsBy.plain token read []
      rw [List.append_nil, Pattern.pieces_nil, List.append_nil] at plain
      exact Pattern.erase_of_pieces_plain plain

theorem erase_render (readsBy : ReadsBy pattern reads) (tokens : List Token) :
    pattern.erase (render tokens) = render (tokens.filter fun token => !reads token) := by
  induction tokens with
  | nil => rfl
  | cons token rest ih =>
      have split : pattern.erase (render (token :: rest)) =
          pattern.erase token.source ++ pattern.erase (render rest) :=
        (readsBy.seam token (render rest)).erase
      rw [split, ih, readsBy.erase_source]
      cases read : reads token <;> simp [read, render]

theorem spans_render_shift (readsBy : ReadsBy pattern reads) (sound : pattern.Sound)
    (offset : Nat) (tokens : List Token) :
    (pattern.spans (render tokens)).map (Span.shift offset) =
      ((locate offset tokens).filter fun placed => reads placed.1).map (·.2) := by
  induction tokens generalizing offset with
  | nil => rfl
  | cons token rest ih =>
      have split : pattern.spans (render (token :: rest)) = pattern.spans token.source ++
          (pattern.spans (render rest)).map (Span.shift (Text.byteLength token.source)) :=
        (readsBy.seam token (render rest)).spans sound
      have later : Span.shift offset ∘ Span.shift (Text.byteLength token.source) =
          Span.shift (offset + Text.byteLength token.source) := by
        funext span
        simp only [Function.comp_apply, Span.shift, Nat.add_assoc]
      rw [split, List.map_append, List.map_map, later, ih, readsBy.spans_source, locate]
      cases read : reads token <;> simp [read, Span.shift]

/-- The places of the readings are those of the tokens that are read. -/
theorem spans_render (readsBy : ReadsBy pattern reads) (sound : pattern.Sound)
    (tokens : List Token) :
    pattern.spans (render tokens) =
      ((locate 0 tokens).filter fun placed => reads placed.1).map (·.2) := by
  have unmoved : Span.shift 0 = id := by
    funext span
    simp [Span.shift]
  have spans := readsBy.spans_render_shift sound 0 tokens
  rwa [unmoved, List.map_id] at spans

theorem spans_render_of_unread (readsBy : ReadsBy pattern reads) (sound : pattern.Sound)
    {tokens : List Token} (unread : ∀ token ∈ tokens, reads token = false) :
    pattern.spans (render tokens) = [] := by
  rw [readsBy.spans_render sound, List.map_eq_nil_iff, List.filter_eq_nil_iff]
  intro placed member
  rw [unread placed.1 (mem_of_mem_locate member)]
  exact Bool.false_ne_true

theorem erase_render_of_unread (readsBy : ReadsBy pattern reads) {tokens : List Token}
    (unread : ∀ token ∈ tokens, reads token = false) :
    pattern.erase (render tokens) = render tokens := by
  rw [readsBy.erase_render, List.filter_eq_self.mpr]
  intro token member
  rw [unread token member]
  rfl

end ReadsBy

theorem seam (token : Token) (rest : List Char) : Seam token.source rest :=
  ⟨readsBy_tags.seam token rest, readsBy_comments.seam token rest⟩

theorem scan_source (token : Token) :
    Tag.scan token.source = (token.tag? ⟨0, Text.byteLength token.source⟩).toList := by
  rw [Tag.scan_eq_filter, tag?_eq]
  cases same : token.tagText? with
  | none =>
      have unread : token.isTag = false := by rw [isTag, same]; rfl
      rw [readsBy_tags.findAll_source unread]
      rfl
  | some tag =>
      have plain : token.isComment = false := by
        cases token with
        | comment body free unclosed => cases same
        | _ => rfl
      have found : TagText.pattern.findAll token.source =
          [⟨tag, ⟨0, Text.byteLength token.source⟩⟩] := by
        have pieces := pieces_tag same []
        rw [List.append_nil, Pattern.pieces_nil] at pieces
        unfold Pattern.findAll
        rw [pieces, source_of_tagText? same]
        simp [Pattern.locate]
      have comments := readsBy_comments.spans_source token
      rw [plain] at comments
      rw [found, Comment.spans, comments]
      rfl

theorem tag?_shift (token : Token) (count : Nat) (span : Span) :
    token.tag? (span.shift count) = (token.tag? span).map (Tag.shift count) := by
  cases token <;> rfl

def tags (offset : Nat) (tokens : List Token) : List Tag :=
  (locate offset tokens).filterMap fun placed => placed.1.tag? placed.2

theorem tags_cons (offset : Nat) (token : Token) (rest : List Token) :
    tags offset (token :: rest) =
      (token.tag? ⟨offset, offset + Text.byteLength token.source⟩).toList ++
        tags (offset + Text.byteLength token.source) rest := by
  unfold tags
  rw [locate, List.filterMap_cons]
  cases token.tag? ⟨offset, offset + Text.byteLength token.source⟩ <;> rfl

theorem scan_render_shift (offset : Nat) (tokens : List Token) :
    (Tag.scan (render tokens)).map (Tag.shift offset) = tags offset tokens := by
  induction tokens generalizing offset with
  | nil => rfl
  | cons token rest ih =>
      have split : Tag.scan (render (token :: rest)) = Tag.scan token.source ++
          (Tag.scan (render rest)).map (Tag.shift (Text.byteLength token.source)) :=
        (token.seam (render rest)).scan
      have later : Tag.shift offset ∘ Tag.shift (Text.byteLength token.source) =
          Tag.shift (offset + Text.byteLength token.source) := by
        funext tag
        simp only [Function.comp_apply, Tag.shift, Span.shift, Nat.add_assoc]
      have here := token.tag?_shift offset ⟨0, Text.byteLength token.source⟩
      simp only [Span.shift, Nat.add_zero] at here
      rw [split, scan_source, List.map_append, List.map_map, later, tags_cons, here, ih]
      cases token.tag? ⟨0, Text.byteLength token.source⟩ <;> rfl

/-- The tags of a rendered source are those of its tokens. -/
theorem scan_render (tokens : List Token) : Tag.scan (render tokens) = tags 0 tokens := by
  have unmoved : Tag.shift 0 = id := by
    funext tag
    simp [Tag.shift, Span.shift]
  have found := scan_render_shift 0 tokens
  rwa [unmoved, List.map_id] at found

end Token

/-! ### What scanning tells of a tag -/

structure TagView where
  name : String
  kind : TagKind
  span : Span
  attributes : List Attribute
deriving DecidableEq

def Tag.view (tag : Tag) : TagView :=
  ⟨tag.name, tag.kind, tag.span, tag.attributes⟩

def Token.view? (span : Span) : Token → Option TagView
  | .closing name => some ⟨name.lowered, .closing, span, []⟩
  | .opening name attributes =>
      some ⟨name.lowered, .opening, span, attributes.map WrittenAttribute.meant⟩
  | .selfClosing name attributes =>
      some ⟨name.lowered, .selfClosing, span, attributes.map WrittenAttribute.meant⟩
  | _ => none

theorem Token.view?_eq (token : Token) (span : Span) :
    token.view? span = (token.tag? span).map Tag.view := by
  cases token with
  | text body free => rfl
  | comment body free unclosed => rfl
  | declaration body spaced free unclosed => rfl
  | closing name => rfl
  | opening name attributes =>
      have read := WrittenAttribute.readAll_textAll attributes
      simp only [view?, tag?, Option.map_some, Tag.view, Tag.attributes, read]
  | selfClosing name attributes =>
      have read := WrittenAttribute.readAll_textAll_append attributes
        (show Text.allBlank [' '] = true from rfl)
      simp only [view?, tag?, Option.map_some, Tag.view, Tag.attributes, read]

/-- Scanning undoes rendering: the tags and the comments are those that were put
together, each at its place, the tags with their attributes in order. -/
theorem Token.scan_undoes_render (tokens : List Token) :
    (Tag.scan (render tokens)).map Tag.view =
        (locate 0 tokens).filterMap (fun placed => placed.1.view? placed.2) ∧
      Comment.spans (render tokens) =
        ((locate 0 tokens).filter fun placed => placed.1.isComment).map (·.2) := by
  refine ⟨?_, readsBy_comments.spans_render Comment.bracketed.sound tokens⟩
  rw [scan_render, tags, List.map_filterMap]
  congr 1
  funext placed
  exact (placed.1.view?_eq placed.2).symm

end PageCheck
