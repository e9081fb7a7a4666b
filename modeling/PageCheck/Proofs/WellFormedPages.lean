import PageCheck.Proofs.AnchorLanguage
import PageCheck.Proofs.Blocks

/-! Well-formed pages.  Such a page has a document type declaration, a root element
with a language, a head with a title and a body with blocks, and white space may stand
between all of them.  The standard rules find nothing in it, and its outline has the
title and every block. -/

set_option autoImplicit false

namespace PageCheck

/-- What a well-formed page is made of.  The gaps are white space, in their order; the
blocks bring those before them along. -/
structure Page where
  beforeDeclaration : Gap
  beforeRoot : Gap
  language : List Char
  languageClosed : '\x22' ∉ language
  languageFree : '<' ∉ language
  languageSeen : Text.allBlank language = false
  beforeHead : Gap
  beforeTitle : Gap
  title : List Char
  titleFree : '<' ∉ title
  titleSeen : Text.allBlank title = false
  titleChars : ∀ char ∈ title, char ≠ Utf8.replacement ∧
    (Text.isControl char = true → Text.isBlank char = true)
  afterTitle : Gap
  beforeBody : Gap
  blocks : List Block
  filled : blocks ≠ []
  afterBlocks : Gap
  afterBody : Gap
  afterRoot : Gap

namespace Page

variable (page : Page)

/-! ### Sources and outlines -/

def declaration : Token :=
  .declaration " html".toList rfl (by decide) (by decide)

def languageAttribute : WrittenAttribute :=
  ⟨"lang".toList, .double page.language page.languageClosed page.languageFree, by decide,
    List.all_eq_true.mp (by decide), by decide⟩

def titleTokens : List Token :=
  [.text page.title page.titleFree]

def headTokens : List Token :=
  [page.beforeTitle.token] ++ (Token.element .title [] page.titleTokens ++ [page.afterTitle.token])

def bodyTokens : List Token :=
  Block.tokensAll page.blocks ++ [page.afterBlocks.token]

def rootTokens : List Token :=
  [page.beforeHead.token] ++ (Token.element .head [] page.headTokens ++ (page.beforeBody.token ::
    (Token.element .body [] page.bodyTokens ++ [page.afterBody.token])))

def lead : List Token :=
  [page.beforeDeclaration.token, declaration, page.beforeRoot.token]

def tokens : List Token :=
  page.lead ++ (Token.element .html [page.languageAttribute] page.rootTokens ++
    [page.afterRoot.token])

def source : List Char :=
  Token.render page.tokens

def document : Document :=
  .ofText page.source

/-- All paragraphs come before all headings. -/
def outline : List Node :=
  [.container "html" [("lang", String.ofList page.language)]
    [.container "head" [] [.leaf "title" (String.ofList (Text.trim page.title)) []],
      .container "body" []
        ((page.blocks.filter fun block => block.name.lowered == "p").map Block.leaf ++
          (page.blocks.filter fun block =>
            Vocabulary.headings.contains block.name.lowered).map Block.leaf)]]

/-! ### The places of the elements -/

def upToHead : List Token :=
  page.lead ++ [.opening .html [page.languageAttribute], page.beforeHead.token]

def behindHead : List Token :=
  page.beforeBody.token :: (Token.element .body [] page.bodyTokens ++
    [page.afterBody.token, .closing .html, page.afterRoot.token])

def upToTitle : List Token :=
  page.upToHead ++ [.opening .head [], page.beforeTitle.token]

def behindTitle : List Token :=
  page.afterTitle.token :: .closing .head :: page.behindHead

def upToBody : List Token :=
  page.upToHead ++ (Token.element .head [] page.headTokens ++ [page.beforeBody.token])

def behindBody : List Token :=
  [page.afterBody.token, .closing .html, page.afterRoot.token]

def upToBlocks : List Token :=
  page.upToBody ++ [.opening .body []]

def behindBlocks : List Token :=
  page.afterBlocks.token :: .closing .body :: page.behindBody

def innerLead : List Token :=
  [page.beforeHead.token] ++ (Token.element .head [] page.headTokens ++ [page.beforeBody.token])

theorem rootTokens_body :
    page.rootTokens = page.innerLead ++
      (Token.element .body [] page.bodyTokens ++ [page.afterBody.token]) := by
  simp [rootTokens, innerLead]

theorem tokens_head :
    page.tokens = page.upToHead ++ (Token.element .head [] page.headTokens ++ page.behindHead) := by
  simp [tokens, upToHead, behindHead, rootTokens, Token.element]

theorem tokens_title :
    page.tokens =
      page.upToTitle ++ (Token.element .title [] page.titleTokens ++ page.behindTitle) := by
  rw [tokens_head]
  simp [upToTitle, behindTitle, headTokens, Token.element]

theorem tokens_body :
    page.tokens = page.upToBody ++ (Token.element .body [] page.bodyTokens ++ page.behindBody) := by
  rw [tokens_head]
  simp [upToBody, behindHead, behindBody]

theorem tokens_blocks :
    page.tokens = page.upToBlocks ++ (Block.tokensAll page.blocks ++ page.behindBlocks) := by
  rw [tokens_body]
  simp [upToBlocks, behindBlocks, bodyTokens, Token.element]

/-! ### The elements of the page -/

theorem not_mem_names_body {name : String} (other : name ∉ "p" :: Vocabulary.headings) :
    name ∉ Token.names page.bodyTokens := by
  intro member
  rw [bodyTokens, Token.names_append] at member
  rcases List.mem_append.mp member with inBlocks | inGap
  · exact other (Block.mem_names inBlocks)
  · cases inGap

theorem named_root :
    page.document.tagsNamed "html" =
      (Token.elementAt (Token.size page.lead) .html [page.languageAttribute]
        page.rootTokens).tags := by
  have notBody := page.not_mem_names_body (show "html" ∉ "p" :: Vocabulary.headings by decide)
  have notBefore : TagName.html.lowered ∉ Token.names page.lead := by simp [lead, declaration]
  have notInside : TagName.html.lowered ∉ Token.names page.rootTokens := by
    simp [rootTokens, headTokens, titleTokens, notBody]
  have notAfter : TagName.html.lowered ∉ Token.names [page.afterRoot.token] := by simp
  exact Token.named_scan_element [page.languageAttribute] notBefore notInside notAfter

theorem named_head :
    page.document.tagsNamed "head" =
      (Token.elementAt (Token.size page.upToHead) .head [] page.headTokens).tags := by
  have notBody := page.not_mem_names_body (show "head" ∉ "p" :: Vocabulary.headings by decide)
  have notBefore : TagName.head.lowered ∉ Token.names page.upToHead := by
    simp [upToHead, lead, declaration]
  have notInside : TagName.head.lowered ∉ Token.names page.headTokens := by
    simp [headTokens, titleTokens]
  have notAfter : TagName.head.lowered ∉ Token.names page.behindHead := by
    simp [behindHead, notBody]
  have found := Token.named_scan_element [] notBefore notInside notAfter
  rw [← tokens_head] at found
  exact found

theorem named_title :
    page.document.tagsNamed "title" =
      (Token.elementAt (Token.size page.upToTitle) .title [] page.titleTokens).tags := by
  have notBody := page.not_mem_names_body (show "title" ∉ "p" :: Vocabulary.headings by decide)
  have notBefore : TagName.title.lowered ∉ Token.names page.upToTitle := by
    simp [upToTitle, upToHead, lead, declaration]
  have notInside : TagName.title.lowered ∉ Token.names page.titleTokens := by simp [titleTokens]
  have notAfter : TagName.title.lowered ∉ Token.names page.behindTitle := by
    simp [behindTitle, behindHead, notBody]
  have found := Token.named_scan_element [] notBefore notInside notAfter
  rw [← tokens_title] at found
  exact found

theorem named_body :
    page.document.tagsNamed "body" =
      (Token.elementAt (Token.size page.upToBody) .body [] page.bodyTokens).tags := by
  have notInside := page.not_mem_names_body (show "body" ∉ "p" :: Vocabulary.headings by decide)
  have notBefore : TagName.body.lowered ∉ Token.names page.upToBody := by
    simp [upToBody, upToHead, lead, declaration, headTokens, titleTokens]
  have notAfter : TagName.body.lowered ∉ Token.names page.behindBody := by simp [behindBody]
  have found := Token.named_scan_element [] notBefore notInside notAfter
  rw [← tokens_body] at found
  exact found

theorem named_inner_head (offset : Nat) :
    Tag.named (Token.tags offset page.rootTokens) "head" =
      (Token.elementAt (offset + Token.size [page.beforeHead.token]) .head []
        page.headTokens).tags := by
  let behindHead := page.beforeBody.token ::
    (Token.element .body [] page.bodyTokens ++ [page.afterBody.token])
  have notBody := page.not_mem_names_body (show "head" ∉ "p" :: Vocabulary.headings by decide)
  have notBefore : TagName.head.lowered ∉ Token.names [page.beforeHead.token] := by simp
  have notInside : TagName.head.lowered ∉ Token.names page.headTokens := by
    simp [headTokens, titleTokens]
  have notAfter : TagName.head.lowered ∉ Token.names behindHead := by simp [behindHead, notBody]
  exact Token.named_element [] notBefore notInside notAfter offset

theorem named_inner_body (offset : Nat) :
    Tag.named (Token.tags offset page.rootTokens) "body" =
      (Token.elementAt (offset + Token.size page.innerLead) .body [] page.bodyTokens).tags := by
  have notInside := page.not_mem_names_body (show "body" ∉ "p" :: Vocabulary.headings by decide)
  have notBefore : TagName.body.lowered ∉ Token.names page.innerLead := by
    simp [innerLead, headTokens, titleTokens]
  have notAfter : TagName.body.lowered ∉ Token.names [page.afterBody.token] := by simp
  rw [rootTokens_body]
  exact Token.named_element [] notBefore notInside notAfter offset

theorem alone_blocks : Block.Alone page.upToBlocks page.behindBlocks := by
  intro name listed
  have other : name ≠ "html" ∧ name ≠ "head" ∧ name ≠ "title" ∧ name ≠ "body" := by
    refine ⟨?_, ?_, ?_, ?_⟩ <;> rintro rfl <;> exact absurd listed (by decide)
  constructor
  · simp [upToBlocks, upToBody, upToHead, lead, declaration, headTokens, titleTokens, other]
  · simp [behindBlocks, behindBody, other]

theorem source_blocks :
    page.source = Block.surround page.upToBlocks page.behindBlocks page.blocks := by
  rw [source, tokens_blocks]
  rfl

/-! ### The rules -/

/-- Between the tags of the root element there are the head and behind it the body. -/
theorem rootContent_clean (offset : Nat) :
    Rules.rootContent (Token.tags offset page.rootTokens) = none := by
  have heads := page.named_inner_head offset
  have bodies := page.named_inner_body offset
  refine Rules.rootContent_clean (heads ▸ (Token.matched_elementAt _ _ _ _).openings)
    (bodies ▸ (Token.matched_elementAt _ _ _ _).openings) ?_
  change offset + Token.size [page.beforeHead.token] ≤ offset + Token.size page.innerLead
  rw [innerLead, Token.size_append]
  omega

theorem declaresLanguage_opening (offset : Nat) :
    Rules.declaresLanguage (Token.openingAt offset .html [page.languageAttribute]) = true := by
  have attributes := Token.attributes_openingAt .html [page.languageAttribute] offset
  have meant : page.languageAttribute.meant = ⟨"lang", some (String.ofList page.language)⟩ := rfl
  unfold Rules.declaresLanguage Tag.attribute?
  rw [attributes, List.map_singleton, meant]
  simp [Attribute.valueOrEmpty, page.languageSeen]

theorem lead_blank :
    Text.allBlank (Doctype.strip (Comment.strip (Token.render page.lead))) = true := by
  have noComment : Comment.strip (Token.render page.lead) = Token.render page.lead :=
    Token.readsBy_comments.erase_render page.lead
  have noDeclaration : Doctype.strip (Token.render page.lead) =
      page.beforeDeclaration.text ++ (page.beforeRoot.text ++ []) :=
    Token.readsBy_declarations.erase_render page.lead
  have first : page.beforeDeclaration.text.all Text.isBlank = true := page.beforeDeclaration.blank
  have second : page.beforeRoot.text.all Text.isBlank = true := page.beforeRoot.blank
  rw [noComment, noDeclaration]
  simp [Text.allBlank, List.all_append, first, second]

theorem root_clean : Rules.root page.document = some .clean := by
  have beforeCut := Token.slice_render [] page.lead
    (Token.element .html [page.languageAttribute] page.rootTokens ++ [page.afterRoot.token])
  rw [show Token.size [] = 0 from rfl, Nat.zero_add] at beforeCut
  have afterCut := Token.slice_behind_element .html [page.languageAttribute] page.rootTokens
    page.lead [page.afterRoot.token]
  have afterEq : Token.render [page.afterRoot.token] = page.afterRoot.text :=
    List.append_nil _
  have afterBlank : Content.isBlank (Token.render [page.afterRoot.token]) = true := by
    rw [afterEq, Content.isBlank_of_not_mem
      (Text.not_mem_of_allBlank page.afterRoot.blank Text.isBlank_bracket)]
    exact page.afterRoot.blank
  have inside := Token.within_element .html [page.languageAttribute] page.rootTokens page.lead
    [page.afterRoot.token] page.document.length
  rw [Token.innerSpan_element] at inside
  exact Rules.root_clean page.named_root rfl rfl (Nat.le_add_right _ _) beforeCut page.lead_blank
    afterCut afterBlank ((congrArg Rules.rootContent inside).trans (page.rootContent_clean _))
    (page.declaresLanguage_opening _)

private theorem gapBefore_head :
    Rules.gapBefore? page.document (Token.size page.upToHead) = some page.beforeHead.text := by
  let upToGap := page.lead ++ [.opening .html [page.languageAttribute]]
  have upTo : page.upToHead = upToGap ++ [page.beforeHead.token] := by
    simp [upToHead, upToGap]
  have size : Token.size upToGap = Token.size page.lead +
      Text.byteLength (Token.opening .html [page.languageAttribute]).source := by
    rw [Token.size_append, Token.size_singleton]
  have first : ((page.document.tagsNamed "html").find? fun tag =>
      tag.isOpening && decide (tag.span.stop ≤ Token.size page.upToHead)) =
        some (Token.openingAt (Token.size page.lead) .html [page.languageAttribute]) := by
    rw [page.named_root]
    apply List.find?_cons_of_pos
    rw [upTo, Token.size_append, size]
    simp [Token.elementAt, Token.openingAt, Tag.isOpening]
  have cut := Token.slice_render upToGap [page.beforeHead.token]
    (Token.element .head [] page.headTokens ++ page.behindHead)
  rw [← List.append_assoc, ← upTo, ← tokens_head, ← Token.size_append, ← upTo, size] at cut
  unfold Rules.gapBefore?
  rw [first]
  exact cut.trans (congrArg some (List.append_nil _))

theorem head_clean : Rules.head page.document = some .clean := by
  have inside := Token.within_element .head [] page.headTokens page.upToHead page.behindHead
    page.document.length
  rw [← tokens_head, Token.innerSpan_element] at inside
  refine Rules.head_clean page.named_head rfl rfl (Nat.le_add_right _ _) page.gapBefore_head
    page.beforeHead.blank ?_
  intro tag member
  have name := Token.name_mem_names (inside ▸ member)
  simp [headTokens, titleTokens] at name
  simp [name]

private theorem plain_body :
    ∀ token ∈ page.bodyTokens, token.isComment = false ∧ token.isDeclaration = false := by
  intro token member
  rcases List.mem_append.mp member with inBlocks | inGap
  · exact Block.plain_of_mem inBlocks
  · rw [List.mem_singleton.mp inGap]
    exact ⟨rfl, rfl⟩

private theorem undeclared_body : Doctype.occurs (Token.render page.bodyTokens) = false := by
  have none := Token.readsBy_declarations.spans_render_of_unread Doctype.bracketed.sound
    fun token member => (page.plain_body token member).2
  unfold Doctype.occurs Doctype.find?
  rw [none]
  rfl

private theorem seen_body : Content.isBlank (Token.render page.bodyTokens) = false := by
  have kept : Comment.strip (Token.render page.bodyTokens) = Token.render page.bodyTokens :=
    Token.readsBy_comments.erase_render_of_unread
      fun token member => (page.plain_body token member).1
  have bracket : '<' ∈ Token.render page.bodyTokens := by
    rw [bodyTokens, Token.render_append]
    exact List.mem_append_left _ (Block.bracket_mem_render page.filled)
  unfold Content.isBlank
  rw [kept]
  by_contra blank
  exact Text.not_mem_of_allBlank (by simpa using blank) Text.isBlank_bracket bracket

theorem body_clean : Rules.body page.document = some .clean := by
  let body := Token.elementAt (Token.size page.upToBody) .body [] page.bodyTokens
  have matched : body.Matched := Token.matched_elementAt _ _ _ _
  have single : (page.document.tagsNamed "body").filter Tag.isOpening = [body.opening] := by
    rw [page.named_body]
    exact matched.openings
  have first : Element.first? page.document.tags "body" = some body :=
    Element.first?_of_pair (Element.pair_of_named matched page.named_body)
  have inside := Token.within_element .body [] page.bodyTokens page.upToBody page.behindBody
    page.document.length
  have cut := Token.slice_element .body [] page.bodyTokens page.upToBody page.behindBody
    page.document.length
  rw [← tokens_body] at inside cut
  refine Rules.body_clean single first ?_ cut page.undeclared_body
    (Token.attributes_openingAt .body [] _) page.seen_body
  have apart : ∀ name ∈ Vocabulary.notInBody, name ∉ "p" :: Vocabulary.headings := by decide
  intro tag member forbidden
  exact page.not_mem_names_body (apart tag.name forbidden)
    (Token.name_mem_names (inside ▸ member))

private theorem title_in_head :
    ((Token.elementAt (Token.size page.upToHead) .head [] page.headTokens).innerSpan
      page.document.length).contains (Token.size page.upToTitle) = true := by
  have upTo : Token.size page.upToTitle = Token.size page.upToHead +
      Text.byteLength (Token.opening .head []).source + Token.size [page.beforeTitle.token] := by
    rw [upToTitle, Token.size_append, Token.size_cons, Nat.add_assoc]
  have size : Token.size page.headTokens = Token.size [page.beforeTitle.token] +
      (Text.byteLength (Token.opening .title []).source + Token.size page.titleTokens +
        Text.byteLength (Token.closing .title).source + Token.size [page.afterTitle.token]) := by
    rw [headTokens, Token.size_append, Token.size_append, Token.size_element]
  have filled : 0 < Text.byteLength (Token.opening .title []).source :=
    Text.byteLength_pos (List.cons_ne_nil _ _)
  rw [Token.innerSpan_element]
  simp only [Span.contains_iff]
  omega

theorem title_clean : Rules.title page.document = some .clean := by
  let head := Token.elementAt (Token.size page.upToHead) .head [] page.headTokens
  let title := Token.elementAt (Token.size page.upToTitle) .title [] page.titleTokens
  have first : Element.first? page.document.tags "head" = some head :=
    Element.first?_of_pair
      (Element.pair_of_named (Token.matched_elementAt _ _ _ _) page.named_head)
  have single : Element.pair page.document.tags "title" = [title] :=
    Element.pair_of_named (Token.matched_elementAt _ _ _ _) page.named_title
  have cut := Token.slice_element .title [] page.titleTokens page.upToTitle page.behindTitle
    page.document.length
  rw [← tokens_title, show Token.render page.titleTokens = page.title from List.append_nil _] at cut
  refine Rules.title_clean first single page.title_in_head cut ?_
  rw [Content.visible_of_not_mem page.titleFree]
  apply Rules.titleText_clean
  · intro empty
    have blank := Text.trim_eq_nil_iff.mp empty
    rw [page.titleSeen] at blank
    cases blank
  · intro char member
    obtain ⟨proper, control⟩ := page.titleChars char (Text.mem_of_mem_trim member)
    unfold Rules.isTitleChar
    cases isControl : Text.isControl char with
    | false => simp [proper]
    | true => simp [proper, control isControl]

theorem heading_clean : Rules.heading page.document = some .clean := by
  rw [document, source_blocks]
  exact Block.heading_clean page.alone_blocks

theorem paragraph_clean : Rules.paragraph page.document = some .clean := by
  rw [document, source_blocks]
  exact Block.paragraph_clean page.alone_blocks

theorem anchor_clean : Rules.anchor page.document = some .clean := by
  have notBody := page.not_mem_names_body (show "a" ∉ "p" :: Vocabulary.headings by decide)
  have absent : "a" ∉ Token.names page.tokens := by
    simp [tokens, lead, declaration, rootTokens, headTokens, titleTokens, notBody]
  have tags : page.document.tags = Token.tags 0 page.tokens := Token.scan_render page.tokens
  have none : page.document.tagsNamed "a" = [] := by
    rw [Document.tagsNamed, tags, Token.named_tags_of_not_mem absent]
  have row : page.document.Row "a" [] := .of_tagsNamed (List.forall_mem_nil _) none
  exact Rules.anchor_of_sound row (List.forall_mem_nil _)

theorem clean : page.document.Clean :=
  ⟨page.root_clean, page.head_clean, page.body_clean, page.title_clean, page.heading_clean,
    page.paragraph_clean, page.anchor_clean⟩

/-! ### The outline -/

private theorem titleNodes_head :
    Outline.titleNodes (Token.render page.headTokens) =
      [.leaf "title" (String.ofList (Text.trim page.title)) []] := by
  have notBefore : TagName.title.lowered ∉ Token.names [page.beforeTitle.token] := by simp
  have notInside : TagName.title.lowered ∉ Token.names page.titleTokens := by simp [titleTokens]
  have notAfter : TagName.title.lowered ∉ Token.names [page.afterTitle.token] := by simp
  have single := Token.pair_scan_element [] notBefore notInside notAfter
  have text : Token.render page.titleTokens = page.title := List.append_nil _
  refine (Outline.titleNodes_of_single single rfl).trans ?_
  rw [Token.leafNode_element _ [] _ _ _ List.nodup_nil, text]
  rfl

private theorem bodyNodes_body :
    Outline.bodyNodes (Token.render page.bodyTokens) =
      (page.blocks.filter fun block => block.name.lowered == "p").map Block.leaf ++
        (page.blocks.filter fun block =>
          Vocabulary.headings.contains block.name.lowered).map Block.leaf := by
  have alone : Block.Alone [] [page.afterBlocks.token] := by
    intro name listed
    simp
  have leaves (names : List String) (distinct : names.Nodup)
      (listed : ∀ name ∈ names, name ∈ "p" :: Vocabulary.headings) :
      Outline.leafNodes names (Token.render page.bodyTokens) =
        (page.blocks.filter fun block => names.contains block.name.lowered).map Block.leaf :=
    Block.leafNodes_eq alone distinct listed
  rw [Outline.bodyNodes, leaves ["p"] (by decide) (by decide),
    leaves Vocabulary.headings (by decide) (by decide)]
  simp only [List.contains_cons, List.contains_nil, Bool.or_false]

private theorem pageNodes_root :
    Outline.pageNodes (Token.render page.rootTokens) =
      [.container "head" [] (Outline.titleNodes (Token.render page.headTokens)),
        .container "body" [] (Outline.bodyNodes (Token.render page.bodyTokens))] := by
  have heads := page.named_inner_head 0
  have bodies := page.named_inner_body 0
  rw [← Token.scan_render, Nat.zero_add] at heads bodies
  have head := Element.pair_of_named (Token.matched_elementAt _ _ _ _) heads
  have body := Element.pair_of_named (Token.matched_elementAt _ _ _ _) bodies
  rw [Outline.pageNodes, Outline.containerNodes_of_single head,
    Outline.containerNodes_of_single body]
  have headNode := Token.containerNode_element .head [] page.headTokens [page.beforeHead.token]
    (page.beforeBody.token :: (Token.element .body [] page.bodyTokens ++ [page.afterBody.token]))
    List.nodup_nil "head" Outline.titleNodes
  have bodyNode := Token.containerNode_element .body [] page.bodyTokens page.innerLead
    [page.afterBody.token] List.nodup_nil "body" Outline.bodyNodes
  rw [← rootTokens_body] at bodyNode
  rw [bodyNode]
  exact congrArg (fun node => [node] ++ _) headNode

theorem outline_eq : Outline.page page.source = some page.outline := by
  have root : Element.first? (Tag.scan page.source) "html" = some
      (Token.elementAt (Token.size page.lead) .html [page.languageAttribute] page.rootTokens) :=
    Element.first?_of_pair
      (Element.pair_of_named (Token.matched_elementAt _ _ _ _) page.named_root)
  have node := Token.containerNode_element .html [page.languageAttribute] page.rootTokens
    page.lead [page.afterRoot.token] (by simp) "html" Outline.pageNodes
  rw [page.pageNodes_root, page.titleNodes_head, page.bodyNodes_body] at node
  rw [Outline.page_eq, root]
  exact congrArg (fun node => some [node]) node

end Page

/-- A well-formed page is processed without errors and warnings into its outline. -/
theorem Engine.process_well_formed_page (page : Page) :
    Engine.standard.process (.ofText page.source) .html = some ⟨.html, .clean, some page.outline⟩ :=
  page.clean.process page.outline_eq

def samplePage : Page :=
  let none : Gap := ⟨[], rfl⟩
  let newline : Gap := ⟨['\n'], rfl⟩
  let heading : TagName := ⟨'h', ['1'], rfl, List.all_eq_true.mp (by decide)⟩
  let paragraph : TagName := ⟨'p', [], rfl, List.all_eq_true.mp (by decide)⟩
  let marked : WrittenAttribute :=
    ⟨"Class".toList, .double "a > b".toList (by decide) (by decide), by decide,
      List.all_eq_true.mp (by decide), by decide⟩
  { beforeDeclaration := none, beforeRoot := newline
    language := ['e', 'n'], languageClosed := by decide, languageFree := by decide
    languageSeen := by decide
    beforeHead := none, beforeTitle := none
    title := [' ', 'T'], titleFree := by decide, titleSeen := by decide
    titleChars := by simp [Utf8.replacement, Text.isControl]
    afterTitle := none, beforeBody := newline
    blocks :=
      [⟨newline, heading, [], ['A', ' '], by decide, by decide, by decide, by decide⟩,
        ⟨none, paragraph, [marked], ['B'], by decide, by decide, by decide, by decide⟩]
    filled := by decide
    afterBlocks := newline, afterBody := none, afterRoot := newline }

example : samplePage.source =
    ("<!DOCTYPE html>\n<html lang=\"en\"><head><title> T</title></head>\n" ++
      "<body>\n<h1>A </h1><p Class=\"a > b\">B</p>\n</body></html>\n").toList := by
  decide +kernel

example : samplePage.outline =
    [.container "html" [("lang", "en")]
      [.container "head" [] [.leaf "title" "T" []],
        .container "body" [] [.leaf "p" "B" [("class", "a > b")], .leaf "h1" "A" []]]] := by
  rfl

end PageCheck
