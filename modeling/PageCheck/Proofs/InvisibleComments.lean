import PageCheck.Proofs.EqualVerdicts
import PageCheck.Proofs.RenderedElements

/-! Comments that no rule sees.  Taking the comments out of a rendered source makes a
counterpart of it, unless a comment separates the root tag from the head, where white
space alone may stand.  So sources that are the same without their comments get the same
verdicts. -/

set_option autoImplicit false

namespace PageCheck

namespace Token

/-! ### Without comments -/

def plain (tokens : List Token) : List Token :=
  tokens.filter fun token => !token.isComment

theorem plain_append (first second : List Token) :
    plain (first ++ second) = plain first ++ plain second :=
  List.filter_append _ _

theorem plain_of_uncommented {tokens : List Token}
    (uncommented : ∀ token ∈ tokens, token.isComment = false) : plain tokens = tokens := by
  apply List.filter_eq_self.mpr
  intro token member
  rw [uncommented token member]
  rfl

theorem plain_cons (token : Token) (rest : List Token) :
    plain (token :: rest) = plain [token] ++ plain rest :=
  plain_append [token] rest

def glue : Token → List Token → List Token
  | text body free, text more moreFree :: rest =>
      text (body ++ more) (by simp [free, moreFree]) :: rest
  | token, rest => token :: rest

/-- The tokens without comments, adjacent texts joined. -/
def bare (tokens : List Token) : List Token :=
  (plain tokens).foldr glue []

theorem render_glue (token : Token) (rest : List Token) :
    render (glue token rest) = token.source ++ render rest := by
  unfold glue
  split
  · simp [render, source]
  · rfl

theorem render_foldr_glue (tokens : List Token) : render (tokens.foldr glue []) = render tokens := by
  induction tokens with
  | nil => rfl
  | cons token rest ih => rw [List.foldr_cons, render_glue, ih]; rfl

theorem render_plain_of_bare {first second : List Token} (same : bare first = bare second) :
    render (plain first) = render (plain second) := by
  rw [← render_foldr_glue (plain first), ← render_foldr_glue (plain second)]
  exact congrArg render same

theorem strip_render (tokens : List Token) : Comment.strip (render tokens) = render (plain tokens) :=
  readsBy_comments.erase_render tokens

theorem strip_plain (tokens : List Token) :
    Comment.strip (render (plain tokens)) = render (plain tokens) := by
  rw [strip_render]
  apply congrArg render
  apply plain_of_uncommented
  intro token member
  simpa using (List.mem_filter.mp member).2

/-! ### Declarations -/

theorem locate_append (offset : Nat) (first second : List Token) :
    locate offset (first ++ second) =
      locate offset first ++ locate (offset + size first) second := by
  induction first generalizing offset with
  | nil => rfl
  | cons token rest ih =>
      rw [List.cons_append, locate, locate, ih, size_cons, Nat.add_assoc]
      rfl

theorem locate_bounds {offset : Nat} {tokens : List Token} {placed : Token × Span}
    (member : placed ∈ locate offset tokens) :
    offset ≤ placed.2.start ∧ placed.2.stop ≤ offset + size tokens := by
  induction tokens generalizing offset with
  | nil => cases member
  | cons token rest ih =>
      rw [size_cons]
      rcases List.mem_cons.mp member with rfl | later
      · exact ⟨Nat.le_refl _, by simp only; omega⟩
      · have bounds := ih later
        omega

theorem find?_undeclared {tokens : List Token}
    (undeclared : ∀ token ∈ tokens, token.isDeclaration = false) :
    Doctype.find? (render tokens) = none := by
  unfold Doctype.find?
  rw [readsBy_declarations.spans_render_of_unread Doctype.bracketed.sound undeclared]
  rfl

theorem find?_declared {before : List Token} {token : Token} (after : List Token)
    (undeclared : ∀ earlier ∈ before, earlier.isDeclaration = false)
    (declares : token.isDeclaration = true) :
    Doctype.find? (render (before ++ token :: after)) =
      some ⟨size before, size before + Text.byteLength token.source⟩ := by
  have spans : Doctype.pattern.spans (render (before ++ token :: after)) =
      ⟨size before, size before + Text.byteLength token.source⟩ ::
        ((locate (size before + Text.byteLength token.source) after).filter fun placed =>
          placed.1.isDeclaration).map (·.2) := by
    have none : (locate 0 before).filter (fun placed => placed.1.isDeclaration) = [] := by
      apply List.filter_eq_nil_iff.mpr
      intro placed member
      rw [undeclared placed.1 (mem_of_mem_locate member)]
      exact Bool.false_ne_true
    rw [readsBy_declarations.spans_render Doctype.bracketed.sound, locate_append,
      List.filter_append, none, Nat.zero_add, locate]
    simp [declares]
  have filled : 0 < Text.byteLength token.source := by
    cases token with
    | declaration body spaced free unclosed => exact Text.byteLength_pos (List.cons_ne_nil _ _)
    | _ => cases declares
  have uncovered : Comment.covers (Comment.spans (render (before ++ token :: after)))
      (size before) = false := by
    rw [← Bool.not_eq_true, Comment.covers_eq_true]
    rintro ⟨comment, present, starts, stops⟩
    rw [Comment.spans, readsBy_comments.spans_render Comment.bracketed.sound] at present
    obtain ⟨placed, kept, rfl⟩ := List.mem_map.mp present
    obtain ⟨located, commented⟩ := List.mem_filter.mp kept
    rw [locate_append, Nat.zero_add, locate] at located
    rcases List.mem_append.mp located with earlier | later
    · have bounds := locate_bounds earlier
      omega
    · rcases List.mem_cons.mp later with rfl | behind
      · cases token with
        | declaration body spaced free unclosed => cases commented
        | _ => cases declares
      · have bounds := locate_bounds behind
        omega
  unfold Doctype.find?
  rw [spans, List.find?_cons_of_pos (by simp [uncovered])]

theorem declaration_cases (tokens : List Token) :
    (∀ token ∈ tokens, token.isDeclaration = false) ∨
      ∃ before token after, tokens = before ++ token :: after ∧ token.isDeclaration = true ∧
        ∀ earlier ∈ before, earlier.isDeclaration = false := by
  cases found : tokens.find? isDeclaration with
  | none =>
      left
      intro token member
      simpa using List.find?_eq_none.mp found token member
  | some token =>
      obtain ⟨declares, before, after, split, earlier⟩ := List.find?_eq_some_iff_append.mp found
      exact Or.inr ⟨before, token, after, split, declares,
        fun token member => by simpa using earlier token member⟩

theorem plain_undeclared {tokens : List Token}
    (undeclared : ∀ token ∈ tokens, token.isDeclaration = false) :
    ∀ token ∈ plain tokens, token.isDeclaration = false :=
  fun token member => undeclared token (List.mem_filter.mp member).1

theorem plain_declared {before after : List Token} {token : Token}
    (declares : token.isDeclaration = true) :
    plain (before ++ token :: after) = plain before ++ token :: plain after := by
  cases token with
  | declaration body spaced free unclosed => exact plain_append before _
  | _ => cases declares

theorem occurs_plain (tokens : List Token) :
    Doctype.occurs (render (plain tokens)) = Doctype.occurs (render tokens) := by
  unfold Doctype.occurs
  rcases declaration_cases tokens with undeclared | ⟨before, token, after, rfl, declares, earlier⟩
  · rw [find?_undeclared undeclared, find?_undeclared (plain_undeclared undeclared)]
  · rw [plain_declared declares, find?_declared after earlier declares,
      find?_declared (plain after) (plain_undeclared earlier) declares]
    rfl

theorem alike_plain (tokens : List Token) :
    Content.Alike (render tokens) (render (plain tokens)) where
  blank := by rw [Content.isBlank, Content.isBlank, strip_plain, strip_render]
  undeclared := by rw [strip_plain, strip_render]
  declared := occurs_plain tokens
  shown := by rw [Content.visible, Content.visible, strip_plain, strip_render]
  titled := by rw [Content.visible, Content.visible, strip_plain, strip_render]

/-! ### Places -/

/-- Where an offset comes to when comments are taken out. -/
def squeeze : List Token → Nat → Nat
  | [], _ => 0
  | token :: rest, offset =>
      if offset < Text.byteLength token.source then
        0
      else
        size (plain [token]) + squeeze rest (offset - Text.byteLength token.source)

theorem squeeze_zero (tokens : List Token) : squeeze tokens 0 = 0 := by
  induction tokens with
  | nil => rfl
  | cons token rest ih =>
      rw [squeeze]
      split
      · rfl
      · rename_i empty
        have bound : size (plain [token]) ≤ Text.byteLength token.source := by
          unfold plain
          cases commented : token.isComment with
          | true => simp [commented, size, render, Text.byteLength]
          | false => simp [commented, size, render]
        rw [Nat.zero_sub, ih]
        omega

theorem squeeze_size (before after : List Token) :
    squeeze (before ++ after) (size before) = size (plain before) := by
  induction before with
  | nil => exact squeeze_zero after
  | cons token rest ih =>
      rw [List.cons_append, squeeze, size_cons, if_neg (by omega), Nat.add_sub_cancel_left, ih,
        plain_cons token rest, size_append]

def settle (tokens : List Token) (tag : Tag) : Tag :=
  { tag with span := ⟨squeeze tokens tag.span.start, squeeze tokens tag.span.stop⟩ }

theorem settle_tag? (before after : List Token) (token : Token) :
    (token.tag? ⟨size before, size (before ++ [token])⟩).map
        (settle (before ++ token :: after)) =
      token.tag? ⟨size (plain before), size (plain (before ++ [token]))⟩ := by
  have starts := squeeze_size before (token :: after)
  have stops := squeeze_size (before ++ [token]) after
  rw [List.append_assoc, List.singleton_append] at stops
  cases token with
  | closing name => simp only [tag?, Option.map_some, settle, starts, stops]
  | opening name attributes => simp only [tag?, Option.map_some, settle, starts, stops]
  | selfClosing name attributes => simp only [tag?, Option.map_some, settle, starts, stops]
  | _ => rfl

theorem tags_plain_singleton (offset : Nat) (token : Token) :
    tags offset (plain [token]) =
      (token.tag? ⟨offset, offset + size (plain [token])⟩).toList := by
  cases commented : token.isComment with
  | true =>
      cases token with
      | comment body free unclosed => rfl
      | _ => cases commented
  | false =>
      rw [plain_of_uncommented (by simpa using commented), tags_cons, size_singleton]
      exact List.append_nil _

/-- The tags that are left are the same ones in their places. -/
theorem tags_plain (before after : List Token) :
    tags (size (plain before)) (plain after) =
      (tags (size before) after).map (settle (before ++ after)) := by
  induction after generalizing before with
  | nil => rfl
  | cons token rest ih =>
      have later := ih (before ++ [token])
      have here := settle_tag? before rest token
      rw [List.append_assoc, List.singleton_append, plain_append, size_append, size_append,
        size_singleton] at later
      rw [plain_append, size_append, size_append, size_singleton] at here
      rw [tags_cons, List.map_append, ← later, ← Option.toList_map, here, plain_cons token rest,
        tags_append, tags_plain_singleton]

structure Stands (tokens : List Token) (tag : Tag) (before : List Token) (token : Token)
    (after : List Token) : Prop where
  tokens_eq : tokens = before ++ token :: after
  tag_eq : token.tag? ⟨size before, size (before ++ [token])⟩ = some tag

theorem exists_stands {tokens : List Token} {tag : Tag} (member : tag ∈ tags 0 tokens) :
    ∃ before token after, Stands tokens tag before token after := by
  have general : ∀ before after, tag ∈ tags (size before) after →
      ∃ front token behind, Stands (before ++ after) tag front token behind := by
    intro before after present
    induction after generalizing before with
    | nil => cases present
    | cons token rest ih =>
        rw [tags_cons, List.mem_append, Option.mem_toList] at present
        rcases present with here | later
        · refine ⟨before, token, rest, rfl, ?_⟩
          rw [size_append, size_singleton]
          exact here
        · have next := ih (before ++ [token]) (by rwa [size_append, size_singleton])
          rwa [List.append_assoc, List.singleton_append] at next
  exact general [] tokens member

namespace Stands

variable {tokens before after : List Token} {tag : Tag} {token : Token}

theorem span_eq (stands : Stands tokens tag before token after) :
    tag.span = ⟨size before, size (before ++ [token])⟩ := by
  have same := stands.tag_eq
  cases token <;> cases same <;> rfl

theorem settle_span (stands : Stands tokens tag before token after) :
    (settle tokens tag).span = ⟨size (plain before), size (plain (before ++ [token]))⟩ := by
  have starts := squeeze_size before (token :: after)
  have stops := squeeze_size (before ++ [token]) after
  rw [List.append_assoc, List.singleton_append, ← stands.tokens_eq] at stops
  rw [← stands.tokens_eq] at starts
  simp only [settle, stands.span_eq, starts, stops]

theorem filled (stands : Stands tokens tag before token after) :
    0 < Text.byteLength token.source := by
  have same := stands.tag_eq
  cases token with
  | closing name => exact Text.byteLength_pos (List.cons_ne_nil _ _)
  | opening name attributes => exact Text.byteLength_pos (List.cons_ne_nil _ _)
  | selfClosing name attributes => exact Text.byteLength_pos (List.cons_ne_nil _ _)
  | _ => cases same

theorem exists_between (stands : Stands tokens tag before token after) {later : Tag}
    {front behind : List Token} {other : Token}
    (standsLater : Stands tokens later front other behind)
    (le : tag.span.stop ≤ later.span.start) :
    ∃ inside, tokens = (before ++ [token]) ++ (inside ++ other :: behind) ∧
      front = (before ++ [token]) ++ inside := by
  rw [stands.span_eq, standsLater.span_eq] at le
  have split : (before ++ [token]) ++ after = front ++ other :: behind := by
    rw [← standsLater.tokens_eq, stands.tokens_eq, List.append_assoc, List.singleton_append]
  rcases List.append_eq_append_iff.mp split with ⟨inside, frontEq, -⟩ | ⟨overlap, earlier, rest⟩
  · refine ⟨inside, ?_, frontEq⟩
    rw [standsLater.tokens_eq, frontEq, List.append_assoc]
  · cases overlap with
    | nil =>
        rw [List.append_nil] at earlier
        exact ⟨[], by rw [standsLater.tokens_eq, earlier]; rfl, by rw [earlier, List.append_nil]⟩
    | cons first more =>
        rw [List.cons_append, List.cons.injEq] at rest
        have positive := standsLater.filled
        simp only [earlier, size_append, size_cons, ← rest.1] at le
        omega

end Stands

/-! ### Matching texts -/

def document (tokens : List Token) : Document :=
  .ofText (render tokens)

theorem slice_document (before inside after : List Token) :
    (document (before ++ (inside ++ after))).slice? ⟨size before, size (before ++ inside)⟩ =
      some (render inside) := by
  rw [size_append]
  exact slice_render before inside after

theorem slice_plain (before inside after : List Token) :
    (document (plain (before ++ (inside ++ after)))).slice?
        ⟨size (plain before), size (plain (before ++ inside))⟩ = some (render (plain inside)) := by
  rw [plain_append, plain_append, plain_append]
  exact slice_document (plain before) (plain inside) (plain after)

theorem matches_plain (before inside after : List Token) :
    Document.Matches (document (before ++ (inside ++ after)))
      (document (plain (before ++ (inside ++ after))))
      ⟨size before, size (before ++ inside)⟩
      ⟨size (plain before), size (plain (before ++ inside))⟩ :=
  ⟨render inside, render (plain inside), slice_document before inside after,
    slice_plain before inside after, alike_plain inside⟩

/-! ### Root and head -/

def opens (name : String) : Token → Bool
  | opening tagName _ => tagName.lowered == name
  | _ => false

theorem Stands.opens_eq {tokens before after : List Token} {tag : Tag} {token : Token}
    (stands : Stands tokens tag before token after) {name : String} (named : tag.name = name)
    (isOpening : tag.isOpening = true) : token.opens name = true := by
  have same := stands.tag_eq
  cases token with
  | opening tagName attributes =>
      cases same
      exact beq_iff_eq.mpr named
  | closing tagName =>
      cases same
      cases isOpening
  | selfClosing tagName attributes =>
      cases same
      cases isOpening
  | _ => cases same

/-- No comment stands between an opening root tag and an opening head tag behind it. -/
def ClearBeforeHead (tokens : List Token) : Prop :=
  ∀ root note head : Fin tokens.length, root < note → note < head →
    tokens[root].opens "html" = true → tokens[head].opens "head" = true →
      tokens[note].isComment = false

instance (tokens : List Token) : Decidable (ClearBeforeHead tokens) := by
  unfold ClearBeforeHead
  infer_instance

theorem ClearBeforeHead.uncommented {tokens before inside after : List Token} {root head : Token}
    (clear : ClearBeforeHead tokens)
    (split : tokens = (before ++ [root]) ++ (inside ++ head :: after))
    (rootOpens : root.opens "html" = true) (headOpens : head.opens "head" = true) :
    ∀ token ∈ inside, token.isComment = false := by
  intro token member
  obtain ⟨left, right, rfl⟩ := List.append_of_mem member
  have place {front rest : List Token} {token : Token} (split : tokens = front ++ token :: rest) :
      ∃ bound : front.length < tokens.length, tokens[front.length] = token := by
    subst split
    exact ⟨by simp, by simp⟩
  obtain ⟨rootBound, rootAt⟩ := place
    (show tokens = before ++ root :: (left ++ token :: (right ++ head :: after)) by simp [split])
  obtain ⟨noteBound, noteAt⟩ := place
    (show tokens = (before ++ root :: left) ++ token :: (right ++ head :: after) by simp [split])
  obtain ⟨headBound, headAt⟩ := place
    (show tokens = (before ++ root :: (left ++ token :: right)) ++ head :: after by simp [split])
  have found := clear ⟨_, rootBound⟩ ⟨_, noteBound⟩ ⟨_, headBound⟩
    (by simp [Fin.lt_def]) (by simp [Fin.lt_def])
  simp only [Fin.getElem_fin, rootAt, noteAt, headAt] at found
  exact found rootOpens headOpens

/-! ### The counterpart -/

/-- A rendered source has its counterpart in what is left of it without comments. -/
theorem counterpart_plain {tokens : List Token} (clear : ClearBeforeHead tokens) :
    Document.Counterpart (document tokens) (document (plain tokens)) (settle tokens) := by
  have placed {tag : Tag} (member : tag ∈ (document tokens).tags) :
      ∃ before token after, Stands tokens tag before token after := by
    have scanned : tag ∈ Tag.scan (render tokens) := member
    rw [scan_render] at scanned
    exact exists_stands scanned
  exact
    { tags_eq := by
        change Tag.scan (render (plain tokens)) = (Tag.scan (render tokens)).map (settle tokens)
        rw [scan_render, scan_render]
        exact tags_plain [] tokens
      name_eq := fun _ => rfl
      kind_eq := fun _ => rfl
      attributes_eq := fun _ => rfl
      lead := by
        intro tag member
        obtain ⟨before, token, after, stands⟩ := placed member
        have matched := matches_plain [] before (token :: after)
        rw [List.nil_append, List.nil_append, ← stands.tokens_eq] at matched
        rw [stands.span_eq, stands.settle_span]
        exact matched
      between := by
        intro tag member later present le
        obtain ⟨before, token, after, stands⟩ := placed member
        obtain ⟨front, other, behind, standsLater⟩ := placed present
        obtain ⟨inside, split, frontEq⟩ := stands.exists_between standsLater le
        have matched := matches_plain (before ++ [token]) inside (other :: behind)
        rw [← split, ← frontEq] at matched
        rw [stands.span_eq, stands.settle_span, standsLater.span_eq, standsLater.settle_span]
        exact matched
      rest := by
        intro tag member
        obtain ⟨before, token, after, stands⟩ := placed member
        have matched := matches_plain (before ++ [token]) after []
        have split : (before ++ [token]) ++ after = tokens := by
          rw [List.append_assoc, List.singleton_append, stands.tokens_eq]
        rw [List.append_nil, split] at matched
        rw [stands.span_eq, stands.settle_span]
        exact matched
      gap := by
        intro root rootPresent rootNamed rootOpens head headPresent headNamed headOpens le
        obtain ⟨before, token, after, stands⟩ := placed rootPresent
        obtain ⟨front, other, behind, standsHead⟩ := placed headPresent
        obtain ⟨inside, split, frontEq⟩ := stands.exists_between standsHead le
        have uncommented := clear.uncommented split (stands.opens_eq rootNamed rootOpens)
          (standsHead.opens_eq headNamed headOpens)
        have cut := slice_document (before ++ [token]) inside (other :: behind)
        have plainCut := slice_plain (before ++ [token]) inside (other :: behind)
        rw [← split, ← frontEq] at cut plainCut
        rw [plain_of_uncommented uncommented] at plainCut
        rw [stands.span_eq, stands.settle_span, standsHead.span_eq, standsHead.settle_span]
        exact congrArg (Option.map Text.allBlank) (plainCut.trans cut.symm)
      declaration := by
        change Option.Rel _ (Doctype.find? (render tokens)) (Doctype.find? (render (plain tokens)))
        rcases declaration_cases tokens with
          undeclared | ⟨before, token, after, split, declares, earlier⟩
        · rw [find?_undeclared undeclared, find?_undeclared (plain_undeclared undeclared)]
          exact Option.Rel.none
        · have matched := matches_plain [] before (token :: after)
          rw [List.nil_append, List.nil_append, ← split] at matched
          have found := find?_declared after earlier declares
          have foundPlain := find?_declared (plain after) (plain_undeclared earlier) declares
          rw [← split] at found
          rw [← plain_declared declares, ← split] at foundPlain
          rw [found, foundPlain]
          exact Option.Rel.some matched }

theorem document_plain_of_bare {first second : List Token} (same : bare first = bare second) :
    document (plain first) = document (plain second) := by
  unfold document
  rw [render_plain_of_bare same]

end Token

/-- Comments are invisible to the rules: two sources that are the same without their
comments get the same verdict from the standard rules, and from every chain of a registry. -/
theorem Engine.comments_are_invisible (first second : List Token)
    (same : Token.bare first = Token.bare second) (firstClear : Token.ClearBeforeHead first)
    (secondClear : Token.ClearBeforeHead second) :
    Engine.standard.validate (.ofText (Token.render first)) .html =
        Engine.standard.validate (.ofText (Token.render second)) .html ∧
      ∀ (registry : Registry) (kind : InputKind) (chain : ValidatorChain),
        ValidatorChain.ofRegistry registry kind = .ok chain →
          chain.run (.ofText (Token.render first)) = chain.run (.ofText (Token.render second)) := by
  have every (registry : Registry) (kind : InputKind) (chain : ValidatorChain)
      (resolved : ValidatorChain.ofRegistry registry kind = .ok chain) :
      chain.run (Token.document first) = chain.run (Token.document second) :=
    calc chain.run (Token.document first)
      _ = chain.run (Token.document (Token.plain first)) :=
        ((Token.counterpart_plain firstClear).chain_run resolved).symm
      _ = chain.run (Token.document (Token.plain second)) := by
        rw [Token.document_plain_of_bare same]
      _ = chain.run (Token.document second) := (Token.counterpart_plain secondClear).chain_run resolved
  exact ⟨every Registry.standard .html Engine.standard.html.validators rfl, every⟩

def Token.annotatedPage : List Token :=
  [.comment ['1'] (by decide) (by decide),
    .declaration [' ', 'h'] rfl (by decide) (by decide),
    .opening .html [], .opening .head [], .comment ['>', '-'] (by decide) (by decide),
    .opening .title [], .text ['T'] (by decide), .comment ['2', '-'] (by decide) (by decide),
    .text ['i'] (by decide), .closing .title, .closing .head, .opening .body [],
    .text ['x'] (by decide), .closing .body, .closing .html,
    .comment [] (by decide) (by decide)]

def Token.reannotatedPage : List Token :=
  [.declaration [' ', 'h'] rfl (by decide) (by decide),
    .comment ['3'] (by decide) (by decide), .opening .html [], .opening .head [],
    .opening .title [], .text ['T', 'i'] (by decide), .closing .title, .closing .head,
    .comment ['4'] (by decide) (by decide), .opening .body [],
    .comment ['5'] (by decide) (by decide), .text ['x'] (by decide), .closing .body,
    .closing .html]

def Registry.declaring : Registry where
  html := ⟨"doctype" :: Registry.standard.html.validators, Registry.standard.html.extractors⟩
  markdown := Registry.standard.markdown

theorem Engine.comments_are_invisible_in_annotated_page :
    Token.bare Token.annotatedPage = Token.bare Token.reannotatedPage ∧
      Token.ClearBeforeHead Token.annotatedPage ∧ Token.ClearBeforeHead Token.reannotatedPage ∧
      ∃ chain, ValidatorChain.ofRegistry Registry.declaring .html = .ok chain ∧
        chain.run (.ofText (Token.render Token.annotatedPage)) =
          chain.run (.ofText (Token.render Token.reannotatedPage)) := by
  have same : Token.bare Token.annotatedPage = Token.bare Token.reannotatedPage := rfl
  have clear : Token.ClearBeforeHead Token.annotatedPage := by decide +kernel
  have clearAgain : Token.ClearBeforeHead Token.reannotatedPage := by decide +kernel
  obtain ⟨chain, resolved⟩ :
      ∃ chain, ValidatorChain.ofRegistry Registry.declaring .html = .ok chain := ⟨_, rfl⟩
  have invisible := (Engine.comments_are_invisible _ _ same clear clearAgain).2
  exact ⟨same, clear, clearAgain, chain, resolved, invisible Registry.declaring .html chain resolved⟩

end PageCheck
