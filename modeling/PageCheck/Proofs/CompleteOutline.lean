import PageCheck.Proofs.Extraction
import PageCheck.Proofs.Skeleton
import PageCheck.Proofs.VisibleText

/-! Complete outlines.  The rules make sure that an accepted page has its root, its
head with a title and its body, but each rule chooses closing tags in its own way.
Extraction takes an element for what lies between its paired tags.  The module says
when the two agree: the outline of an accepted page is complete just when its
elements, paired over the whole page, lie inside one another. -/

set_option autoImplicit false

namespace PageCheck

/-- The root element with a head, which holds nothing but a title that is not empty,
and with a body behind it. -/
def Outline.Complete (forest : List Node) : Prop :=
  ∃ rootAttributes headAttributes titleAttributes bodyAttributes text children, text ≠ "" ∧
    forest = [.container "html" rootAttributes
      [.container "head" headAttributes [.leaf "title" text titleAttributes],
        .container "body" bodyAttributes children]]

/-- The tags that open the head and the body lie in the root element, and the title
lies in the head with both its tags. -/
structure Document.Nests (document : Document) (root head title body : Element) : Prop where
  head_in_root : (root.innerSpan document.length).encloses head.opening.span = true
  body_in_root : (root.innerSpan document.length).encloses body.opening.span = true
  title_closed : title.isClosed = true
  title_in_head :
    (head.innerSpan document.length).encloses (title.outerSpan document.length) = true

instance {document : Document} {root head title body : Element} :
    Decidable (document.Nests root head title body) :=
  decidable_of_iff
    ((root.innerSpan document.length).encloses head.opening.span = true ∧
      (root.innerSpan document.length).encloses body.opening.span = true ∧
      title.isClosed = true ∧
      (head.innerSpan document.length).encloses (title.outerSpan document.length) = true)
    ⟨fun ⟨head, body, closed, title⟩ => ⟨head, body, closed, title⟩,
      fun ⟨head, body, closed, title⟩ => ⟨head, body, closed, title⟩⟩

def Document.Nested (document : Document) : Prop :=
  ∃ root ∈ Element.first? document.tags "html", ∃ head ∈ Element.first? document.tags "head",
    ∃ title ∈ Element.first? document.tags "title", ∃ body ∈ Element.first? document.tags "body",
      document.Nests root head title body

instance (document : Document) : Decidable document.Nested := by
  unfold Document.Nested
  infer_instance

namespace Document.Skeleton

variable {document : Document} {root head title body : Element}

theorem nested_iff (skeleton : document.Skeleton root head title body) :
    document.Nested ↔ document.Nests root head title body := by
  constructor
  · rintro ⟨_, rootFirst, _, headFirst, _, titleFirst, _, bodyFirst, nests⟩
    rw [Element.first?_of_pair skeleton.root_eq] at rootFirst
    rw [Element.first?_of_pair skeleton.head_eq] at headFirst
    rw [Element.first?_of_pair skeleton.title_eq] at titleFirst
    rw [Element.first?_of_pair skeleton.body_eq] at bodyFirst
    cases rootFirst
    cases headFirst
    cases titleFirst
    cases bodyFirst
    exact nests
  · intro nests
    exact ⟨root, Element.first?_of_pair skeleton.root_eq,
      head, Element.first?_of_pair skeleton.head_eq,
      title, Element.first?_of_pair skeleton.title_eq,
      body, Element.first?_of_pair skeleton.body_eq, nests⟩

/-- Since white space alone separates the root tag from the head, no comment that
begins in the root tag ends behind it. -/
theorem root_uncut (skeleton : document.Skeleton root head title body)
    (before : root.opening.span.stop ≤ head.opening.span.start) :
    ∀ comment ∈ Comment.spans document.source, ¬ comment.Crosses root.opening.span.stop := by
  intro comment member crossed
  obtain ⟨gap, cut, blank⟩ := skeleton.gap_blank before
  obtain ⟨left, right, sourceEq, spanEq⟩ := Text.slice?_eq_some cut
  rw [Span.mk.injEq] at spanEq
  have free := Text.not_mem_of_allBlank blank Text.isBlank_closingBracket
  have passes : head.opening.span.start < comment.stop := by
    rw [spanEq.2]
    rw [sourceEq] at member
    rw [spanEq.1] at crossed
    exact Comment.bracketed.passes_of_crosses free member crossed
  have opens := (Element.opening_mem_of_mem_pair (Element.mem_pair_of_single skeleton.head_eq)).1
  rw [document.tags_eq_scan] at opens
  have starts := crossed.1
  exact Tag.start_outside_comments opens comment member ⟨by omega, passes⟩

/-- The head lies in the root element with both its tags if its opening tag does. -/
theorem head_in_root (skeleton : document.Skeleton root head title body)
    (inRoot : (root.innerSpan document.length).encloses head.opening.span = true) {closing : Tag}
    (closed : head.closing = some closing) :
    (root.innerSpan document.length).encloses closing.span = true := by
  have ordered := document.tags_ordered
  obtain ⟨rootEnd, rootClosed⟩ := Option.isSome_iff_exists.mp skeleton.root_closed
  have headMember := Element.mem_pair_of_single skeleton.head_eq
  obtain ⟨rootPresent, rootNamed, -, rootBehind⟩ := Element.closing_mem_of_mem_pair ordered
    (Element.mem_pair_of_single skeleton.root_eq) rootClosed
  obtain ⟨headPresent, headNamed, -, headBehind⟩ :=
    Element.closing_mem_of_mem_pair ordered headMember closed
  have headOpening := (Element.opening_mem_of_mem_pair headMember).1
  have headFilled := ordered.filled headOpening
  rw [Element.innerSpan_of_closing rootClosed rootBehind, Span.encloses_iff] at inRoot ⊢
  have opens : root.opening.span.stop ≤ head.opening.span.start := inRoot.1
  have ends : head.opening.span.stop ≤ rootEnd.span.start := inRoot.2
  have outside : ¬ (head.opening.span.stop ≤ rootEnd.span.start ∧
      rootEnd.span.stop ≤ closing.span.start) := by
    intro between
    apply (skeleton.head_free rootEnd (List.mem_filter.mpr ⟨rootPresent, ?_⟩)).1 rootNamed
    rw [Element.innerSpan_of_closing closed headBehind]
    exact Span.encloses_iff.mpr between
  rcases ordered.apart rootPresent headPresent with same | before | behind
  · rw [same, headNamed] at rootNamed
    exact absurd rootNamed (by decide)
  · exact absurd ⟨ends, before⟩ outside
  · exact ⟨by change root.opening.span.stop ≤ closing.span.start; omega, behind⟩

/-- In an excerpt that is the inside of the root element, the head is found again. -/
theorem exists_inner_head (skeleton : document.Skeleton root head title body)
    {fragment : List Char} (excerpt : Excerpt document.source fragment)
    (spanEq : excerpt.span = root.innerSpan document.length)
    (inRoot : (root.innerSpan document.length).encloses head.opening.span = true) :
    ∃ inner, Element.pair (Tag.scan fragment) "head" = [inner] ∧
      inner.shift excerpt.offset = head := by
  have single := skeleton.head_eq
  rw [document.tags_eq_scan] at single
  obtain ⟨closing, closed⟩ := Option.isSome_iff_exists.mp skeleton.head_closed
  obtain ⟨inner, innerEq, -, whole⟩ := excerpt.exists_pair_single single (spanEq ▸ inRoot)
  exact ⟨inner, innerEq, whole closing closed (spanEq ▸ skeleton.head_in_root inRoot closed)⟩

private theorem title_content (skeleton : document.Skeleton root head title body)
    {fragment : List Char} (excerpt : Excerpt document.source fragment) {inner : Element}
    (member : inner ∈ Element.pair (Tag.scan fragment) "title")
    (closed : inner.isClosed = true) (innerEq : inner.shift excerpt.offset = title) :
    String.ofList (Text.trim (inner.inside fragment)) ≠ "" := by
  obtain ⟨text, cut, seen⟩ := skeleton.title_text
  have spanEq : Rules.titleSpan title (head.innerSpan document.length) =
      (inner.innerSpan (Text.byteLength fragment)).shift excerpt.offset := by
    rw [← Element.innerSpan_shift closed excerpt.offset _ document.length, innerEq]
    obtain ⟨closing, titleClosed⟩ : ∃ closing, title.closing = some closing := by
      obtain ⟨closing, innerClosed⟩ := Option.isSome_iff_exists.mp closed
      exact ⟨closing.shift excerpt.offset, by rw [← innerEq, Element.shift, innerClosed]; rfl⟩
    simp only [Rules.titleSpan, Element.innerSpan, titleClosed]
  have insideEq : inner.inside fragment = text := by
    have again := excerpt.slice_shift (Element.inner?_eq_inside member)
    rw [← spanEq] at again
    exact Option.some.inj (again.symm.trans cut)
  rw [insideEq]
  intro empty
  apply Content.trim_ne_nil_of_visible seen
  rw [← String.toList_ofList (l := Text.trim text), empty]
  rfl

/-- Elements that lie inside one another make a complete outline. -/
theorem complete_of_nests (skeleton : document.Skeleton root head title body)
    (nests : document.Nests root head title body)
    (uncut : ∀ comment ∈ Comment.spans document.source,
      ¬ comment.Crosses head.opening.span.stop) :
    Outline.Complete [Outline.containerNode "html" Outline.pageNodes document.source root] := by
  have rootSingle := skeleton.root_eq
  have bodySingle := skeleton.body_eq
  have titleSingle := skeleton.title_eq
  rw [document.tags_eq_scan] at rootSingle bodySingle titleSingle
  have rootUncut := skeleton.root_uncut (Span.encloses_iff.mp nests.head_in_root).1
  obtain ⟨rootExcerpt, -, rootSpan⟩ := Element.exists_excerpt
    (Element.mem_pair_of_single rootSingle) rootUncut
  obtain ⟨innerHead, headSingle, headEq⟩ :=
    skeleton.exists_inner_head rootExcerpt rootSpan nests.head_in_root
  obtain ⟨innerBody, innerBodySingle, -, -⟩ :=
    rootExcerpt.exists_pair_single bodySingle (rootSpan ▸ nests.body_in_root)
  obtain ⟨headExcerpt, headSpan⟩ := rootExcerpt.exists_inside
    (Element.mem_pair_of_single headSingle) (by rw [← headEq] at uncut; exact uncut)
  rw [← Element.innerSpan_shift (Element.isClosed_of_shift headEq skeleton.head_closed) _ _
    document.length, headEq] at headSpan
  obtain ⟨closing, titleClosed⟩ := Option.isSome_iff_exists.mp nests.title_closed
  have titleInHead := nests.title_in_head
  rw [Element.encloses_outerSpan_iff (Tag.scan_ordered _) (Element.mem_pair_of_single titleSingle)
    titleClosed, ← headSpan] at titleInHead
  obtain ⟨innerTitle, innerTitleSingle, -, whole⟩ :=
    headExcerpt.exists_pair_single titleSingle titleInHead.1
  have titleEq := whole closing titleClosed titleInHead.2
  have innerTitleClosed := Element.isClosed_of_shift titleEq nests.title_closed
  have inPage : Outline.pageNodes (root.inside document.source) =
      [Outline.containerNode "head" Outline.titleNodes (root.inside document.source) innerHead,
        Outline.containerNode "body" Outline.bodyNodes (root.inside document.source)
          innerBody] := by
    unfold Outline.pageNodes
    rw [Outline.containerNodes_of_single headSingle,
      Outline.containerNodes_of_single innerBodySingle]
    rfl
  have named := (Element.opening_mem_of_mem_pair (Element.mem_pair_of_single innerTitleSingle)).2.1
  have content := skeleton.title_content headExcerpt
    (Element.mem_pair_of_single innerTitleSingle) innerTitleClosed titleEq
  refine ⟨root.opening.attributeMap, innerHead.opening.attributeMap,
    innerTitle.opening.attributeMap, innerBody.opening.attributeMap, _,
    Outline.bodyNodes (innerBody.inside (root.inside document.source)), content, ?_⟩
  rw [Outline.containerNode, inPage, Outline.containerNode,
    Outline.titleNodes_of_single innerTitleSingle innerTitleClosed, Outline.leafNode, named]
  rfl

private theorem exists_of_complete {fragment : List Char}
    (complete : Outline.Complete [Outline.containerNode "html" Outline.pageNodes fragment root]) :
    ∃ head body, Element.first? (Tag.scan (root.inside fragment)) "head" = some head ∧
      Element.first? (Tag.scan (root.inside fragment)) "body" = some body ∧
      Outline.titleNodes (head.inside (root.inside fragment)) ≠ [] := by
  obtain ⟨rootAttributes, headAttributes, titleAttributes, bodyAttributes, text, children, -,
    shape⟩ := complete
  simp only [Outline.containerNode, Node.container, List.cons.injEq, Node.mk.injEq, and_true,
    true_and] at shape
  obtain ⟨-, pageEq⟩ := shape
  unfold Outline.pageNodes Outline.containerNodes at pageEq
  cases headFirst : Element.first? (Tag.scan (root.inside fragment)) "head" with
  | none =>
      rw [headFirst] at pageEq
      cases bodyFirst : Element.first? (Tag.scan (root.inside fragment)) "body" <;>
        simp [bodyFirst] at pageEq
  | some head =>
      cases bodyFirst : Element.first? (Tag.scan (root.inside fragment)) "body" with
      | none => simp [headFirst, bodyFirst] at pageEq
      | some body =>
          refine ⟨head, body, rfl, rfl, ?_⟩
          simp only [headFirst, bodyFirst, Option.map_some, Option.toList_some,
            Outline.containerNode, Node.container, List.cons_append, List.cons.injEq,
            Node.mk.injEq] at pageEq
          rw [pageEq.1.2.2.2]
          exact List.cons_ne_nil _ _

private theorem exists_title_of_ne_nil {fragment : List Char}
    (titles : Outline.titleNodes fragment ≠ []) :
    ∃ title ∈ Element.pair (Tag.scan fragment) "title", title.isClosed = true := by
  obtain ⟨leaf, member⟩ := List.exists_mem_of_ne_nil _ titles
  obtain ⟨name, listed, title, paired, closed, -⟩ :=
    Outline.mem_leafNodes.mp (List.mem_of_mem_take member)
  rw [List.mem_singleton.mp listed] at paired
  exact ⟨title, paired, closed⟩

/-- The elements of a page with a complete outline lie inside one another. -/
theorem nests_of_complete (skeleton : document.Skeleton root head title body)
    (rootUncut : ∀ comment ∈ Comment.spans document.source,
      ¬ comment.Crosses root.opening.span.stop)
    (headUncut : ∀ comment ∈ Comment.spans document.source,
      ¬ comment.Crosses head.opening.span.stop)
    (complete :
      Outline.Complete [Outline.containerNode "html" Outline.pageNodes document.source root]) :
    document.Nests root head title body := by
  have ordered := Tag.scan_ordered document.source
  have rootSingle := skeleton.root_eq
  have headSingle := skeleton.head_eq
  have bodySingle := skeleton.body_eq
  have titleSingle := skeleton.title_eq
  rw [document.tags_eq_scan] at rootSingle headSingle bodySingle titleSingle
  obtain ⟨rootExcerpt, -, rootSpan⟩ := Element.exists_excerpt
    (Element.mem_pair_of_single rootSingle) rootUncut
  obtain ⟨innerHead, innerBody, headFirst, bodyFirst, titles⟩ := exists_of_complete complete
  have headMember := Element.mem_pair_of_first? headFirst
  obtain ⟨headOpening, headInRoot⟩ := rootExcerpt.opening_of_single headSingle headMember
  obtain ⟨-, bodyInRoot⟩ :=
    rootExcerpt.opening_of_single bodySingle (Element.mem_pair_of_first? bodyFirst)
  rw [rootSpan] at headInRoot bodyInRoot
  obtain ⟨onlyHead, innerSingle, headEq⟩ :=
    skeleton.exists_inner_head rootExcerpt rootSpan headInRoot
  rw [innerSingle, List.mem_singleton] at headMember
  subst headMember
  obtain ⟨headExcerpt, headSpan⟩ := rootExcerpt.exists_inside
    (Element.mem_pair_of_single innerSingle) (by rw [headOpening]; exact headUncut)
  rw [← Element.innerSpan_shift (Element.isClosed_of_shift headEq skeleton.head_closed) _ _
    document.length, headEq] at headSpan
  obtain ⟨innerTitle, titleMember, innerClosed⟩ := exists_title_of_ne_nil titles
  have titleEq : innerTitle.shift headExcerpt.offset = title := by
    have moved := headExcerpt.closed_mem_pair titleMember innerClosed
    rwa [titleSingle, List.mem_singleton] at moved
  obtain ⟨-, titleOpening⟩ := headExcerpt.opening_of_single titleSingle titleMember
  obtain ⟨innerEnd, innerEndEq⟩ := Option.isSome_iff_exists.mp innerClosed
  have titleEnd : title.closing = some (innerEnd.shift headExcerpt.offset) := by
    rw [← titleEq, Element.shift, innerEndEq]
    rfl
  have innerPresent := (Element.closing_mem_of_mem_pair (Tag.scan_ordered _) titleMember
    innerEndEq).1
  refine ⟨headInRoot, bodyInRoot, by rw [Element.isClosed, titleEnd]; rfl, ?_⟩
  rw [Element.encloses_outerSpan_iff ordered (Element.mem_pair_of_single titleSingle) titleEnd,
    ← headSpan]
  exact ⟨titleOpening, headExcerpt.encloses_shift innerPresent⟩

end Document.Skeleton

/-! ### Accepted pages -/

/-- An accepted page has a complete outline if its elements lie inside one another, and
only then, as long as no comment is cut by the tags that open the head and the root. -/
theorem Engine.complete_outline (document : Document)
    (accepted : (Engine.standard.validate document .html).errors = [])
    (uncut : document.Uncut ["head"]) :
    ∃ forest, Engine.standard.extract document .html = some forest ∧
      (document.Nested → Outline.Complete forest) ∧
      (document.Uncut ["html"] → Outline.Complete forest → document.Nested) := by
  obtain ⟨root, head, title, body, skeleton⟩ :=
    (document.accepted_iff.mp accepted).exists_skeleton
  obtain ⟨rootOpening, rootNamed, rootKind⟩ :=
    Element.opening_mem_of_mem_pair (Element.mem_pair_of_single skeleton.root_eq)
  obtain ⟨headOpening, headNamed, headKind⟩ :=
    Element.opening_mem_of_mem_pair (Element.mem_pair_of_single skeleton.head_eq)
  have headUncut := uncut head.opening headOpening headKind (List.mem_singleton.mpr headNamed)
  refine ⟨[Outline.containerNode "html" Outline.pageNodes document.source root], ?_, ?_, ?_⟩
  · rw [Engine.standard_extract, Outline.page_eq, ← document.tags_eq_scan,
      Element.first?_of_pair skeleton.root_eq]
  · intro nested
    exact skeleton.complete_of_nests (skeleton.nested_iff.mp nested) headUncut
  · intro rootUncut complete
    exact skeleton.nested_iff.mpr (skeleton.nests_of_complete
      (rootUncut root.opening rootOpening rootKind (List.mem_singleton.mpr rootNamed))
      headUncut complete)

def nestedPage : Document :=
  .ofText ("<!DOCTYPE html> <html lang=\"en\"> <head><!-- --><title>T</title></head> " ++
    "<body>x<p>y</p></body> </html>").toList

theorem Engine.complete_outline_of_nested_page :
    (Engine.standard.validate nestedPage .html).errors = [] ∧ nestedPage.Uncut ["head"] ∧
      nestedPage.Nested ∧ nestedPage.Uncut ["html"] ∧
      ∃ forest, Engine.standard.extract nestedPage .html = some forest ∧
        Outline.Complete forest := by
  have accepted : (Engine.standard.validate nestedPage .html).errors = [] := by decide +kernel
  have headUncut : nestedPage.Uncut ["head"] := by decide +kernel
  have rootUncut : nestedPage.Uncut ["html"] := by decide +kernel
  have nested : nestedPage.Nested := by decide +kernel
  obtain ⟨forest, extracted, complete, -⟩ := Engine.complete_outline nestedPage accepted headUncut
  exact ⟨accepted, headUncut, nested, rootUncut, forest, extracted, complete nested⟩

def Engine.AcceptsIncomplete (text : String) : Prop :=
  (Engine.standard.validate (.ofText text.toList) .html).errors = [] ∧
    ∃ forest, Engine.standard.extract (.ofText text.toList) .html = some forest ∧
      ¬ Outline.Complete forest

/-- Pages that are accepted though their elements do not lie inside one another, or though
the tag that opens the head cuts a comment: the title is not closed, it is closed behind the
head, the root element is closed twice, the head stands in declarations, a comment begins in
the head tag. -/
theorem Engine.incomplete_outlines :
    AcceptsIncomplete
        "<html lang=\"en\"><head><title>T</head><body><p>x</p></body></html>" ∧
      AcceptsIncomplete
        "<html lang=\"en\"><head><title>T</head></title><body><p>x</p></body></html>" ∧
      AcceptsIncomplete
        "<html lang=\"en\"><head><title>T</title></head></html><body><p>x</p></body></html>" ∧
      AcceptsIncomplete ("<!DOCTYPE <head><!DOCTYPE <title><!DOCTYPE </head>" ++
        "<html lang=\"en\"><body>x</body></html>") ∧
      AcceptsIncomplete ("<html lang=\"en\"><head x=\"<!--\"><title></title>-->" ++
        "<title>T</title></head><body>x</body></html>") := by
  have incomplete {text : String} (forest : List Node)
      (accepted : (Engine.standard.validate (.ofText text.toList) .html).errors = [])
      (extracted : Engine.standard.extract (.ofText text.toList) .html = some forest)
      (fails : ¬ Outline.Complete forest) : AcceptsIncomplete text :=
    ⟨accepted, forest, extracted, fails⟩
  refine ⟨incomplete [.container "html" [("lang", "en")] [.container "head" [] [],
      .container "body" [] [.leaf "p" "x" []]]] (by decide +kernel) rfl ?_,
    incomplete [.container "html" [("lang", "en")] [.container "head" [] [],
      .container "body" [] [.leaf "p" "x" []]]] (by decide +kernel) rfl ?_,
    incomplete [.container "html" [("lang", "en")]
      [.container "head" [] [.leaf "title" "T" []]]] (by decide +kernel) rfl ?_,
    incomplete [.container "html" [("lang", "en")] [.container "body" [] []]]
      (by decide +kernel) rfl ?_,
    incomplete [.container "html" [("lang", "en")]
      [.container "head" [("x", "<!--")] [.leaf "title" "" []], .container "body" [] []]]
      (by decide +kernel) rfl ?_⟩
  all_goals
    rintro ⟨_, _, _, _, text, _, visible, shape⟩
    simp [Node.container, Node.leaf] at shape
  · exact visible shape.2.1.2.1

end PageCheck
