import PageCheck.Proofs.HeadingPairs
import PageCheck.Proofs.VisibleText

/-! The content of extracted leaves.  The rules look at the tags of the whole page,
extraction scans the inside of the root element, then the inside of the body, and a
leaf has the inside of an element there.  Where no comment begins in an opening tag
on this way and ends behind it, each step is an excerpt of the page, so that the
leaves keep what the rules demand of headings and paragraphs. -/

set_option autoImplicit false

namespace PageCheck

/-! ### Where a leaf comes from -/

namespace Outline

private theorem exists_body_of_block {fragment : List Char} {leaf : Node}
    (member : leaf ∈ Node.leavesIn (pageNodes fragment))
    (block : leaf.tagName ∈ "p" :: Vocabulary.headings) :
    ∃ body, Element.first? (Tag.scan fragment) "body" = some body ∧
      ∃ element ∈ Element.pair (Tag.scan (body.inside fragment)) leaf.tagName,
        element.isClosed = true ∧ leaf = leafNode (body.inside fragment) element := by
  have named {names : List String} {inside : List Char}
      (listed : leaf ∈ leafNodes names inside) :
      ∃ element ∈ Element.pair (Tag.scan inside) leaf.tagName,
        element.isClosed = true ∧ leaf = leafNode inside element := by
    obtain ⟨name, -, element, paired, closed, rfl⟩ := mem_leafNodes.mp listed
    have nameEq := (Element.opening_mem_of_mem_pair paired).2.1
    exact ⟨element, by rw [leafNode, Node.leaf, nameEq]; exact paired, closed, rfl⟩
  rw [pageNodes, Node.leavesIn_append, List.mem_append] at member
  rcases member with inHead | inBody
  · -- neither the head nor a title bears the name of a block
    exfalso
    obtain ⟨head, -, nameEq | inTitle⟩ := mem_leavesIn_containerNodes inHead
    · rw [nameEq] at block
      exact absurd block (by decide)
    · rw [leavesIn_titleNodes] at inTitle
      obtain ⟨name, listed, element, paired, -, rfl⟩ :=
        mem_leafNodes.mp (List.mem_of_mem_take inTitle)
      rw [leafNode, Node.leaf, (Element.opening_mem_of_mem_pair paired).2.1,
        List.mem_singleton.mp listed] at block
      exact absurd (show "title" ∈ "p" :: Vocabulary.headings from block) (by decide)
  · obtain ⟨body, first, nameEq | listed⟩ := mem_leavesIn_containerNodes inBody
    · rw [nameEq] at block
      exact absurd block (by decide)
    · refine ⟨body, first, ?_⟩
      rw [bodyNodes, Node.leavesIn_append, leavesIn_leafNodes, leavesIn_leafNodes,
        List.mem_append] at listed
      rcases listed with paragraph | heading
      · exact named paragraph
      · exact named heading

end Outline

private theorem exists_inside_of_uncut {document : Document} {names : List String}
    (uncut : document.Uncut names) {fragment : List Char}
    (excerpt : Excerpt document.source fragment) {name : String} (listed : name ∈ names)
    {element : Element} (member : element ∈ Element.pair (Tag.scan fragment) name) :
    ∃ inside : Excerpt document.source (element.inside fragment),
      inside.span = (element.innerSpan (Text.byteLength fragment)).shift excerpt.offset := by
  obtain ⟨opening, named, kind⟩ := Element.opening_mem_of_mem_pair member
  have moved := excerpt.mem_scan opening
  rw [← document.tags_eq_scan] at moved
  exact excerpt.exists_inside member (uncut _ moved kind (named ▸ listed))

/-- The leaf for a heading or a paragraph holds the trimmed inside of an element that
the rules have seen. -/
theorem Document.exists_excerpt_of_leaf {document : Document} {root : Element}
    (first : Element.first? document.tags "html" = some root)
    (uncut : document.Uncut ("html" :: "body" :: "p" :: Vocabulary.headings)) {leaf : Node}
    (member : leaf ∈ Node.leavesIn (Outline.pageNodes (root.inside document.source)))
    (block : leaf.tagName ∈ "p" :: Vocabulary.headings) :
    ∃ element ∈ Element.pair document.tags leaf.tagName,
      ∃ (inside : List Char) (excerpt : Excerpt document.source inside),
        excerpt.span = element.innerSpan document.length ∧
          leaf.content = some (String.ofList (Text.trim inside)) := by
  rw [document.tags_eq_scan] at first ⊢
  obtain ⟨body, bodyFirst, element, paired, closed, leafEq⟩ :=
    Outline.exists_body_of_block member block
  obtain ⟨rootExcerpt, -⟩ := exists_inside_of_uncut uncut (.whole _) (by simp)
    (Element.mem_pair_of_first? first)
  obtain ⟨bodyExcerpt, -⟩ := exists_inside_of_uncut uncut rootExcerpt (by simp)
    (Element.mem_pair_of_first? bodyFirst)
  obtain ⟨excerpt, spanEq⟩ := exists_inside_of_uncut uncut bodyExcerpt
    (List.mem_cons_of_mem _ (List.mem_cons_of_mem _ block)) paired
  refine ⟨element.shift bodyExcerpt.offset, bodyExcerpt.closed_mem_pair paired closed, _, excerpt,
    ?_, ?_⟩
  · rw [spanEq, Element.innerSpan_shift closed]
  · rw [leafEq]
    rfl

/-! ### What the rules demand of a leaf -/

/-- Where the page was accepted and no comment is cut by the tags on the way, what is
extracted for headings and paragraphs holds no block-level tag, and what is extracted
for headings shows text. -/
theorem Engine.leaf_content_obeys_rules (document : Document)
    (accepted : (Engine.standard.validate document .html).errors = [])
    (uncut : document.Uncut ("html" :: "body" :: "p" :: Vocabulary.headings)) :
    ∃ forest, Engine.standard.extract document .html = some forest ∧
      ∀ leaf ∈ Node.leavesIn forest, leaf.tagName ∈ "p" :: Vocabulary.headings →
        ∃ content, leaf.content = some content ∧
          (∀ tag ∈ Tag.scan content.toList, tag.name ∉ Vocabulary.blockLevel) ∧
          (leaf.tagName ∈ Vocabulary.headings → Content.visible content.toList ≠ []) := by
  have rules := document.accepted_iff.mp accepted
  obtain ⟨root, rootEq, -⟩ := rules.exists_root
  have first := Element.first?_of_pair rootEq
  refine ⟨[Outline.containerNode "html" Outline.pageNodes document.source root], ?_, ?_⟩
  · rw [Engine.standard_extract, Outline.page_eq, ← document.tags_eq_scan, first]
  intro leaf member block
  have inPage : leaf ∈ Node.leavesIn (Outline.pageNodes (root.inside document.source)) := by
    rw [Node.leavesIn, Node.leavesIn, List.append_nil] at member
    rcases Node.mem_leaves_container member with nameEq | deeper
    · rw [nameEq] at block
      exact absurd block (by decide)
    · exact deeper
  obtain ⟨element, paired, inside, excerpt, spanEq, contentEq⟩ :=
    Document.exists_excerpt_of_leaf first uncut inPage block
  refine ⟨_, contentEq, ?_, ?_⟩
  · have free : Rules.blockLevelIn? document (element.innerSpan document.length) = none := by
      rcases List.mem_cons.mp block with paragraph | heading
      · rw [paragraph] at paired
        exact (Rules.paragraph_accepts rules.paragraph).2 element paired
      · obtain ⟨headings, ok, checked⟩ := Rules.heading_accepts rules.heading
        obtain ⟨-, -, -, free⟩ := checked element (Rules.mem_of_mem_pair ok heading paired)
        exact free
    intro tag present
    obtain ⟨trimmed, same⟩ := exists_trim_excerpt inside
    rw [String.toList_ofList] at present
    have moved : (tag.shift trimmed.offset).shift excerpt.offset ∈
        Tag.within document.tags (element.innerSpan document.length) := by
      rw [document.tags_eq_scan, ← spanEq, ← excerpt.scan_eq_within]
      exact List.mem_map.mpr ⟨_, trimmed.mem_scan present, rfl⟩
    have other := List.find?_eq_none.mp free _ moved
    simpa [Tag.shift] using other
  · intro heading
    obtain ⟨headings, ok, checked⟩ := Rules.heading_accepts rules.heading
    obtain ⟨text, cut, seen, -⟩ := checked element (Rules.mem_of_mem_pair ok heading paired)
    have slice : document.slice? (element.innerSpan document.length) = some inside := by
      rw [← spanEq]
      exact excerpt.slice
    rw [slice, Option.some.injEq] at cut
    rw [String.toList_ofList, Content.visible_trim, cut]
    exact seen

def headedPage : Document :=
  .ofText ("<html lang=\"en\"><head><title>T</title></head><body>" ++
    "<h1>A<!-- <p> --></h1><p>x</p></body></html>").toList

theorem Engine.leaf_content_of_headed_page :
    (Engine.standard.validate headedPage .html).errors = [] ∧
      headedPage.Uncut ("html" :: "body" :: "p" :: Vocabulary.headings) ∧
      ∃ forest, Engine.standard.extract headedPage .html = some forest ∧
        ∀ leaf ∈ Node.leavesIn forest, leaf.tagName ∈ "p" :: Vocabulary.headings →
          ∃ content, leaf.content = some content ∧
            (∀ tag ∈ Tag.scan content.toList, tag.name ∉ Vocabulary.blockLevel) ∧
            (leaf.tagName ∈ Vocabulary.headings → Content.visible content.toList ≠ []) := by
  have accepted : (Engine.standard.validate headedPage .html).errors = [] := by decide +kernel
  have uncut : headedPage.Uncut ("html" :: "body" :: "p" :: Vocabulary.headings) := by
    decide +kernel
  exact ⟨accepted, uncut, Engine.leaf_content_obeys_rules headedPage accepted uncut⟩

/-- A page where a comment begins in the tag of a paragraph and hides a tag behind it. -/
def hidingPage : Document :=
  .ofText ("<html lang=\"en\"><head><title>T</title></head><body>" ++
    "<p title=\"<!--\"><div>--></p></body></html>").toList

/-- The comment is cut in two when the paragraph is scanned alone, and the hidden tag
appears in the content of an accepted page. -/
theorem Engine.leaf_content_of_hiding_page :
    (Engine.standard.validate hidingPage .html).errors = [] ∧
      ∃ forest, Engine.standard.extract hidingPage .html = some forest ∧
        ∃ leaf ∈ Node.leavesIn forest, leaf.tagName = "p" ∧
          ∃ content, leaf.content = some content ∧
            ∃ tag ∈ Tag.scan content.toList, tag.name ∈ Vocabulary.blockLevel := by
  have accepted : (Engine.standard.validate hidingPage .html).errors = [] := by decide +kernel
  have extracted : Engine.standard.extract hidingPage .html =
      some [.container "html" [("lang", "en")] [.container "head" [] [.leaf "title" "T" []],
        .container "body" [] [.leaf "p" "<div>-->" [("title", "<!--")]]]] := rfl
  have leaves : Node.leavesIn
      [.container "html" [("lang", "en")] [.container "head" [] [.leaf "title" "T" []],
        .container "body" [] [.leaf "p" "<div>-->" [("title", "<!--")]]]] =
      [.leaf "title" "T" [], .leaf "p" "<div>-->" [("title", "<!--")]] := rfl
  refine ⟨accepted, _, extracted, .leaf "p" "<div>-->" [("title", "<!--")], ?_, rfl,
    "<div>-->", rfl, by decide +kernel⟩
  rw [leaves]
  exact List.mem_cons_of_mem _ List.mem_cons_self

end PageCheck
