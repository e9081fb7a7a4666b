import PageCheck.Proofs.Alternation
import PageCheck.Proofs.CleanVerdicts

/-! The language of the paragraph rule.  The rule counts the tags of paragraphs, walks
through them, and then pairs them anew.  A document that it accepts has its paragraphs in a
row, so the pairs are those of neighbouring tags, and none of them holds a block-level tag;
there is a warning for each that holds nothing to read.  Any other document has one finding,
and what that is depends on which of its faults comes first. -/

set_option autoImplicit false

namespace PageCheck

open ValidatorChain (Accepts)

namespace Rules

def Unblocked (document : Document) (paragraph : Element) : Prop :=
  ∀ closing, paragraph.closing = some closing → ∀ tag ∈ document.tags,
    paragraph.opening.span.stop ≤ tag.span.start → tag.span.stop ≤ closing.span.start →
      tag.name ∉ Vocabulary.blockLevel

/-- Nothing but white space and comments stands between the tags of the paragraph. -/
def isHollow (document : Document) (paragraph : Element) : Bool :=
  (document.between? paragraph).any Content.isBlank

variable {document : Document} {paragraphs : List Element}

/-! ### Paragraphs in a row -/

theorem blockLevelIn?_eq_none_iff_unblocked (row : document.Row "p" paragraphs)
    {paragraph : Element} (member : paragraph ∈ paragraphs) :
    blockLevelIn? document (paragraph.innerSpan document.length) = none ↔
      Unblocked document paragraph := by
  obtain ⟨closing, closed, inside⟩ := row.innerSpan_eq member
  rw [inside, blockLevelIn?_eq_none_iff]
  unfold Unblocked
  constructor
  · intro free last lastClosed
    obtain rfl : closing = last := Option.some.inj (closed.symm.trans lastClosed)
    exact free
  · exact fun free => free closing closed

def hollowWarnings (document : Document) (paragraphs : List Element) : List Finding :=
  (paragraphs.filter (isHollow document)).map fun _ => .empty "p"

theorem emptyParagraphs_of_cuts
    (cuts : ∀ paragraph ∈ paragraphs, ∃ text,
      paragraph.inner? document.source = some text ∧ document.between? paragraph = some text) :
    emptyParagraphs document paragraphs = some (hollowWarnings document paragraphs) := by
  induction paragraphs with
  | nil => rfl
  | cons paragraph rest ih =>
      obtain ⟨⟨text, cut, between⟩, later⟩ := List.forall_mem_cons.mp cuts
      have hollow : isHollow document paragraph = Content.isBlank text := by
        rw [isHollow, between, Option.any_some]
      rw [emptyParagraphs, cut, ih later]
      simp only [Option.bind_eq_bind, Option.bind_some, hollowWarnings]
      by_cases blank : Content.isBlank text = true
      · rw [if_pos blank, List.filter_cons_of_pos (hollow.trans blank), List.map_cons]
        rfl
      · rw [if_neg blank, List.filter_cons_of_neg (by rwa [hollow])]
        rfl

theorem paragraph_of_unblocked (row : document.Row "p" paragraphs)
    (free : ∀ paragraph ∈ paragraphs, Unblocked document paragraph) :
    paragraph document = some ⟨true, [], hollowWarnings document paragraphs⟩ := by
  have none : paragraphs.findSome? (fun paragraph =>
      blockLevelIn? document (paragraph.innerSpan document.length)) = none :=
    List.findSome?_eq_none_iff.mpr fun paragraph member =>
      (blockLevelIn?_eq_none_iff_unblocked row member).mpr (free paragraph member)
  have warnings := emptyParagraphs_of_cuts fun paragraph member => row.exists_between member
  rw [paragraph, balance_of_row row]
  simp only [row.pair_eq, none, warnings, Option.map_some, Verdict.foldl_addWarning]
  rfl

theorem paragraph_clean (row : document.Row "p" paragraphs)
    (content : ∀ paragraph ∈ paragraphs,
      blockLevelIn? document (paragraph.innerSpan document.length) = none ∧
      ∃ text, paragraph.inner? document.source = some text ∧ Content.isBlank text = false) :
    paragraph document = some .clean := by
  have free : ∀ paragraph ∈ paragraphs, Unblocked document paragraph := fun paragraph member =>
    (blockLevelIn?_eq_none_iff_unblocked row member).mp (content paragraph member).1
  have none : paragraphs.filter (isHollow document) = [] := by
    refine List.filter_eq_nil_iff.mpr fun paragraph member => ?_
    obtain ⟨text, cut, between⟩ := row.exists_between member
    obtain ⟨-, seen, same, filled⟩ := content paragraph member
    rw [cut, Option.some.injEq] at same
    rw [isHollow, between, Option.any_some, same, filled]
    exact Bool.false_ne_true
  rw [paragraph_of_unblocked row free, hollowWarnings, none]
  rfl

theorem paragraph_of_blocked (row : document.Row "p" paragraphs)
    (blocked : ¬ ∀ paragraph ∈ paragraphs, Unblocked document paragraph) :
    ∃ before first after block, paragraphs = before ++ first :: after ∧
      (∀ earlier ∈ before, Unblocked document earlier) ∧ ¬ Unblocked document first ∧
      block ∈ document.tags ∧ block.name ∈ Vocabulary.blockLevel ∧
      paragraph document = some (.failed (.invalidContent "p"
        s!"block-level element <{block.name}> is not allowed in a paragraph")) := by
  cases found : paragraphs.findSome? (fun paragraph =>
      blockLevelIn? document (paragraph.innerSpan document.length)) with
  | none =>
      refine absurd ?_ blocked
      intro paragraph member
      exact (blockLevelIn?_eq_none_iff_unblocked row member).mp
        (List.findSome?_eq_none_iff.mp found paragraph member)
  | some block =>
      obtain ⟨before, first, after, split, here, clear⟩ := List.findSome?_eq_some_iff.mp found
      have listed : first ∈ paragraphs := split ▸ List.mem_append_right _ List.mem_cons_self
      refine ⟨before, first, after, block, split, ?_, ?_, ?_, ?_, ?_⟩
      · intro earlier member
        have present : earlier ∈ paragraphs := split ▸ List.mem_append_left _ member
        exact (blockLevelIn?_eq_none_iff_unblocked row present).mp (clear earlier member)
      · intro free
        rw [(blockLevelIn?_eq_none_iff_unblocked row listed).mpr free] at here
        cases here
      · exact (List.mem_filter.mp (List.mem_of_find?_eq_some here)).1
      · simpa using List.find?_some here
      · rw [paragraph, balance_of_row row]
        simp only [row.pair_eq, found]

theorem paragraph_of_uneven (differ : Tag.depth (document.pairedTags "p") ≠ 0) :
    paragraph document = some (.failed (uneven "p" (document.pairedTags "p"))) := by
  rw [paragraph, balance_of_uneven differ]

theorem paragraph_of_departs (even : Tag.depth (document.pairedTags "p") = 0) {tag : Tag}
    (departs : Tag.Departs (document.pairedTags "p") tag) :
    paragraph document = some (.failed (misfit "p" "paragraphs" tag)) := by
  rw [paragraph, balance_of_departs even departs]

theorem paragraph_accepts_iff :
    Accepts paragraph document ↔ ∃ paragraphs, document.Row "p" paragraphs ∧
      ∀ paragraph ∈ paragraphs, Unblocked document paragraph := by
  constructor
  · intro accepted
    obtain ⟨balanced, free⟩ := paragraph_accepts accepted
    obtain ⟨paragraphs, row⟩ := balance_eq_none_iff.mp balanced
    refine ⟨paragraphs, row, ?_⟩
    intro paragraph member
    exact (blockLevelIn?_eq_none_iff_unblocked row member).mp
      (free paragraph (row.mem_pair member))
  · rintro ⟨paragraphs, row, free⟩
    exact ⟨_, paragraph_of_unblocked row free, rfl⟩

/-! ### The language -/

/-- The paragraphs of an accepted document are in a row and hold no block-level tag, and the
hollow ones among them are warned of; a document that is not accepted has one finding.  The
counter of the walk is at every place the number of opening tags less that of closing tags. -/
theorem paragraph_language (document : Document) :
    (Accepts paragraph document ↔ ∃ paragraphs, document.Row "p" paragraphs ∧
      ∀ paragraph ∈ paragraphs, Unblocked document paragraph) ∧
    (∀ paragraphs, document.Row "p" paragraphs →
      (∀ paragraph ∈ paragraphs, Unblocked document paragraph) →
        Element.pair document.tags "p" = paragraphs ∧
        paragraph document = some
          ⟨true, [], (paragraphs.filter (isHollow document)).map fun _ => .empty "p"⟩) ∧
    (¬ Accepts paragraph document → ∃ finding,
      paragraph document = some ⟨false, [finding], []⟩ ∧
      ((document.pairedTags "p").countP Tag.isOpening ≠
          (document.pairedTags "p").countP Tag.isClosing → finding.kind = .malformed) ∧
      ((document.pairedTags "p").countP Tag.isOpening =
          (document.pairedTags "p").countP Tag.isClosing →
        (∀ tag, Tag.Departs (document.pairedTags "p") tag →
          (tag.kind = .opening → finding.kind = .structural) ∧
          (tag.kind = .closing → finding.kind = .malformed)) ∧
        ((¬ ∃ tag, Tag.Departs (document.pairedTags "p") tag) →
          finding.kind = .invalidContent))) ∧
    ∀ before after, document.pairedTags "p" = before ++ after →
      turns "p" "paragraphs" 0 before = none →
        ∃ depth : Nat, depth ≤ 1 ∧ (depth : Int) = Tag.depth before ∧
          turns "p" "paragraphs" 0 (document.pairedTags "p") =
            turns "p" "paragraphs" depth after := by
  refine ⟨paragraph_accepts_iff, ?_, ?_, fun before after => turns_counter⟩
  · intro paragraphs row free
    exact ⟨row.pair_eq, paragraph_of_unblocked row free⟩
  · intro rejected
    simp only [← Tag.depth_eq_zero_iff, ne_eq]
    by_cases even : Tag.depth (document.pairedTags "p") = 0
    · rcases row_or_departs even with ⟨paragraphs, row⟩ | ⟨tag, departs⟩
      · have blocked : ¬ ∀ paragraph ∈ paragraphs, Unblocked document paragraph :=
          fun free => rejected (paragraph_accepts_iff.mpr ⟨paragraphs, row, free⟩)
        obtain ⟨-, -, -, block, -, -, -, -, -, failed⟩ := paragraph_of_blocked row blocked
        refine ⟨_, failed, fun differ => absurd even differ, fun _ => ⟨?_, fun _ => rfl⟩⟩
        exact fun tag departs => absurd departs row.not_departs
      · have failed := paragraph_of_departs even departs
        refine ⟨_, failed, fun differ => absurd even differ,
          fun _ => ⟨?_, fun stays => absurd ⟨tag, departs⟩ stays⟩⟩
        intro other same
        obtain rfl : tag = other := departs.unique same
        exact ⟨fun kind => by rw [misfit_opening kind]; rfl,
          fun kind => by rw [misfit_closing kind]; rfl⟩
    · exact ⟨_, paragraph_of_uneven even, fun _ => rfl, fun same => absurd same even⟩

def hollowParagraphs : Document :=
  .ofText "<p>a</p><p/><p> <!-- b --> </p>".toList

def earlyClosing : Document :=
  .ofText "<p>a</p></p><p>".toList

theorem paragraph_language_of_hollow_paragraphs :
    (∃ paragraphs, hollowParagraphs.Row "p" paragraphs ∧
      (∀ paragraph ∈ paragraphs, Unblocked hollowParagraphs paragraph) ∧
      Element.pair hollowParagraphs.tags "p" = paragraphs ∧
      paragraphs.map Element.start = [0, 12] ∧
      paragraph hollowParagraphs = some ⟨true, [], [.empty "p"]⟩) ∧
    ¬ Accepts paragraph earlyClosing ∧
      (earlyClosing.pairedTags "p").countP Tag.isOpening =
        (earlyClosing.pairedTags "p").countP Tag.isClosing ∧
      (∃ tag, Tag.Departs (earlyClosing.pairedTags "p") tag ∧ tag.kind = .closing) ∧
      ∃ finding, paragraph earlyClosing = some ⟨false, [finding], []⟩ ∧
        finding.kind = .malformed := by
  constructor
  · have ran : paragraph hollowParagraphs = some ⟨true, [], [.empty "p"]⟩ := by decide +kernel
    obtain ⟨accepts, accepted, -⟩ := paragraph_language hollowParagraphs
    obtain ⟨paragraphs, row, free⟩ := accepts.mp ⟨_, ran, rfl⟩
    obtain ⟨paired, -⟩ := accepted paragraphs row free
    refine ⟨paragraphs, row, free, paired, ?_, ran⟩
    rw [← paired]
    decide +kernel
  · have ran : paragraph earlyClosing =
        some (.failed (misfit "p" "paragraphs" ⟨"p", .closing, ⟨8, 12⟩, []⟩)) := by decide +kernel
    have rejected := ValidatorChain.not_accepts_of_failed ran
    have even : (earlyClosing.pairedTags "p").countP Tag.isOpening =
        (earlyClosing.pairedTags "p").countP Tag.isClosing := by decide +kernel
    have departs : Tag.Departs (earlyClosing.pairedTags "p") ⟨"p", .closing, ⟨8, 12⟩, []⟩ := by
      let before := (earlyClosing.pairedTags "p").take 2
      have paired : ∀ tag ∈ before, tag.isPaired = true := by decide +kernel
      have passed : turns "p" "paragraphs" 0 before = none := by decide +kernel
      refine ⟨before, (earlyClosing.pairedTags "p").drop 3, by decide +kernel,
        (turns_eq_none_iff paired).mp passed, ?_⟩
      unfold Tag.Level
      decide +kernel
    obtain ⟨-, -, faults, -⟩ := paragraph_language earlyClosing
    obtain ⟨finding, failed, -, same⟩ := faults rejected
    exact ⟨rejected, even, ⟨_, departs, rfl⟩, finding, failed,
      ((same even).1 _ departs).2 rfl⟩

end Rules

end PageCheck
