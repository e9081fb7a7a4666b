import PageCheck.Rules.Balance
import PageCheck.Rules.Heading

/-! Paragraphs.  They are not nested and hold no block-level element.  They
should not be empty. -/

set_option autoImplicit false

namespace PageCheck

namespace Rules

def emptyParagraphs (document : Document) : List Element → Option (List Finding)
  | [] => some []
  | paragraph :: rest => do
      let text ← paragraph.inner? document.source
      let warnings ← emptyParagraphs document rest
      if Content.isBlank text then
        return .empty "p" :: warnings
      else
        return warnings

def paragraph (document : Document) : Option Verdict :=
  match balance document "p" "paragraphs" with
  | some finding => some (.failed finding)
  | none =>
      let paragraphs := Element.pair document.tags "p"
      match paragraphs.findSome? fun paragraph =>
          blockLevelIn? document (paragraph.innerSpan document.length) with
      | some block =>
          some (.failed (.invalidContent "p"
            s!"block-level element <{block.name}> is not allowed in a paragraph"))
      | none => (emptyParagraphs document paragraphs).map (List.foldl Verdict.addWarning .clean)

end Rules

end PageCheck
