import PageCheck.Document
import PageCheck.Text.Blank
import PageCheck.Validation.Verdict

/-! The head.  There is one, white space alone separates it from the opening tag
of the root element, it is closed, and it holds neither a root element nor a body. -/

set_option autoImplicit false

namespace PageCheck

namespace Rules

/-- What stands between the first opening root tag that ends before `offset` and
that offset; nothing if there is no such tag. -/
def gapBefore? (document : Document) (offset : Nat) : Option (List Char) :=
  match (document.tagsNamed "html").find? fun tag =>
      tag.isOpening && decide (tag.span.stop ≤ offset) with
  | none => some []
  | some opening => document.slice? ⟨opening.span.stop, offset⟩

def headContent (document : Document) (opening : Tag) : Verdict :=
  match (document.tagsNamed "head").find? fun tag =>
      tag.isClosing && decide (opening.span.stop ≤ tag.span.start) with
  | none => .failed (.malformed "head" "the closing </head> tag is missing")
  | some closing =>
      match (Tag.within document.tags ⟨opening.span.stop, closing.span.start⟩).find? fun tag =>
          tag.name == "html" || tag.name == "body" with
      | none => .clean
      | some nested =>
          .failed (.structural "head" s!"<{nested.name}> must not appear inside <head>")

def head (document : Document) : Option Verdict :=
  match (document.tagsNamed "head").filter Tag.isOpening with
  | [] => some (.failed (.missing "head"))
  | opening :: others =>
      if others ≠ [] then
        some (.failed ((Finding.notUnique "head").withDetail
          s!"found {others.length + 1} opening tags"))
      else do
        let gap ← gapBefore? document opening.span.start
        if Text.allBlank gap then
          return headContent document opening
        else
          return .failed
            (.structural "head" "only whitespace may appear between <html> and <head>")

end Rules

end PageCheck
