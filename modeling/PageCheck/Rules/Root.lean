import PageCheck.Document
import PageCheck.Markup.Content
import PageCheck.Markup.Doctype
import PageCheck.Validation.Verdict

/-! The root element.  There is one, it is closed, nothing but comments, white
space and document type declarations stands outside it, and it holds one body,
which no opening head tag follows.  It should declare a language. -/

set_option autoImplicit false

namespace PageCheck

namespace Rules

def rootContent (inside : List Tag) : Option Finding :=
  match inside.filter fun tag => tag.name == "body" && tag.isOpening with
  | [] => some (.missing "body")
  | [body] =>
      match inside.find? fun tag => tag.name == "head" && tag.isOpening with
      | none => none
      | some head =>
          if body.span.start < head.span.start then
            some (.structural "head" "<head> must come before <body>")
          else
            none
  | bodies =>
      some ((Finding.notUnique "body").withDetail
        s!"found {bodies.length} <body> elements inside <html>")

def declaresLanguage (opening : Tag) : Bool :=
  match opening.attribute? "lang" with
  | none => false
  | some language => !Text.allBlank language.toList

def root (document : Document) : Option Verdict :=
  let tags := document.tagsNamed "html"
  match tags.filter Tag.isOpening with
  | [] => some (.failed (.missing "html"))
  | opening :: others =>
      match (tags.filter fun tag =>
          tag.isClosing && decide (opening.span.stop ≤ tag.span.start)).getLast? with
      | none => some (.failed (.malformed "html" "the closing </html> tag is missing"))
      | some closing =>
          if others ≠ [] then
            some (.failed ((Finding.notUnique "html").withDetail
              s!"found {others.length + 1} opening tags"))
          else do
            let before ← document.slice? ⟨0, opening.span.start⟩
            if !Text.allBlank (Doctype.strip (Comment.strip before)) then
              return .failed
                (.structural "html" "unexpected content before the opening <html> tag")
            let after ← document.slice? ⟨closing.span.stop, document.length⟩
            if !Content.isBlank after then
              return .failed
                (.structural "html" "unexpected content after the closing </html> tag")
            match rootContent (Tag.within document.tags ⟨opening.span.stop, closing.span.start⟩) with
            | some finding => return .failed finding
            | none =>
                if declaresLanguage opening then
                  return .clean
                else
                  return Verdict.clean.addWarning
                    ((Finding.recommendedAttribute "lang").withDetail
                      "declare the document language on <html>")

end Rules

end PageCheck
