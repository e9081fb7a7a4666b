import PageCheck.Document
import PageCheck.Markup.Content
import PageCheck.Markup.Doctype
import PageCheck.Markup.Element
import PageCheck.Markup.Vocabulary
import PageCheck.Validation.Verdict

/-! The body.  Where there is one it is the only one, it holds no element that
belongs elsewhere and no document type declaration, and its tag carries no
presentational attribute.  It should not be empty. -/

set_option autoImplicit false

namespace PageCheck

namespace Rules

def bodyAttributes (opening : Tag) : Option Finding :=
  (opening.attributes.find? fun entry => Vocabulary.notOnBody.contains entry.name).map
    fun entry => .malformed "body" s!"attribute '{entry.name}' is not allowed"

def bodyContent (document : Document) (body : Element) : Option Verdict :=
  let inside := body.innerSpan document.length
  match (Tag.within document.tags inside).find? fun tag =>
      Vocabulary.notInBody.contains tag.name with
  | some tag => some (.failed (.invalidContent "body" s!"disallowed tag <{tag.name}>"))
  | none => do
      let content ← document.slice? inside
      if Doctype.occurs content then
        return .failed (.invalidContent "body" "disallowed tag <!DOCTYPE>")
      match bodyAttributes body.opening with
      | some finding => return .failed finding
      | none =>
          if Content.isBlank content then
            return Verdict.clean.addWarning (.empty "body")
          else
            return .clean

def body (document : Document) : Option Verdict :=
  match (document.tagsNamed "body").filter Tag.isOpening with
  | [] => some .clean
  | [_] =>
      match Element.first? document.tags "body" with
      | none => some .clean
      | some element => bodyContent document element
  | openings =>
      some (.failed ((Finding.notUnique "body").withDetail
        s!"found {openings.length} opening tags"))

end Rules

end PageCheck
