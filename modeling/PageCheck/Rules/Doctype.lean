import PageCheck.Document
import PageCheck.Markup.Content
import PageCheck.Markup.Doctype
import PageCheck.Validation.Verdict

/-! The document type declaration comes first.  Only white space and comments
may stand before it.  Like every rule, this one has no verdict only if it cuts
the source where it cannot be cut. -/

set_option autoImplicit false

namespace PageCheck

def Rules.doctype (document : Document) : Option Verdict :=
  match Doctype.find? document.source with
  | none => some (.failed (.missing "!DOCTYPE"))
  | some declaration => do
      let before ← document.slice? ⟨0, declaration.start⟩
      if Content.isBlank before then
        return .clean
      else
        return .failed
          (.structural "!DOCTYPE" "the declaration must be the first content of the document")

end PageCheck
