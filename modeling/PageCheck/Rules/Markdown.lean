import PageCheck.Document
import PageCheck.Validation.Verdict

/-! Markdown is accepted as it is. -/

set_option autoImplicit false

namespace PageCheck

def Rules.markdown (_ : Document) : Option Verdict :=
  some .clean

end PageCheck
