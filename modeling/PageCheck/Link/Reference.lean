import PageCheck.Link.Address

/-! Links: whether the text of one is an address, or a reference that makes an
address when it is followed from a page of a site. -/

set_option autoImplicit false

namespace PageCheck

namespace Link

def base : Address where
  scheme := "http".toList
  authority := some ⟨[], .domain ["localhost".toList], none⟩
  trail := ⟨.segmented [[]], none, none⟩

/-- Where a link leads.  What is no address by itself is tried as a reference, but not what
is malformed. -/
def target (text : List Char) : Except Address.Refusal Address :=
  match Address.parse none text with
  | .error .withoutBase => Address.parse (some base) text
  | outcome => outcome

/-- White space around the text of a link does not count, and there may be none in it. -/
def isValid (text : String) : Bool :=
  let trimmed := Text.trim text.toList
  if trimmed.isEmpty || trimmed.any Text.isBlank then
    false
  else
    (target trimmed).isOk

end Link

end PageCheck
