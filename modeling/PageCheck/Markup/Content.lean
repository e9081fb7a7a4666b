import PageCheck.Markup.Tag

/-! What a reader of a fragment would see of it. -/

set_option autoImplicit false

namespace PageCheck

namespace Content

/-- The fragment without comments and then without tags, its ends trimmed. -/
def visible (fragment : List Char) : List Char :=
  Text.trim (TagText.pattern.erase (Comment.strip fragment))

/-- Nothing but white space and comments. -/
def isBlank (fragment : List Char) : Bool :=
  Text.allBlank (Comment.strip fragment)

end Content

end PageCheck
