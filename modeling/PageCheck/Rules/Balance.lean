import PageCheck.Document
import PageCheck.Validation.Finding

/-! Balance: the tags of an element that may not be nested open and close in
turn.  Self-closing tags do not count. -/

set_option autoImplicit false

namespace PageCheck

namespace Rules

/-- The first place where the tags do not take turns, with `depth` elements open. -/
def turns (name plural : String) : Nat → List Tag → Option Finding
  | _, [] => none
  | depth, tag :: rest =>
      if tag.isOpening then
        if depth = 0 then
          turns name plural 1 rest
        else
          some (.structural name s!"{plural} must not be nested")
      else
        match depth with
        | 0 => some (.malformed name s!"closing </{name}> without a matching opening tag")
        | below + 1 => turns name plural below rest

/-- Unequal numbers of opening and closing tags come first, then nesting. -/
def balance (document : Document) (name plural : String) : Option Finding :=
  let tags := (document.tagsNamed name).filter Tag.isPaired
  let openings := (tags.filter Tag.isOpening).length
  let closings := tags.length - openings
  if openings ≠ closings then
    some (.malformed name s!"unbalanced tags: {openings} opening and {closings} closing")
  else
    turns name plural 0 tags

end Rules

end PageCheck
