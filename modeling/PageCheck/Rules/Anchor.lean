import PageCheck.Link.Reference
import PageCheck.Markup.Content
import PageCheck.Markup.Element
import PageCheck.Rules.Balance
import PageCheck.Validation.Verdict

/-! Anchors.  They are not nested, no attribute is repeated on one, and where
there is a link, its target is a valid reference and it has visible text. -/

set_option autoImplicit false

namespace PageCheck

namespace Rules

/-- The first attribute with the name of an earlier one, the names in `seen` being
those before the attributes given. -/
def repeated? (seen : List String) : List Attribute → Option Attribute
  | [] => none
  | entry :: rest =>
      if seen.contains entry.name then
        some entry
      else
        repeated? (entry.name :: seen) rest

/-- The verdict on the anchors in order, up to the first fault. -/
def anchorContents (document : Document) : List Element → Option Verdict
  | [] => some .clean
  | anchor :: rest =>
      match repeated? [] anchor.opening.attributes with
      | some entry =>
          some (.failed (.malformed "a" s!"duplicate attribute '{entry.name}'"))
      | none =>
          match anchor.opening.attribute? "href" with
          | none => anchorContents document rest
          | some target =>
              if !Link.isValid target then
                some (.failed (.invalidContent "a" s!"'{target}' is not a valid URL"))
              else do
                let text ← anchor.inner? document.source
                if (Content.visible text).isEmpty then
                  return .failed (.invalidContent "a" s!"link to '{target}' has no text")
                anchorContents document rest

def anchor (document : Document) : Option Verdict :=
  match balance document "a" "anchors" with
  | some finding => some (.failed finding)
  | none => anchorContents document (Element.pair document.tags "a")

end Rules

end PageCheck
