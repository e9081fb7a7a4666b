import PageCheck.Document
import PageCheck.Markup.Content
import PageCheck.Markup.Element
import PageCheck.Validation.Verdict

/-! The title.  It begins in the first head, it is the only one of the document,
and it has visible text without control or replacement characters. -/

set_option autoImplicit false

namespace PageCheck

namespace Rules

/-- Neither a replacement character nor a control character other than white space. -/
def isTitleChar (char : Char) : Bool :=
  char != Utf8.replacement && (!Text.isControl char || Text.isBlank char)

def titleText (text : List Char) : Option Finding :=
  if text.isEmpty then
    some ((Finding.empty "title").withDetail "the title must not be blank")
  else if text.all isTitleChar then
    none
  else
    some (.invalidContent "title" "the title is not valid UTF-8 text")

/-- The text of a title; one that is never closed is read to the end of its head. -/
def titleSpan (title : Element) (head : Span) : Span :=
  let first := title.opening.span.stop
  let last := match title.closing with
    | some tag => tag.span.start
    | none => head.stop
  ⟨first, max last first⟩

def title (document : Document) : Option Verdict :=
  let titles := Element.pair document.tags "title"
  let found := do
    let head ← Element.first? document.tags "head"
    let inside := head.innerSpan document.length
    let title ← titles.find? fun title => inside.contains title.start
    return (title, inside)
  match found with
  | none =>
      some (.failed ((Finding.missing "title").withDetail "a <title> is required inside <head>"))
  | some (title, inside) =>
      if 1 < titles.length then
        some (.failed ((Finding.notUnique "title").withDetail
          s!"found {titles.length} <title> elements"))
      else do
        let text ← document.slice? (titleSpan title inside)
        match titleText (Content.visible text) with
        | some finding => return .failed finding
        | none => return .clean

end Rules

end PageCheck
