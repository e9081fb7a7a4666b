import PageCheck.Markup.Comment
import PageCheck.Text.Ascii
import PageCheck.Text.Word

/-! Document type declarations: `<!doctype` in either case, ending a word, and
all that follows up to the next `>`. -/

set_option autoImplicit false

namespace PageCheck

namespace Doctype

def keyword : List Char :=
  ['<', '!', 'd', 'o', 'c', 't', 'y', 'p', 'e']

def throughBracket? : List Char → Option (List Char)
  | [] => none
  | char :: rest =>
      if char = '>' then some ['>'] else (throughBracket? rest).map (char :: ·)

def startsWord : List Char → Bool
  | [] => false
  | char :: _ => Text.isWordChar char

def pattern : Pattern Unit := fun text =>
  let head := text.take keyword.length
  let rest := text.drop keyword.length
  if Text.lower head = keyword ∧ startsWord rest = false then
    (throughBracket? rest).map fun body => ⟨(), head ++ body⟩
  else
    none

/-- The first declaration that does not begin inside a comment. -/
def find? (text : List Char) : Option Span :=
  let comments := Comment.spans text
  (pattern.spans text).find? fun span => !Comment.covers comments span.start

def occurs (text : List Char) : Bool :=
  (find? text).isSome

def strip (text : List Char) : List Char :=
  pattern.erase text

end Doctype

end PageCheck
