import PageCheck.Text.Ascii
import PageCheck.Text.Blank
import PageCheck.Text.Split

/-! The kinds of input, how they are named, and how the name of a file tells one. -/

set_option autoImplicit false

namespace PageCheck

inductive InputKind where
  | html
  | markdown
deriving DecidableEq

namespace InputKind

def all : List InputKind :=
  [.html, .markdown]

def name : InputKind → String
  | .html => "html"
  | .markdown => "markdown"

def label : InputKind → String
  | .html => "Html"
  | .markdown => "Markdown"

/-- A kind by one of its names, in either case and with white space around it;
otherwise a message that quotes the name. -/
def parse (text : String) : Except String InputKind :=
  let wanted := Text.lowerName (Text.trim text.toList)
  if wanted = "html" ∨ wanted = "htm" then
    .ok .html
  else if wanted = "markdown" ∨ wanted = "md" then
    .ok .markdown
  else
    .error s!"unsupported input kind '{wanted}'"

end InputKind

/-! ### File names -/

namespace FilePath

/-- The last component, leaving out empty ones and single dots; a path that goes
up at its end has none. -/
def fileName? (path : List Char) : Option (List Char) :=
  match ((Text.splitAt '/' path).filter fun part => part ≠ [] ∧ part ≠ ['.']).getLast? with
  | some ['.', '.'] => none
  | last => last

/-- What follows the last dot of the file name, unless that dot begins it. -/
def extension? (path : List Char) : Option (List Char) :=
  (fileName? path).bind fun name =>
    let ending := (name.reverse.takeWhile (· != '.')).reverse
    if ending.length + 1 < name.length then some ending else none

end FilePath

def InputKind.ofPath (path : String) : InputKind :=
  match (FilePath.extension? path.toList).map Text.lowerName with
  | some "md" => .markdown
  | some "markdown" => .markdown
  | _ => .html

end PageCheck
