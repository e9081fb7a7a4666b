import PageCheck.Markup.Attribute
import PageCheck.Markup.Comment

/-! Tags.  A tag is recognised in one pass forward: the bracket, perhaps a
slash, the name, and then either the closing bracket, a slash before it, or
white space with everything up to the first `>` outside quotes.  A quote that
is never closed spoils the tag.  Scanning takes the tags from left to right and
leaves out those that begin inside a comment. -/

set_option autoImplicit false

namespace PageCheck

/-- A tag as it is written, cut into its parts. -/
structure TagText where
  closing : Bool
  name : List Char
  attributes : List Char

namespace TagText

def text (tag : TagText) : List Char :=
  '<' :: (if tag.closing then ['/'] else []) ++ tag.name ++ tag.attributes ++ ['>']

def isNameChar (char : Char) : Bool :=
  Text.isAsciiLetter char || Text.isAsciiDigit char || char == '-'

/-- The text before the first `>` outside quotes; `quote` is the quotation mark
that is open at the beginning. -/
def untilBracket? : Option Char → List Char → Option (List Char)
  | _, [] => none
  | none, char :: rest =>
      if char = '>' then
        some []
      else if char = '\x22' ∨ char = '\x27' then
        (untilBracket? (some char) rest).map (char :: ·)
      else
        (untilBracket? none rest).map (char :: ·)
  | some quote, char :: rest =>
      (untilBracket? (if char = quote then none else some quote) rest).map (char :: ·)

def attributes? : List Char → Option (List Char)
  | [] => none
  | '>' :: _ => some []
  | '/' :: '>' :: _ => some ['/']
  | char :: rest =>
      if Text.isBlank char then (untilBracket? none rest).map (char :: ·) else none

def named? (closing : Bool) : List Char → Option TagText
  | [] => none
  | char :: rest =>
      if Text.isAsciiLetter char then
        (attributes? (rest.dropWhile isNameChar)).map fun attributes =>
          ⟨closing, char :: rest.takeWhile isNameChar, attributes⟩
      else
        none

def read? : List Char → Option TagText
  | '<' :: '/' :: rest => named? true rest
  | '<' :: rest => named? false rest
  | _ => none

def pattern : Pattern TagText := fun text =>
  (read? text).map fun tag => ⟨tag, tag.text⟩

end TagText

inductive TagKind where
  | opening
  | closing
  | selfClosing
deriving DecidableEq

/-- A tag in a text: its name in lower case, the bytes it takes up, and its
attribute text without the slashes that end it. -/
structure Tag where
  name : String
  kind : TagKind
  span : Span
  attributeText : List Char
deriving DecidableEq

namespace TagText

def kind (tag : TagText) : TagKind :=
  if tag.closing then
    .closing
  else if (Text.trimEnd tag.attributes).getLast? = some '/' then
    .selfClosing
  else
    .opening

def placed (tag : TagText) (span : Span) : Tag where
  name := Text.lowerName tag.name
  kind := tag.kind
  span := span
  attributeText := Text.trimEndWhere (· == '/') tag.attributes

end TagText

namespace Tag

def isOpening (tag : Tag) : Bool :=
  tag.kind = .opening

def isClosing (tag : Tag) : Bool :=
  tag.kind = .closing

def isPaired (tag : Tag) : Bool :=
  tag.kind ≠ .selfClosing

def attributes (tag : Tag) : List Attribute :=
  Attribute.readAll tag.attributeText

def attribute? (tag : Tag) (name : String) : Option String :=
  (tag.attributes.find? (·.name == name)).map (·.valueOrEmpty)

def hasAttribute (tag : Tag) (name : String) : Bool :=
  tag.attributes.any (·.name == name)

/-- Each attribute name once, where it first occurs, with its first value. -/
def attributeMap (tag : Tag) : List (String × String) :=
  tag.attributes.foldl
    (fun entries entry =>
      if entries.any (·.1 == entry.name) then
        entries
      else
        entries ++ [(entry.name, entry.valueOrEmpty)])
    []

/-! ### Scanning -/

/-- Leaves out what begins inside a comment.  Both lists run in the order of the
text, so comments that end before a tag are of no more use to the tags behind
it. -/
def outsideComments {α : Type} : List Span → List (Found α) → List (Found α)
  | _, [] => []
  | comments, found :: rest =>
      let ahead := comments.dropWhile fun comment => decide (comment.stop ≤ found.span.start)
      if ahead.head?.any (·.contains found.span.start) then
        outsideComments ahead rest
      else
        found :: outsideComments ahead rest

/-- All tags of a text outside its comments, in order. -/
def scan (text : List Char) : List Tag :=
  (outsideComments (Comment.spans text) (TagText.pattern.findAll text)).map fun found =>
    found.value.placed found.span

def within (tags : List Tag) (range : Span) : List Tag :=
  tags.filter fun tag => range.encloses tag.span

def named (tags : List Tag) (name : String) : List Tag :=
  tags.filter (·.name == name)

end Tag

end PageCheck
