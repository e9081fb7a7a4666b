import PageCheck.Markup.Tag

/-! Elements: opening tags with the closing tags that belong to them.  Pairing
looks at one element name at a time and closes the innermost open element first.
A closing tag with nothing to close is passed over; an opening tag that nothing
closes makes an element that runs to the end of the text. -/

set_option autoImplicit false

namespace PageCheck

structure Element where
  opening : Tag
  closing : Option Tag
deriving DecidableEq

namespace Element

def start (element : Element) : Nat :=
  element.opening.span.start

def isClosed (element : Element) : Bool :=
  element.closing.isSome

/-- From the end of the opening tag to the closing tag, in a text of `length` bytes. -/
def innerSpan (element : Element) (length : Nat) : Span :=
  let first := element.opening.span.stop
  let last := match element.closing with
    | some tag => tag.span.start
    | none => length
  ⟨first, max last first⟩

def outerSpan (element : Element) (length : Nat) : Span :=
  ⟨element.start, match element.closing with
    | some tag => tag.span.stop
    | none => length⟩

def inner? (element : Element) (text : List Char) : Option (List Char) :=
  Text.slice? text (element.innerSpan (Text.byteLength text))

/-! ### Order -/

def insertByStart (element : Element) : List Element → List Element
  | [] => [element]
  | next :: rest =>
      if element.start ≤ next.start then
        element :: next :: rest
      else
        next :: insertByStart element rest

/-- In the order of the opening tags; elements that begin together keep their order. -/
def sortByStart (elements : List Element) : List Element :=
  elements.foldr insertByStart []

/-! ### Pairing -/

/-- The elements made of the tags to come, with `openTags` the open ones, the
innermost first. -/
def pairFrom (openTags : List Tag) : List Tag → List Element
  | [] => openTags.reverse.map (⟨·, none⟩)
  | tag :: rest =>
      match tag.kind with
      | .opening => pairFrom (tag :: openTags) rest
      | .selfClosing => pairFrom openTags rest
      | .closing =>
          match openTags with
          | [] => pairFrom [] rest
          | innermost :: outer => ⟨innermost, some tag⟩ :: pairFrom outer rest

def pair (tags : List Tag) (name : String) : List Element :=
  sortByStart (pairFrom [] (Tag.named tags name))

def first? (tags : List Tag) (name : String) : Option Element :=
  (pair tags name).head?

end Element

end PageCheck
