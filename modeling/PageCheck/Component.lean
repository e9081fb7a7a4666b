import PageCheck.Outline.Extract
import PageCheck.Rules.Anchor
import PageCheck.Rules.Body
import PageCheck.Rules.Doctype
import PageCheck.Rules.Head
import PageCheck.Rules.Heading
import PageCheck.Rules.Markdown
import PageCheck.Rules.Paragraph
import PageCheck.Rules.Root
import PageCheck.Rules.Title

/-! Components: the parts of a page that can be checked, and the ones among them
that can be extracted. -/

set_option autoImplicit false

namespace PageCheck

inductive Component where
  | doctype
  | html
  | head
  | body
  | title
  | heading
  | paragraph
  | anchor
  | markdown
deriving DecidableEq

inductive Capability where
  | validator
  | extractor
deriving DecidableEq

def Capability.name : Capability → String
  | .validator => "validator"
  | .extractor => "extractor"

def Capability.all : List Capability :=
  [.validator, .extractor]

/-- Checks a document; `subject` is the element that it is responsible for. -/
structure Validator where
  subject : String
  run : Document → Option Verdict

/-- Takes nodes from a fragment; `subject` is the element that they are of. -/
structure Extractor where
  subject : String
  run : List Char → Option (List Node)

namespace Component

def all : List Component :=
  [.doctype, .html, .head, .body, .title, .heading, .paragraph, .anchor, .markdown]

def identifier : Component → String
  | .doctype => "doctype"
  | .html => "html"
  | .head => "head"
  | .body => "body"
  | .title => "title"
  | .heading => "heading"
  | .paragraph => "paragraph"
  | .anchor => "anchor"
  | .markdown => "markdown"

def label : Component → String
  | .doctype => "Doctype"
  | .html => "Html"
  | .head => "Head"
  | .body => "Body"
  | .title => "Title"
  | .heading => "Heading"
  | .paragraph => "Paragraph"
  | .anchor => "Anchor"
  | .markdown => "Markdown"

/-- Every identifier, the short ones included. -/
def identifiers : List (String × Component) :=
  all.map (fun component => (component.identifier, component)) ++
    [("p", .paragraph), ("a", .anchor), ("md", .markdown)]

/-- A component by its identifier, in either case and with white space around it. -/
def ofIdentifier? (text : String) : Option Component :=
  identifiers.lookup (Text.lowerName (Text.trim text.toList))

def unknownMessage (text : String) : String :=
  s!"unknown component '{text}'"

def validator : Component → Validator
  | .doctype => ⟨"doctype", Rules.doctype⟩
  | .html => ⟨"html", Rules.root⟩
  | .head => ⟨"head", Rules.head⟩
  | .body => ⟨"body", Rules.body⟩
  | .title => ⟨"title", Rules.title⟩
  | .heading => ⟨"heading", Rules.heading⟩
  | .paragraph => ⟨"p", Rules.paragraph⟩
  | .anchor => ⟨"a", Rules.anchor⟩
  | .markdown => ⟨"markdown", Rules.markdown⟩

def extractor? : Component → Option Extractor
  | .html => some ⟨"html", Outline.page⟩
  | .head => some ⟨"head", Outline.head⟩
  | .body => some ⟨"body", Outline.body⟩
  | .title => some ⟨"title", Outline.title⟩
  | .heading => some ⟨"heading", Outline.heading⟩
  | .paragraph => some ⟨"p", Outline.paragraph⟩
  | .markdown => some ⟨"markdown", Outline.markdown⟩
  | .doctype => none
  | .anchor => none

def supports (component : Component) : Capability → Bool
  | .validator => true
  | .extractor => component ≠ .doctype && component ≠ .anchor

theorem supports_extractor (component : Component) :
    component.supports .extractor = component.extractor?.isSome := by
  cases component <;> rfl

end Component

end PageCheck
