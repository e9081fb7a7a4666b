import PageCheck.Document
import PageCheck.Markup.Content
import PageCheck.Markup.Element
import PageCheck.Markup.Vocabulary
import PageCheck.Validation.Verdict

/-! Headings.  Their tags are well nested over all six levels together; each
heading has visible text and holds no block-level element, so in particular no
other heading. -/

set_option autoImplicit false

namespace PageCheck

namespace Rules

def isHeading (tag : Tag) : Bool :=
  Vocabulary.headings.contains tag.name

/-- Pairs heading tags with one stack for all levels; `openTags` are the open
ones, the innermost first. -/
def pairHeadingsFrom (openTags : List Tag) : List Tag → Except Finding (List Element)
  | [] =>
      match openTags with
      | [] => .ok []
      | innermost :: _ =>
          .error (.structural innermost.name s!"<{innermost.name}> is never closed")
  | tag :: rest =>
      match tag.kind with
      | .opening => pairHeadingsFrom (tag :: openTags) rest
      | .selfClosing => pairHeadingsFrom openTags rest
      | .closing =>
          match openTags with
          | [] =>
              .error (.structural tag.name
                s!"closing </{tag.name}> without a matching opening tag")
          | innermost :: outer =>
              if innermost.name = tag.name then
                (pairHeadingsFrom outer rest).map (⟨innermost, some tag⟩ :: ·)
              else
                .error (.structural tag.name
                  s!"</{tag.name}> closes an open <{innermost.name}>")

def pairHeadings (document : Document) : Except Finding (List Element) :=
  (pairHeadingsFrom [] (document.tags.filter isHeading)).map Element.sortByStart

def blockLevelIn? (document : Document) (range : Span) : Option Tag :=
  (Tag.within document.tags range).find? fun tag => Vocabulary.blockLevel.contains tag.name

def blockInHeading (block : Tag) : String :=
  if isHeading block then
    s!"headings must not be nested (found <{block.name}>)"
  else
    s!"block-level element <{block.name}> is not allowed in a heading"

def headingContents (document : Document) : List Element → Option Verdict
  | [] => some .clean
  | heading :: rest => do
      let name := heading.opening.name
      let inside := heading.innerSpan document.length
      let text ← document.slice? inside
      if (Content.visible text).isEmpty then
        return .failed (.invalidContent name "heading text must not be blank")
      match blockLevelIn? document inside with
      | some block => return .failed (.invalidContent name (blockInHeading block))
      | none => headingContents document rest

def heading (document : Document) : Option Verdict :=
  match pairHeadings document with
  | .error finding => some (.failed finding)
  | .ok headings => headingContents document headings

end Rules

end PageCheck
