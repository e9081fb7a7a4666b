/-! The element and attribute names that the rules of a page speak of. -/

set_option autoImplicit false

namespace PageCheck

namespace Vocabulary

/-- Elements that may not stand inside headings and paragraphs. -/
def blockLevel : List String :=
  ["address", "article", "aside", "blockquote", "details", "dialog", "dd", "div", "dl", "dt",
    "fieldset", "figcaption", "figure", "footer", "form", "h1", "h2", "h3", "h4", "h5", "h6",
    "header", "hgroup", "hr", "li", "main", "nav", "ol", "p", "pre", "section", "table", "ul"]

def headings : List String :=
  ["h1", "h2", "h3", "h4", "h5", "h6"]

/-- Elements that may not stand inside the body. -/
def notInBody : List String :=
  ["head", "html", "title", "meta", "link", "noscript", "style", "doctype"]

/-- Presentational attributes that the body tag may not carry. -/
def notOnBody : List String :=
  ["alink", "background", "bgcolor", "link", "text", "vlink"]

end Vocabulary

end PageCheck
