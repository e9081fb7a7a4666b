import PageCheck.Markup.Tag
import PageCheck.Text.Utf8

/-! A document: its source and the tags found in it. -/

set_option autoImplicit false

namespace PageCheck

structure Document where
  source : List Char
  tags : List Tag
  tags_eq_scan : tags = Tag.scan source

namespace Document

def ofText (source : List Char) : Document where
  source := source
  tags := Tag.scan source
  tags_eq_scan := rfl

/-- Bytes that are not UTF-8 become replacement characters. -/
def ofBytes (bytes : List UInt8) : Document :=
  ofText (Utf8.decode bytes)

def length (document : Document) : Nat :=
  Text.byteLength document.source

def tagsNamed (document : Document) (name : String) : List Tag :=
  Tag.named document.tags name

def slice? (document : Document) (span : Span) : Option (List Char) :=
  Text.slice? document.source span

end Document

end PageCheck
