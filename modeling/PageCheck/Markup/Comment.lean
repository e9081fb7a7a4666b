import PageCheck.Text.Pattern

/-! Comments: from `<!--` to the first `-->` behind it.  One that is never
closed is no comment. -/

set_option autoImplicit false

namespace PageCheck

namespace Comment

def throughClose? : List Char → Option (List Char)
  | [] => none
  | '-' :: '-' :: '>' :: _ => some ['-', '-', '>']
  | char :: rest => (throughClose? rest).map (char :: ·)

def pattern : Pattern Unit
  | '<' :: '!' :: '-' :: '-' :: rest =>
      (throughClose? rest).map fun body => ⟨(), '<' :: '!' :: '-' :: '-' :: body⟩
  | _ => none

def spans (text : List Char) : List Span :=
  pattern.spans text

def strip (text : List Char) : List Char :=
  pattern.erase text

def covers (comments : List Span) (offset : Nat) : Bool :=
  comments.any (·.contains offset)

end Comment

end PageCheck
