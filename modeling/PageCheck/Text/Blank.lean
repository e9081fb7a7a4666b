/-! White space, in the sense of the Unicode property of that name, and the
ends of a text that consist of it. -/

set_option autoImplicit false

namespace PageCheck

namespace Text

/-- The White_Space property. -/
def isBlank (char : Char) : Bool :=
  let code := char.toNat
  (decide (0x09 ≤ code) && decide (code ≤ 0x0D)) || code == 0x20 || code == 0x85 ||
    code == 0xA0 || code == 0x1680 || (decide (0x2000 ≤ code) && decide (code ≤ 0x200A)) ||
    code == 0x2028 || code == 0x2029 || code == 0x202F || code == 0x205F || code == 0x3000

/-- The C0 and C1 control characters and DEL. -/
def isControl (char : Char) : Bool :=
  let code := char.toNat
  decide (code < 0x20) || (decide (0x7F ≤ code) && decide (code < 0xA0))

def trimStart (text : List Char) : List Char :=
  text.dropWhile isBlank

def trimEndWhere (drop : Char → Bool) (text : List Char) : List Char :=
  text.foldr (fun char kept => if kept.isEmpty && drop char then [] else char :: kept) []

def trimEnd (text : List Char) : List Char :=
  trimEndWhere isBlank text

def trim (text : List Char) : List Char :=
  trimEnd (trimStart text)

def allBlank (text : List Char) : Bool :=
  text.all isBlank

end Text

end PageCheck
