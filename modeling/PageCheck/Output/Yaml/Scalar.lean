import PageCheck.Config.Numeral

/-! Texts as scalars of a YAML block.  A text is written plainly where nothing in
it could be taken for markup and it could not be taken for another kind of value;
else in single quotes, where every character of it may stand in such; else in
double quotes with escapes.  A text of several lines is a literal block, if its
characters and the ends of its lines allow it. -/

set_option autoImplicit false

namespace PageCheck

namespace YamlScalar

/-! ### Classes of characters -/

def isBreak (char : Char) : Bool :=
  let code := char.toNat
  code == 0x0A || code == 0x0D || code == 0x85 || code == 0x2028 || code == 0x2029

def isBlankOrBreak (char : Char) : Bool :=
  char == ' ' || char == '\t' || char == '\x00' || isBreak char

def isPrintable (char : Char) : Bool :=
  let code := char.toNat
  code == 0x0A || (decide (0x20 ≤ code) && decide (code ≤ 0x7E)) ||
    (decide (0xA0 ≤ code) && decide (code < 0xD800)) ||
    (decide (0xE000 ≤ code) && decide (code ≤ 0xFFFD) && code != 0xFEFF)

/-! ### Other kinds of value -/

def isRadixNumber (text : List Char) : Bool :=
  let (negative, rest) := Numeral.sign text
  let value (radix : Nat) (digits : List Char) : Bool :=
    !digits.isEmpty && digits.all (fun digit => (Text.hexDigit? digit).any (· < radix)) &&
      decide (digits.foldl (fun sum digit => sum * radix + (Text.hexDigit? digit).getD 0) 0 <
        if negative then Nat.pow 2 127 + 1 else Nat.pow 2 128)
  match rest with
  | '0' :: 'x' :: digits => value 16 digits
  | '0' :: 'o' :: digits => value 8 digits
  | '0' :: 'b' :: digits => value 2 digits
  | _ => false

def isZeroLed (text : List Char) : Bool :=
  match (Numeral.sign text).2 with
  | '0' :: digits => Numeral.isDigits digits
  | _ => false

def nulls : List String :=
  ["", "~", "null", "Null", "NULL"]

def truths : List String :=
  ["true", "True", "TRUE", "false", "False", "FALSE"]

def unbounded : List String :=
  [".inf", ".Inf", ".INF", "+.inf", "+.Inf", "+.INF", "-.inf", "-.Inf", "-.INF", ".nan", ".NaN",
    ".NAN"]

/-- Whether a reader would take the text for something else than a text. -/
def isOtherValue (text : List Char) : Bool :=
  let written := String.ofList text
  nulls.contains written || truths.contains written || unbounded.contains written ||
    isRadixNumber text || isZeroLed text || (Numeral.Real.read? text).any Numeral.Real.isFinite

/-! ### What a text allows -/

def hasPair (first second : Char → Bool) : List Char → Bool
  | [] => false
  | [_] => false
  | left :: right :: rest => (first left && second right) || hasPair first second (right :: rest)

def isSpace (char : Char) : Bool :=
  char == ' '

def leadingIndicators : List Char :=
  ['#', ',', '[', ']', '\x7b', '\x7d', '&', '*', '!', '|', '>', '\x27', '\x22', '%', '@', '\x60']

def startsMarkup (text : List Char) : Bool :=
  ['-', '-', '-'].isPrefixOf text || ['.', '.', '.'].isPrefixOf text ||
    match text with
    | [] => false
    | [first] => leadingIndicators.contains first || first == '?' || first == '-'
    | first :: next :: _ =>
        leadingIndicators.contains first ||
          ((first == '?' || first == '-') && isBlankOrBreak next)

def holdsMarkup (text : List Char) : Bool :=
  hasPair (· == ':') isBlankOrBreak text || text.getLast? == some ':' ||
    hasPair isBlankOrBreak (· == '#') text

def isSpecial (text : List Char) : Bool :=
  text.any (fun char => !isPrintable char) || hasPair isSpace isBreak text

def allowsSingle (text : List Char) : Bool :=
  !isSpecial text && !hasPair isBreak isSpace text

def endsAt (test : Char → Bool) (text : List Char) : Bool :=
  text.head?.any test || text.getLast?.any test

def allowsPlain (text : List Char) : Bool :=
  allowsSingle text && !endsAt isSpace text && !text.any isBreak && !startsMarkup text &&
    !holdsMarkup text

def allowsBlock (text : List Char) : Bool :=
  !isSpecial text && !text.getLast?.any isSpace

/-! ### Writing -/

def indentation (depth : Nat) : List Char :=
  List.replicate depth ' '

/-- The characters of a quoted text, which goes on at the indentation given
behind a line break. -/
def singleBody (depth : Nat) : Bool → List Char → List Char
  | broken, [] => if broken then indentation depth else []
  | broken, char :: rest =>
      if isBreak char then
        (if !broken && char == '\n' then ['\n'] else []) ++ char :: singleBody depth true rest
      else
        (if broken then indentation depth else []) ++
          (if char = '\x27' then ['\x27', '\x27'] else [char]) ++ singleBody depth false rest

def single (depth : Nat) (text : List Char) : List Char :=
  '\x27' :: singleBody depth false text ++ ['\x27']

def upperHexDigit (value : Nat) : Char :=
  if value < 10 then Char.ofNat (48 + value) else Char.ofNat (55 + value)

def upperHex : Nat → Nat → List Char
  | 0, _ => []
  | width + 1, value => upperHex width (value / 16) ++ [upperHexDigit (value % 16)]

def namedEscapes : List (Nat × Char) :=
  [(0x00, '0'), (0x07, 'a'), (0x08, 'b'), (0x09, 't'), (0x0A, 'n'), (0x0B, 'v'), (0x0C, 'f'),
    (0x0D, 'r'), (0x1B, 'e'), (0x22, '\x22'), (0x5C, '\\'), (0x85, 'N'), (0xA0, '_'),
    (0x2028, 'L'), (0x2029, 'P')]

def escape (char : Char) : List Char :=
  let code := char.toNat
  match namedEscapes.lookup code with
  | some name => ['\\', name]
  | none =>
      if code ≤ 0xFF then '\\' :: 'x' :: upperHex 2 code
      else if code ≤ 0xFFFF then '\\' :: 'u' :: upperHex 4 code
      else '\\' :: 'U' :: upperHex 8 code

def doubleChar (char : Char) : List Char :=
  if !isPrintable char || isBreak char || char == '\x22' || char == '\\' then
    escape char
  else
    [char]

def double (text : List Char) : List Char :=
  '\x22' :: text.flatMap doubleChar ++ ['\x22']

def blockMarks (text : List Char) : List Char :=
  (if text.head?.any (fun char => isSpace char || isBreak char) then ['2'] else []) ++
    match text.reverse with
    | [] => ['-']
    | last :: before =>
        if !isBreak last then ['-']
        else match before with
          | [] => ['+']
          | next :: _ => if isBreak next then ['+'] else []

def blockBody (depth : Nat) : Bool → List Char → List Char
  | _, [] => []
  | broken, char :: rest =>
      if isBreak char then
        char :: blockBody depth true rest
      else
        (if broken then indentation depth else []) ++ char :: blockBody depth false rest

/-- A literal block, with the line break that ends it left to what follows. -/
def block (depth : Nat) (text : List Char) : List Char :=
  '|' :: blockMarks text ++ '\n' :: blockBody depth true text

def quoted (depth : Nat) (text : List Char) : List Char :=
  if allowsSingle text then single depth text else double text

def value (depth : Nat) (text : List Char) : List Char :=
  if text.contains '\n' then
    if allowsBlock text then block depth text else double text
  else if !isOtherValue text && allowsPlain text then text
  else quoted depth text

end YamlScalar

end PageCheck
