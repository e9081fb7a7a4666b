import PageCheck.Config.Reader

/-! Strings in TOML: basic ones with escapes and literal ones without, on one
line or over several.  Line ends inside a string stay as they are written. -/

set_option autoImplicit false

namespace PageCheck

namespace Toml

def isSpace (char : Char) : Bool :=
  char == ' ' || char == '\t'

def skipSpace (text : List Char) : List Char :=
  text.dropWhile isSpace

def lineEnd? : List Char → Option (List Char)
  | '\n' :: rest => some rest
  | '\r' :: '\n' :: rest => some rest
  | _ => none

def isPrintable (char : Char) : Bool :=
  char == '\t' || (decide (0x20 ≤ char.toNat) && char.toNat != 0x7F)

def escape? : Reader Char
  | [] => none
  | mark :: rest =>
      let code (count : Nat) : Option (Char × List Char) := do
        let (value, rest) ← Reader.hex count rest
        let char ← Reader.scalar? value
        return (char, rest)
      match mark with
      | 'b' => some ('\x08', rest)
      | 't' => some ('\t', rest)
      | 'n' => some ('\n', rest)
      | 'f' => some ('\x0C', rest)
      | 'r' => some ('\r', rest)
      | '\x22' => some ('\x22', rest)
      | '\\' => some ('\\', rest)
      | 'e' => some ('\x1B', rest)
      | 'x' => code 2
      | 'u' => code 4
      | 'U' => code 8
      | _ => none

structure Style where
  quote : Char
  escapes : Bool

def basic : Style := ⟨'\x22', true⟩

def literal : Style := ⟨'\x27', false⟩

def lineBody (style : Style) : Nat → Reader (List Char)
  | 0, _ => none
  | _ + 1, [] => none
  | fuel + 1, char :: rest =>
      if char = style.quote then
        some ([], rest)
      else do
        let (read, rest) ←
          if char = '\\' ∧ style.escapes then escape? rest
          else if isPrintable char then some (char, rest)
          else none
        let (more, rest) ← lineBody style fuel rest
        return (read :: more, rest)

def skipEmpty : List Char → List Char
  | '\r' :: '\n' :: rest => skipEmpty rest
  | char :: rest => if isSpace char || char == '\n' then skipEmpty rest else char :: rest
  | [] => []

/-- A line end behind spaces, and all spaces and line ends after it. -/
def lineJoin? (text : List Char) : Option (List Char) :=
  (lineEnd? (skipSpace text)).map skipEmpty

/-- The rest of a string over several lines.  Up to two of the quotation marks
before the closing three belong to the string. -/
def blockBody (style : Style) : Nat → Reader (List Char)
  | 0, _ => none
  | _ + 1, [] => none
  | fuel + 1, char :: rest =>
      if char = style.quote then
        let run := (char :: rest).takeWhile (· == style.quote)
        if 3 ≤ run.length then
          let taken := min run.length 5
          some (List.replicate (taken - 3) style.quote, (char :: rest).drop taken)
        else do
          let (more, rest) ← blockBody style fuel ((char :: rest).drop run.length)
          return (run ++ more, rest)
      else if char = '\\' ∧ style.escapes then
        match lineJoin? rest with
        | some rest => blockBody style fuel rest
        | none => do
            let (read, rest) ← escape? rest
            let (more, rest) ← blockBody style fuel rest
            return (read :: more, rest)
      else if isPrintable char || (lineEnd? (char :: rest)).isSome then do
        let (more, rest) ← blockBody style fuel rest
        return (char :: more, rest)
      else
        none

def string? (style : Style) : Reader String := fun text => do
  let (body, rest) ← match text with
    | first :: second :: rest =>
        if first = style.quote ∧ second = style.quote then
          blockBody style (text.length + 1) ((lineEnd? rest).getD rest)
        else
          lineBody style (text.length + 1) text
    | _ => lineBody style (text.length + 1) text
  return (String.ofList body, rest)

def lineString? (style : Style) : Reader String := fun text => do
  let (body, rest) ← lineBody style (text.length + 1) text
  return (String.ofList body, rest)

/-! ### Keys -/

def isKeyChar (char : Char) : Bool :=
  Text.isAsciiLetter char || Text.isAsciiDigit char || char == '_' || char == '-'

def simpleKey? : Reader String
  | [] => none
  | char :: rest =>
      if char = '\x22' then lineString? basic rest
      else if char = '\x27' then lineString? literal rest
      else
        match (char :: rest).takeWhile isKeyChar with
        | [] => none
        | name => some (String.ofList name, (char :: rest).dropWhile isKeyChar)

def keyPath : Nat → Reader (List String)
  | 0, _ => none
  | fuel + 1, text => do
      let (key, rest) ← simpleKey? (skipSpace text)
      match skipSpace rest with
      | '.' :: rest => do
          let (keys, rest) ← keyPath fuel rest
          return (key :: keys, rest)
      | rest => return ([key], rest)

def key? : Reader (List String) := fun text =>
  keyPath (text.length + 1) text

end Toml

end PageCheck
