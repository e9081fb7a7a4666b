import PageCheck.Config.JsonNumber
import PageCheck.Config.Reader
import PageCheck.Config.Setting

/-! Settings written as JSON.  Arrays and objects are at most 127 deep; of several
members of one name the last counts. -/

set_option autoImplicit false

namespace PageCheck

namespace JsonText

def isSpace (char : Char) : Bool :=
  char == ' ' || char == '\t' || char == '\n' || char == '\r'

def skipSpace (text : List Char) : List Char :=
  text.dropWhile isSpace

/-! ### Strings -/

def hex4? : Reader Nat :=
  Reader.hex 4

def simpleEscape? : Char → Option Char
  | '\x22' => some '\x22'
  | '\\' => some '\\'
  | '/' => some '/'
  | 'b' => some '\x08'
  | 'f' => some '\x0C'
  | 'n' => some '\n'
  | 'r' => some '\r'
  | 't' => some '\t'
  | _ => none

/-- The character of one code unit, or of a pair of surrogates. -/
def unitEscape? : Reader Char := fun text => do
  let (unit, rest) ← hex4? text
  if unit < 0xD800 ∨ 0xDFFF < unit then
    return (Char.ofNat unit, rest)
  else if unit < 0xDC00 then
    match rest with
    | '\\' :: 'u' :: rest => do
        let (low, rest) ← hex4? rest
        if 0xDC00 ≤ low ∧ low ≤ 0xDFFF then
          return (Char.ofNat (0x10000 + (unit - 0xD800) * 0x400 + (low - 0xDC00)), rest)
        else
          none
    | _ => none
  else
    none

def stringBody : Nat → Reader (List Char)
  | 0, _ => none
  | _ + 1, [] => none
  | fuel + 1, char :: rest =>
      if char = '\x22' then
        some ([], rest)
      else if char = '\\' then
        match rest with
        | [] => none
        | mark :: rest => do
            let (read, rest) ←
              if mark = 'u' then unitEscape? rest
              else (simpleEscape? mark).map fun read => (read, rest)
            let (more, rest) ← stringBody fuel rest
            return (read :: more, rest)
      else if char.toNat < 0x20 then
        none
      else do
        let (more, rest) ← stringBody fuel rest
        return (char :: more, rest)

def string? : Reader String := fun text => do
  let (body, rest) ← stringBody (text.length + 1) text
  return (String.ofList body, rest)

/-! ### Numbers -/

def isNumberChar (char : Char) : Bool :=
  Text.isAsciiDigit char || ['+', '-', '.', 'e', 'E'].contains char

def number? : Reader Setting := fun text => do
  let written ← JsonNumber.text? (text.takeWhile isNumberChar)
  return (.number written, text.dropWhile isNumberChar)

/-! ### Values -/

/-- Adds a member, in the place of an earlier one of its name. -/
def putMember (members : List (String × Setting)) (name : String) (value : Setting) :
    List (String × Setting) :=
  members.filter (·.1 != name) ++ [(name, value)]

mutual

/-- A value no deeper than `depth`; `fuel` is more than the characters left. -/
def value : Nat → Nat → Reader Setting
  | 0, _, _ => none
  | fuel + 1, depth, text =>
      match skipSpace text with
      | 'n' :: 'u' :: 'l' :: 'l' :: rest => some (.null, rest)
      | 't' :: 'r' :: 'u' :: 'e' :: rest => some (.bool true, rest)
      | 'f' :: 'a' :: 'l' :: 's' :: 'e' :: rest => some (.bool false, rest)
      | '\x22' :: rest => (string? rest).map fun (text, rest) => (.text text, rest)
      | '[' :: rest =>
          match depth with
          | 0 => none
          | depth + 1 =>
              match skipSpace rest with
              | ']' :: rest => some (.list [], rest)
              | rest => items fuel depth [] rest
      | '\x7b' :: rest =>
          match depth with
          | 0 => none
          | depth + 1 =>
              match skipSpace rest with
              | '\x7d' :: rest => some (.table [], rest)
              | rest => members fuel depth [] rest
      | rest => number? rest

def items : Nat → Nat → List Setting → Reader Setting
  | 0, _, _, _ => none
  | fuel + 1, depth, before, text => do
      let (item, rest) ← value fuel depth text
      match skipSpace rest with
      | ',' :: rest => items fuel depth (item :: before) rest
      | ']' :: rest => return (.list (item :: before).reverse, rest)
      | _ => none

def members : Nat → Nat → List (String × Setting) → Reader Setting
  | 0, _, _, _ => none
  | fuel + 1, depth, before, text =>
      match skipSpace text with
      | '\x22' :: rest => do
          let (name, rest) ← string? rest
          match skipSpace rest with
          | ':' :: rest => do
              let (member, rest) ← value fuel depth rest
              let entries := putMember before name member
              match skipSpace rest with
              | ',' :: rest => members fuel depth entries rest
              | '\x7d' :: rest => return (.table entries, rest)
              | _ => none
          | _ => none
      | _ => none

end

def deepest : Nat := 127

def read? (text : List Char) : Option Setting := do
  let (setting, rest) ← value (text.length + 1) deepest text
  if (skipSpace rest).isEmpty then some setting else none

end JsonText

end PageCheck
