import PageCheck.Output.Data

/-! Data as JSON, on one line without spaces or over several lines indented by
two spaces.  Only quotation marks, backslashes and control characters are
escaped. -/

set_option autoImplicit false

namespace PageCheck

namespace Json

def hexDigit (value : Nat) : Char :=
  if value < 10 then Char.ofNat (48 + value) else Char.ofNat (87 + value)

def escape (char : Char) : List Char :=
  if char = '\x22' then ['\\', '\x22']
  else if char = '\\' then ['\\', '\\']
  else if char = '\x08' then ['\\', 'b']
  else if char = '\x0C' then ['\\', 'f']
  else if char = '\n' then ['\\', 'n']
  else if char = '\r' then ['\\', 'r']
  else if char = '\t' then ['\\', 't']
  else if char.toNat < 0x20 then
    ['\\', 'u', '0', '0', hexDigit (char.toNat / 16), hexDigit (char.toNat % 16)]
  else [char]

def quote (text : String) : String :=
  String.ofList ('\x22' :: text.toList.flatMap escape ++ ['\x22'])

mutual

def compact : Data → String
  | .null => "null"
  | .bool value => if value then "true" else "false"
  | .text value => quote value
  | .list items => "[" ++ compactItems items ++ "]"
  | .object fields => "\x7b" ++ compactFields fields ++ "\x7d"

def compactItems : List Data → String
  | [] => ""
  | [item] => compact item
  | item :: next :: rest => compact item ++ "," ++ compactItems (next :: rest)

def compactFields : List (String × Data) → String
  | [] => ""
  | [(name, value)] => quote name ++ ":" ++ compact value
  | (name, value) :: next :: rest =>
      quote name ++ ":" ++ compact value ++ "," ++ compactFields (next :: rest)

end

def newLine (depth : Nat) : String :=
  "\n" ++ Node.indent depth

mutual

def pretty (depth : Nat) : Data → String
  | .null => "null"
  | .bool value => if value then "true" else "false"
  | .text value => quote value
  | .list [] => "[]"
  | .list (item :: items) =>
      "[" ++ newLine (depth + 1) ++ pretty (depth + 1) item ++ prettyItems depth items ++
        newLine depth ++ "]"
  | .object [] => "\x7b\x7d"
  | .object ((name, value) :: fields) =>
      "\x7b" ++ newLine (depth + 1) ++ quote name ++ ": " ++ pretty (depth + 1) value ++
        prettyFields depth fields ++ newLine depth ++ "\x7d"

def prettyItems (depth : Nat) : List Data → String
  | [] => ""
  | item :: rest =>
      "," ++ newLine (depth + 1) ++ pretty (depth + 1) item ++ prettyItems depth rest

def prettyFields (depth : Nat) : List (String × Data) → String
  | [] => ""
  | (name, value) :: rest =>
      "," ++ newLine (depth + 1) ++ quote name ++ ": " ++ pretty (depth + 1) value ++
        prettyFields depth rest

end

end Json

end PageCheck
