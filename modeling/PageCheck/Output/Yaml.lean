import PageCheck.Output.Data
import PageCheck.Output.Yaml.Scalar
import PageCheck.Text.Span

/-! Data as a YAML document in block style.  Lists stand at the indentation of the
key that they belong to; an empty list or object is written in brackets. -/

set_option autoImplicit false

namespace PageCheck

namespace Yaml

/-- A line break, unless one has just been written, and an indentation. -/
def newLine (depth : Nat) (written : List Char) : List Char :=
  (if written.getLast? = some '\n' then written else written ++ ['\n']) ++
    YamlScalar.indentation depth

def longestKey : Nat := 128

/-- A key with what separates it from its value.  A key that is long or has
several lines is marked as one, and its colon stands below it. -/
def keyText (depth : Nat) (name : String) : List Char :=
  let key := YamlScalar.value (depth + 2) name.toList
  if longestKey < Text.byteLength name.toList || name.toList.any YamlScalar.isBreak then
    '?' :: ' ' :: newLine depth key ++ [':']
  else
    key ++ [':']

mutual

def value (depth : Nat) : Data → List Char
  | .null => "null".toList
  | .bool value => if value then "true".toList else "false".toList
  | .text value => YamlScalar.value (depth + 2) value.toList
  | .list items => if items.isEmpty then ['[', ']'] else itemLines depth items
  | .object fields => if fields.isEmpty then ['\x7b', '\x7d'] else fieldLines depth fields

def fieldValue (depth : Nat) : Data → List Char
  | .list (item :: items) => '\n' :: YamlScalar.indentation depth ++ itemLines depth (item :: items)
  | .object (first :: fields) =>
      '\n' :: YamlScalar.indentation (depth + 2) ++ fieldLines (depth + 2) (first :: fields)
  | .null => ' ' :: "null".toList
  | .bool value => ' ' :: if value then "true".toList else "false".toList
  | .text value => ' ' :: YamlScalar.value (depth + 2) value.toList
  | .list [] => [' ', '[', ']']
  | .object [] => [' ', '\x7b', '\x7d']

def itemLines (depth : Nat) : List Data → List Char
  | [] => []
  | [item] => '-' :: ' ' :: value (depth + 2) item
  | item :: next :: rest =>
      newLine depth ('-' :: ' ' :: value (depth + 2) item) ++ itemLines depth (next :: rest)

def fieldLines (depth : Nat) : List (String × Data) → List Char
  | [] => []
  | [(name, field)] => keyText depth name ++ fieldValue depth field
  | (name, field) :: next :: rest =>
      newLine depth (keyText depth name ++ fieldValue depth field) ++
        fieldLines depth (next :: rest)

end

def document (data : Data) : String :=
  String.ofList (newLine 0 (value 0 data))

end Yaml

end PageCheck
