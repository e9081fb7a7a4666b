import PageCheck.Config.Numeral
import PageCheck.Config.Setting

/-! What the nodes of a YAML document stand for, and the settings that they are. -/

set_option autoImplicit false

namespace PageCheck

namespace Yaml

/-- A number that is not whole is kept as it is written.  A node is broken if it is
not of the kind that its tag names. -/
inductive Node where
  | broken
  | null
  | bool (value : Bool)
  | integer (value : Int)
  | real (written : String)
  | text (value : String)
  | list (items : List Node)
  | table (members : List (Node × Node))
deriving Inhabited

/-! ### Scalars -/

def unboundedNames : List String :=
  [".inf", ".Inf", ".INF", "+.inf", "+.Inf", "+.INF", "-.inf", "-.Inf", "-.INF", ".nan", ".NaN",
    ".NAN"]

def truthOf? (written : String) : Option Bool :=
  if ["true", "True", "TRUE"].contains written then some true
  else if ["false", "False", "FALSE"].contains written then some false
  else none

def isReal (text : List Char) : Bool :=
  unboundedNames.contains (String.ofList text) ||
    (text.any Text.isAsciiDigit && (Numeral.Real.read? text).isSome)

/-- A whole number whose first marks tell its notation; behind a plus there may be
one more sign. -/
def markedInteger? (text : List Char) : Option Int :=
  match text with
  | '0' :: 'x' :: digits => Numeral.integer? 16 digits
  | '0' :: 'o' :: digits => Numeral.integer? 8 digits
  | '+' :: digits => Numeral.integer? 10 digits
  | _ => none

namespace Node

def ofPlain (text : List Char) : Node :=
  let written := String.ofList text
  match markedInteger? text with
  | some value => .integer value
  | none =>
      if ["", "~", "null"].contains written then .null
      else
        match truthOf? written with
        | some value => .bool value
        | none =>
            match Numeral.integer? 10 text with
            | some value => .integer value
            | none => if isReal text then .real written else .text written

def knownTags : String :=
  "tag:yaml.org,2002:"

def ofTagged (kind : String) (text : List Char) : Node :=
  let written := String.ofList text
  match kind with
  | "bool" => ((truthOf? written).map bool).getD .broken
  | "int" => ((Numeral.integer? 10 text).map integer).getD .broken
  | "float" => if isReal text then .real written else .broken
  | "null" => if written = "~" ∨ written = "null" then .null else .broken
  | _ => .text written

/-- What a scalar stands for; only a plain one may be anything but a text. -/
def ofScalar (plain : Bool) (tag : Option (String × String)) (written : String) : Node :=
  if plain then
    match tag with
    | none => ofPlain written.toList
    | some (start, kind) =>
        if start = knownTags then ofTagged kind written.toList else .text written
  else
    .text written

/-! ### Equality -/

mutual

/-- The same kind and value; tables have the same members in the same order. -/
def same : Node → Node → Bool
  | .broken, .broken => true
  | .null, .null => true
  | .bool left, .bool right => left == right
  | .integer left, .integer right => left == right
  | .real left, .real right => left == right
  | .text left, .text right => left == right
  | .list left, .list right => sameItems left right
  | .table left, .table right => sameMembers left right
  | _, _ => false

def sameItems : List Node → List Node → Bool
  | [], [] => true
  | left :: lefts, right :: rights => same left right && sameItems lefts rights
  | _, _ => false

def sameMembers : List (Node × Node) → List (Node × Node) → Bool
  | [], [] => true
  | (key, value) :: lefts, (otherKey, otherValue) :: rights =>
      same key otherKey && same value otherValue && sameMembers lefts rights
  | _, _ => false

end

/-! ### As settings -/

def name? : Node → Option String
  | .bool value => some (if value then "true" else "false")
  | .integer value => some (Numeral.integerText value)
  | .real written => some written
  | .text value => some value
  | _ => none

def realSetting? (written : String) : Option Setting :=
  (Numeral.Real.read? written.toList).map fun value => .number value.text

mutual

def setting? : Node → Option Setting
  | .broken => some .null
  | .null => some .null
  | .bool value => some (.bool value)
  | .integer value => some (.number (Numeral.integerText value))
  | .real written => realSetting? written
  | .text value => some (.text value)
  | .list items => (itemSettings? items).map .list
  | .table members => (memberSettings? members).map .table

def itemSettings? : List Node → Option (List Setting)
  | [] => some []
  | item :: rest => do
      let setting ← setting? item
      let settings ← itemSettings? rest
      return setting :: settings

/-- Of two members with one name the later one counts. -/
def memberSettings? : List (Node × Node) → Option (List (String × Setting))
  | [] => some []
  | (key, value) :: rest => do
      let name ← name? key
      let setting ← setting? value
      let settings ← memberSettings? rest
      return if settings.any (·.1 == name) then settings else (name, setting) :: settings

end

end Node

end Yaml

end PageCheck
