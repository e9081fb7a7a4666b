import PageCheck.Config.Numeral
import PageCheck.Config.Reader
import PageCheck.Config.Setting
import PageCheck.InputKind
import PageCheck.Text.Split

/-! Settings put on top of others.  Every setting has a path of keys and of positions
in lists.  A table is merged entry by entry into what is there; anything else takes
its place, and tables and lists are made on the way where there are none.

The variables of the environment whose names begin with `MARKUP_LINT_` are such
settings, their paths written with two underscores between keys, in either case. -/

set_option autoImplicit false

namespace PageCheck

namespace Setting

def entries : Setting → List (String × Setting)
  | .table entries => entries
  | _ => []

def put (entries : List (String × Setting)) (key : String) (value : Setting) :
    List (String × Setting) :=
  if entries.any (·.1 == key) then
    entries.map fun entry => if entry.1 = key then (key, value) else entry
  else
    entries ++ [(key, value)]

mutual

/-- The second setting on top of the first. -/
def merge (below : Setting) : Setting → Setting
  | .table above => .table (mergeEntries below.entries above)
  | above => above

def mergeEntries (below : List (String × Setting)) :
    List (String × Setting) → List (String × Setting)
  | [] => below
  | (key, value) :: rest =>
      mergeEntries (put below key (merge ((below.lookup key).getD .null) value)) rest

end

inductive Step where
  | key (name : String)
  | index (position : Int)
deriving DecidableEq

/-- Items among which there is one at a position, and how many are before it.  A
negative position counts from the end; what is missing on the way is null. -/
def widened (items : List Setting) (position : Int) : List Setting × Nat :=
  if 0 ≤ position then
    (items ++ List.replicate (position.toNat + 1 - items.length) .null, position.toNat)
  else
    (List.replicate (position.natAbs - items.length) .null ++ items,
      items.length - position.natAbs)

def items : Setting → List Setting
  | .list items => items
  | _ => []

def setAt (value : Setting) : List Step → Setting → Setting
  | [], below => merge below value
  | .key key :: path, below =>
      .table (put below.entries key (setAt value path ((below.entries.lookup key).getD .null)))
  | .index position :: path, below =>
      let (held, slot) := widened below.items position
      .list (held.set slot (setAt value path (held[slot]?.getD .null)))

/-! ### Keys as paths -/

def isPathChar (char : Char) : Bool :=
  Text.isAsciiLetter char || Text.isAsciiDigit char || char == '_' || char == '-'

def pathName? : Reader String := fun text =>
  match text.takeWhile isPathChar with
  | [] => none
  | name => some (String.ofList name, text.dropWhile isPathChar)

def isPathBlank (char : Char) : Bool :=
  char == ' ' || char == '\t'

def pathIndex? : Reader Int := fun text => do
  let (negative, rest) := match text.dropWhile isPathBlank with
    | '-' :: rest => (true, rest)
    | rest => (false, rest)
  let digits := rest.takeWhile Text.isAsciiDigit
  let position := Numeral.signed negative (Numeral.natValue digits)
  let (_, rest) ← Reader.expect ']' ((rest.drop digits.length).dropWhile isPathBlank)
  if digits.isEmpty || !Numeral.fitsSigned position then none else some (position, rest)

def pathSteps? : Nat → List Char → Option (List Step)
  | _, [] => some []
  | 0, _ => none
  | fuel + 1, mark :: rest =>
      if mark = '.' then do
        let (name, rest) ← pathName? rest
        let steps ← pathSteps? fuel rest
        return .key name :: steps
      else if mark = '[' then do
        let (position, rest) ← pathIndex? rest
        let steps ← pathSteps? fuel rest
        return .index position :: steps
      else
        none

def path? (key : String) : Option (List Step) := do
  let (name, rest) ← pathName? key.toList
  let steps ← pathSteps? rest.length rest
  return .key name :: steps

/-- The path that a key is; one that cannot be read so stands for itself. -/
def pathOf (key : String) : List Step :=
  (path? key).getD [.key key]

def ofFile (file : Setting) : Setting :=
  file.entries.foldl (fun setting (key, value) => setAt value (pathOf key) setting) (.table [])

end Setting

namespace Environment

def variableStart : List Char :=
  "markup_lint_".toList

def dotted : List Char → List Char
  | '_' :: '_' :: rest => '.' :: dotted rest
  | char :: rest => char :: dotted rest
  | [] => []

/-- Lower case in the names of variables.  Beyond ASCII the Kelvin sign alone becomes a
letter of the names that are ours. -/
def lowerNameChar (char : Char) : Char :=
  if char = '\u212a' then 'k' else Text.lowerChar char

def lowerName (variableName : String) : List Char :=
  variableName.toList.map lowerNameChar

def key? (variableName : String) : Option String :=
  let name := lowerName variableName
  if variableStart.isPrefixOf name then
    some (String.ofList (dotted (name.drop variableStart.length)))
  else
    none

/-- The keys whose values are lists. -/
def listKeys : List String :=
  Registry.examined.map fun (kind, capability) => s!"{kind.name}.{capability.name}s"

/-- A truth value, a number, the parts between commas for a list, or a text. -/
def valueOf (key value : String) : Setting :=
  let lowered := Text.lowerName value.toList
  if lowered = "true" then .bool true
  else if lowered = "false" then .bool false
  else
    match Numeral.integer? 10 value.toList, Numeral.Real.read? value.toList with
    | some whole, _ => .number (Numeral.integerText whole)
    | none, some real => .number real.text
    | none, none =>
        if listKeys.contains key then
          .list ((Text.splitAt ',' value.toList).map fun part => .text (String.ofList part))
        else .text value

def override (environment : List (String × String)) (below : Setting) : Setting :=
  environment.foldl
    (fun setting (name, value) =>
      match key? name with
      | none => setting
      | some key => Setting.setAt (valueOf key value) (Setting.pathOf key) setting)
    below

end Environment

end PageCheck
