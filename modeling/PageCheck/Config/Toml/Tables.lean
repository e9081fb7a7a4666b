import PageCheck.Config.Setting

/-! The tables of a TOML document while it is being read.  Each remembers how it
came about, because that decides what may still be added: a table with a header
of its own has no second one and no dotted keys from elsewhere, a table made by
dotted keys has no header, and a table that only lies on the way to others may
still get a header. -/

set_option autoImplicit false

namespace PageCheck

namespace Toml

inductive Origin where
  | header
  | passed
  | dotted
deriving DecidableEq

inductive Item where
  | value (setting : Setting)
  | table (origin : Origin) (entries : List (String × Item))
  | tables (elements : List (List (String × Item)))

abbrev Entries := List (String × Item)

def putItem (entries : Entries) (key : String) (item : Item) : Entries :=
  if entries.any (·.1 == key) then
    entries.map fun entry => if entry.1 = key then (key, item) else entry
  else
    entries ++ [(key, item)]

/-- Changes the table at the end of a path.  Tables that are not there are made,
and the last of several tables stands for them all. -/
def descend (made : Origin) (change : Origin → Entries → Option (Origin × Entries)) :
    List String → Origin → Entries → Option (Origin × Entries)
  | [], origin, entries => change origin entries
  | key :: path, origin, entries =>
      match entries.lookup key with
      | none => do
          let (inner, changed) ← descend made change path made []
          return (origin, putItem entries key (.table inner changed))
      | some (.value _) => none
      | some (.table inner found) =>
          if made = .dotted ∧ inner = .header then
            none
          else do
            let (inner, changed) ← descend made change path inner found
            return (origin, putItem entries key (.table inner changed))
      | some (.tables elements) =>
          match elements.reverse with
          | [] => none
          | last :: before => do
              let (_, changed) ← descend made change path .header last
              return (origin, putItem entries key (.tables (changed :: before).reverse))

def openTable (path : List String) (key : String) (root : Entries) : Option Entries :=
  let change (origin : Origin) (entries : Entries) : Option (Origin × Entries) :=
    match entries.lookup key with
    | none => some (origin, putItem entries key (.table .header []))
    | some (.table .passed found) => some (origin, putItem entries key (.table .header found))
    | some _ => none
  (descend .passed change path .header root).map (·.2)

def openElement (path : List String) (key : String) (root : Entries) : Option Entries :=
  let change (origin : Origin) (entries : Entries) : Option (Origin × Entries) :=
    match entries.lookup key with
    | none => some (origin, putItem entries key (.tables [[]]))
    | some (.tables elements) => some (origin, putItem entries key (.tables (elements ++ [[]])))
    | some _ => none
  (descend .passed change path .header root).map (·.2)

/-- A key and its value in a table, the key behind the others of a dotted path.
No such path ends at one of several tables. -/
def assign (path : List String) (key : String) (item : Item) (origin : Origin)
    (entries : Entries) : Option (Origin × Entries) :=
  let change (origin : Origin) (entries : Entries) : Option (Origin × Entries) :=
    if origin = .header ∧ !path.isEmpty then none
    else if entries.any (·.1 == key) then none
    else some (origin, putItem entries key item)
  descend .dotted change path origin entries

def assignBelow (header path : List String) (key : String) (item : Item) (root : Entries) :
    Option Entries :=
  (descend .passed (assign path key item) header .header root).map (·.2)

/-! ### As settings -/

mutual

def Item.setting : Item → Setting
  | .value setting => setting
  | .table _ entries => .table (settings entries)
  | .tables elements => .list (elementSettings elements)

def settings : List (String × Item) → List (String × Setting)
  | [] => []
  | (key, item) :: rest => (key, Item.setting item) :: settings rest

def elementSettings : List (List (String × Item)) → List Setting
  | [] => []
  | entries :: rest => .table (settings entries) :: elementSettings rest

end

end Toml

end PageCheck
