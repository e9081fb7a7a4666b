import PageCheck.Registry

/-! Settings: what a configuration file says, whatever its format, and the
registry that it describes.  A section may be a table or a list of its two
lists; what is missing is empty, and keys of other names do not matter. -/

set_option autoImplicit false

namespace PageCheck

/-- A number is kept as the text that stands for it where a name is wanted. -/
inductive Setting where
  | null
  | bool (value : Bool)
  | number (written : String)
  | text (value : String)
  | list (items : List Setting)
  | table (entries : List (String × Setting))
deriving Inhabited

namespace Setting

def member? (entries : List (String × Setting)) (key : String) : Option Setting :=
  entries.lookup key

def asText? : Setting → Option String
  | .text value => some value
  | _ => none

/-- A list item that may also be a number or a truth value. -/
def asName? : Setting → Option String
  | .text value => some value
  | .number written => some written
  | .bool value => some (if value then "true" else "false")
  | _ => none

def names? (name? : Setting → Option String) : Option Setting → Option (List String)
  | none => some []
  | some (.list items) => items.mapM name?
  | some _ => none

def lists? (name? : Setting → Option String) : Option Setting → Option ComponentLists
  | none => some .empty
  | some (.table entries) => do
      let validators ← names? name? (member? entries "validators")
      let extractors ← names? name? (member? entries "extractors")
      return ⟨validators, extractors⟩
  | some (.list items) => do
      let validators ← names? name? items[0]?
      let extractors ← names? name? items[1]?
      return ⟨validators, extractors⟩
  | some _ => none

/-- The registry that a setting describes, with `name?` saying which list items
are names. -/
def registry? (name? : Setting → Option String) : Setting → Option Registry
  | .table entries => do
      let html ← lists? name? (member? entries "html")
      let markdown ← lists? name? (member? entries "markdown")
      return ⟨html, markdown⟩
  | .list items => do
      let html ← lists? name? items[0]?
      let markdown ← lists? name? items[1]?
      return ⟨html, markdown⟩
  | _ => none

/-- No list that stands for a section or for the whole has more than its two items. -/
def isExact : Setting → Bool
  | .table entries => entries.all fun (key, part) =>
      !(key == "html" || key == "markdown") || sectionIsExact part
  | .list items => decide (items.length ≤ 2) && items.all sectionIsExact
  | _ => true
where
  sectionIsExact : Setting → Bool
    | .list items => decide (items.length ≤ 2)
    | _ => true

end Setting

end PageCheck
