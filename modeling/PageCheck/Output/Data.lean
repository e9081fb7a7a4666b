import PageCheck.Engine

/-! Reports as data: the values that every structured output format writes.
Objects keep the order of their fields. -/

set_option autoImplicit false

namespace PageCheck

inductive Data where
  | null
  | bool (value : Bool)
  | text (value : String)
  | list (items : List Data)
  | object (fields : List (String × Data))

namespace Data

def ofOption : Option String → Data
  | none => .null
  | some value => .text value

end Data

def Finding.toData (finding : Finding) : Data :=
  .object
    [("kind", .text finding.kind.name),
     ("subject", .text finding.subject),
     ("detail", .ofOption finding.detail),
     ("message", .text finding.message)]

def Verdict.toData (verdict : Verdict) : Data :=
  .object
    [("valid", .bool verdict.isValid),
     ("errors", .list (verdict.errors.map Finding.toData)),
     ("warnings", .list (verdict.warnings.map Finding.toData))]

namespace Node

def attributesData (attributes : List (String × String)) : Data :=
  .object (attributes.map fun (name, value) => (name, .text value))

mutual

def toData : Node → Data
  | ⟨tagName, content, attributes, children⟩ =>
      .object
        [("tag_name", .text tagName),
         ("content", .ofOption content),
         ("attributes", attributesData attributes),
         ("children", .list (toDataAll children))]

def toDataAll : List Node → List Data
  | [] => []
  | node :: rest => toData node :: toDataAll rest

end

end Node

def Report.toData (report : Report) : Data :=
  .object
    [("input_kind", .text report.kind.name),
     ("validation", report.verdict.toData),
     ("tree", match report.tree with
       | none => .null
       | some nodes => .list (Node.toDataAll nodes))]

end PageCheck
