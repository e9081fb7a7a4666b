import PageCheck.Engine

/-! A report as text for people. -/

set_option autoImplicit false

namespace PageCheck

namespace Report

def headline (report : Report) : String :=
  if report.verdict.isValid then
    s!"✅ Document is valid ({report.kind.name} input)\n"
  else
    s!"❌ Document is invalid: {report.verdict.errors.length} errors ({report.kind.name} input)\n"

def findingLines (label : String) (findings : List Finding) : String :=
  String.join (findings.map fun finding => s!"  {label}: {finding.line}\n")

def treeText : Option (List Node) → String
  | none => ""
  | some nodes => "\nContent tree:\n" ++ Node.displayAll 0 nodes

def summary (report : Report) : String :=
  report.headline ++ findingLines "error" report.verdict.errors ++
    findingLines "warning" report.verdict.warnings ++ treeText report.tree

end Report

end PageCheck
