/-! Findings: what a rule reports about an element or attribute. -/

set_option autoImplicit false

namespace PageCheck

inductive FindingKind where
  | missing
  | notUnique
  | malformed
  | structural
  | invalidContent
  | empty
  | unsupported
  | internal
  | recommendedAttribute
deriving DecidableEq

namespace FindingKind

def name : FindingKind → String
  | .missing => "missing"
  | .notUnique => "not_unique"
  | .malformed => "malformed"
  | .structural => "structural"
  | .invalidContent => "invalid_content"
  | .empty => "empty"
  | .unsupported => "unsupported"
  | .internal => "internal"
  | .recommendedAttribute => "recommended_attribute"

def headline (subject : String) : FindingKind → String
  | .missing => s!"Missing required element <{subject}>"
  | .notUnique => s!"Element <{subject}> must appear only once"
  | .malformed => s!"Malformed <{subject}>"
  | .structural => s!"Invalid document structure around <{subject}>"
  | .invalidContent => s!"Invalid content in <{subject}>"
  | .empty => s!"Element <{subject}> is empty"
  | .unsupported => s!"Unsupported construct <{subject}>"
  | .internal => s!"Internal failure while checking <{subject}>"
  | .recommendedAttribute => s!"Recommended attribute '{subject}' is missing"

end FindingKind

/-- The subject is the element or attribute that the finding is about; the
detail says more closely what is wrong. -/
structure Finding where
  kind : FindingKind
  subject : String
  detail : Option String
deriving DecidableEq

namespace Finding

def missing (subject : String) : Finding :=
  ⟨.missing, subject, none⟩

def notUnique (subject : String) : Finding :=
  ⟨.notUnique, subject, none⟩

def malformed (subject detail : String) : Finding :=
  ⟨.malformed, subject, some detail⟩

def structural (subject detail : String) : Finding :=
  ⟨.structural, subject, some detail⟩

def invalidContent (subject detail : String) : Finding :=
  ⟨.invalidContent, subject, some detail⟩

def empty (subject : String) : Finding :=
  ⟨.empty, subject, none⟩

def recommendedAttribute (name : String) : Finding :=
  ⟨.recommendedAttribute, name, none⟩

def withDetail (finding : Finding) (detail : String) : Finding :=
  { finding with detail := some detail }

def message (finding : Finding) : String :=
  let headline := finding.kind.headline finding.subject
  match finding.detail with
  | some detail => s!"{headline}: {detail}"
  | none => headline

def line (finding : Finding) : String :=
  s!"[{finding.kind.name}] {finding.message}"

end Finding

end PageCheck
