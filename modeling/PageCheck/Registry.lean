import PageCheck.Component
import PageCheck.InputKind

/-! The registry: which components run on an input kind, and in which order.
Resolving a list of identifiers gives its components or the first defect. -/

set_option autoImplicit false

namespace PageCheck

inductive ConfigurationError where
  | emptyList (kind : InputKind) (capability : Capability)
  | duplicate (kind : InputKind) (capability : Capability) (identifier : String)
  | unknown (kind : InputKind) (identifier : String)
  | wrongCapability (kind : InputKind) (capability : Capability) (identifier : String)
  | load
deriving DecidableEq

def ConfigurationError.message : ConfigurationError → String
  | .emptyList kind capability =>
      s!"No {capability.name} components configured for {kind.name} input"
  | .duplicate kind capability identifier =>
      s!"Duplicate {capability.name} component '{identifier}' configured for {kind.name} input"
  | .unknown kind identifier =>
      s!"Unknown component '{identifier}' configured for {kind.name} input"
  | .wrongCapability kind capability identifier =>
      s!"Component '{identifier}' cannot be used as a {capability.name} ({kind.name} input)"
  | .load => "Failed to load component registry"

structure ComponentLists where
  validators : List String
  extractors : List String
deriving DecidableEq

namespace ComponentLists

def empty : ComponentLists :=
  ⟨[], []⟩

def identifiers (lists : ComponentLists) : Capability → List String
  | .validator => lists.validators
  | .extractor => lists.extractors

def update (lists : ComponentLists) (capability : Capability)
    (change : List String → List String) : ComponentLists :=
  match capability with
  | .validator => { lists with validators := change lists.validators }
  | .extractor => { lists with extractors := change lists.extractors }

end ComponentLists

structure Registry where
  html : ComponentLists
  markdown : ComponentLists
deriving DecidableEq

namespace Registry

def standard : Registry where
  html := ⟨["html", "head", "body", "title", "heading", "paragraph", "anchor"], ["html"]⟩
  markdown := ⟨["markdown"], ["markdown"]⟩

def lists (registry : Registry) : InputKind → ComponentLists
  | .html => registry.html
  | .markdown => registry.markdown

def identifiers (registry : Registry) (kind : InputKind) (capability : Capability) :
    List String :=
  (registry.lists kind).identifiers capability

def update (registry : Registry) (kind : InputKind) (capability : Capability)
    (change : List String → List String) : Registry :=
  match kind with
  | .html => { registry with html := registry.html.update capability change }
  | .markdown => { registry with markdown := registry.markdown.update capability change }

/-- The components named by the identifiers, behind those that `resolved` holds. -/
def resolveFrom (kind : InputKind) (capability : Capability) (resolved : List Component) :
    List String → Except ConfigurationError (List Component)
  | [] => .ok resolved
  | identifier :: rest =>
      match Component.ofIdentifier? identifier with
      | none => .error (.unknown kind identifier)
      | some component =>
          if component.supports capability = false then
            .error (.wrongCapability kind capability identifier)
          else if component ∈ resolved then
            .error (.duplicate kind capability identifier)
          else
            resolveFrom kind capability (resolved ++ [component]) rest

def resolve (registry : Registry) (kind : InputKind) (capability : Capability) :
    Except ConfigurationError (List Component) :=
  match registry.identifiers kind capability with
  | [] => .error (.emptyList kind capability)
  | identifiers => resolveFrom kind capability [] identifiers

/-- The four lists in the order in which they are examined. -/
def examined : List (InputKind × Capability) :=
  InputKind.all.flatMap fun kind => Capability.all.map fun capability => (kind, capability)

def check (registry : Registry) : Except ConfigurationError Unit :=
  examined.forM fun (kind, capability) => do
    let _ ← registry.resolve kind capability

end Registry

end PageCheck
