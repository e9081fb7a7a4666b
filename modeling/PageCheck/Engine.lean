import PageCheck.Registry

/-! Engines: the chains of validators and extractors that a registry stands for,
resolved once.  A chain runs all its members on a document and puts their answers
behind one another. -/

set_option autoImplicit false

namespace PageCheck

/-- The report of a component that could not finish. -/
def Verdict.aborted (component : Component) (validator : Validator) : Verdict :=
  .failed ⟨.internal, validator.subject,
    some s!"validator '{component.identifier}' aborted unexpectedly"⟩

def describeMembers (kind : InputKind) (components : List Component) : String :=
  "\x7b input_kind: " ++ kind.label ++ ", components: [" ++
    ", ".intercalate (components.map Component.label) ++ "] \x7d"

structure ValidatorChain where
  kind : InputKind
  members : List (Component × Validator)

namespace ValidatorChain

def ofRegistry (registry : Registry) (kind : InputKind) :
    Except ConfigurationError ValidatorChain := do
  let components ← registry.resolve kind .validator
  return ⟨kind, components.map fun component => (component, component.validator)⟩

def components (chain : ValidatorChain) : List Component :=
  chain.members.map (·.1)

def describe (chain : ValidatorChain) : String :=
  "ValidatorChain " ++ describeMembers chain.kind chain.components

def run (chain : ValidatorChain) (document : Document) : Verdict :=
  chain.members.foldl
    (fun verdict (component, validator) =>
      verdict.merge ((validator.run document).getD (.aborted component validator)))
    .clean

end ValidatorChain

structure ExtractorChain where
  kind : InputKind
  members : List (Component × Extractor)

namespace ExtractorChain

def ofRegistry (registry : Registry) (kind : InputKind) :
    Except ConfigurationError ExtractorChain := do
  let components ← registry.resolve kind .extractor
  return ⟨kind, components.filterMap fun component =>
    component.extractor?.map fun extractor => (component, extractor)⟩

def components (chain : ExtractorChain) : List Component :=
  chain.members.map (·.1)

def describe (chain : ExtractorChain) : String :=
  "ExtractorChain " ++ describeMembers chain.kind chain.components

def run (chain : ExtractorChain) (document : Document) : Option (List Node) := do
  let parts ← chain.members.mapM fun (_, extractor) => extractor.run document.source
  return parts.flatten

end ExtractorChain

/-- The tree is there only if the document is valid. -/
structure Report where
  kind : InputKind
  verdict : Verdict
  tree : Option (List Node)

structure Chains where
  validators : ValidatorChain
  extractors : ExtractorChain

structure Engine where
  html : Chains
  markdown : Chains

namespace Chains

def ofRegistry (registry : Registry) (kind : InputKind) : Except ConfigurationError Chains := do
  let validators ← ValidatorChain.ofRegistry registry kind
  let extractors ← ExtractorChain.ofRegistry registry kind
  return ⟨validators, extractors⟩

end Chains

namespace Engine

def ofRegistry (registry : Registry) : Except ConfigurationError Engine := do
  let html ← Chains.ofRegistry registry .html
  let markdown ← Chains.ofRegistry registry .markdown
  return ⟨html, markdown⟩

def chains (engine : Engine) : InputKind → Chains
  | .html => engine.html
  | .markdown => engine.markdown

theorem standard_resolves : (ofRegistry Registry.standard).toOption.isSome = true := by
  decide

def standard : Engine :=
  (ofRegistry Registry.standard).toOption.get standard_resolves

def validate (engine : Engine) (document : Document) (kind : InputKind) : Verdict :=
  (engine.chains kind).validators.run document

def extract (engine : Engine) (document : Document) (kind : InputKind) : Option (List Node) :=
  (engine.chains kind).extractors.run document

def process (engine : Engine) (document : Document) (kind : InputKind) : Option Report := do
  let verdict := engine.validate document kind
  if verdict.isValid then
    let tree ← engine.extract document kind
    return ⟨kind, verdict, some tree⟩
  else
    return ⟨kind, verdict, none⟩

end Engine

end PageCheck
