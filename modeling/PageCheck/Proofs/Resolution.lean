import PageCheck.Config.Load
import PageCheck.Engine
import PageCheck.Proofs.Defects

/-! Resolution.  Checking a registry and building an engine from it go through its four
lists in one order, so they stop at the same defect, and the chains of an engine hold
what the lists resolve to: one component for each identifier, and none twice.  A
registry that was loaded has been checked, so an engine can always be built from it. -/

set_option autoImplicit false

namespace PageCheck

/-! ### Lists of identifiers -/

namespace Registry

/-- The identifiers of a list name these components, one after the other. -/
def Names (registry : Registry) (kind : InputKind) (capability : Capability)
    (components : List Component) : Prop :=
  (registry.identifiers kind capability).map Component.ofIdentifier? = components.map some

variable {registry : Registry} {kind : InputKind} {capability : Capability}
  {components : List Component}

theorem resolve_eq_ok (resolved : registry.resolve kind capability = .ok components) :
    components.Nodup ∧ registry.Names kind capability components ∧
      ∀ component ∈ components, component.supports capability = true := by
  obtain ⟨-, done⟩ := resolve_eq_ok_iff.mp resolved
  exact ⟨done.distinct, done.names, done.supported⟩

end Registry

/-! ### Chains -/

theorem ValidatorChain.resolve_components {registry : Registry} {kind : InputKind}
    {chain : ValidatorChain} (built : ofRegistry registry kind = .ok chain) :
    registry.resolve kind .validator = .ok chain.components := by
  unfold ofRegistry at built
  cases resolved : registry.resolve kind .validator with
  | error defect =>
      rw [resolved] at built
      cases built
  | ok found =>
      rw [resolved] at built
      cases built
      unfold components
      rw [List.map_map]
      exact congrArg Except.ok (List.map_id found).symm

theorem ExtractorChain.resolve_components {registry : Registry} {kind : InputKind}
    {chain : ExtractorChain} (built : ofRegistry registry kind = .ok chain) :
    registry.resolve kind .extractor = .ok chain.components := by
  unfold ofRegistry at built
  cases resolved : registry.resolve kind .extractor with
  | error defect =>
      rw [resolved] at built
      cases built
  | ok found =>
      rw [resolved] at built
      cases built
      obtain ⟨-, -, supports⟩ := Registry.resolve_eq_ok resolved
      have kept : ∀ component ∈ found,
          (component.extractor?.map fun extractor => (component, extractor)).map (·.1) =
            some component := by
        intro component member
        have extracts := supports component member
        rw [Component.supports_extractor] at extracts
        obtain ⟨extractor, instantiated⟩ := Option.isSome_iff_exists.mp extracts
        rw [instantiated]
        rfl
      unfold components
      rw [List.map_filterMap, List.filterMap_congr kept, List.filterMap_some]

def Chains.components (chains : Chains) : Capability → List Component
  | .validator => chains.validators.components
  | .extractor => chains.extractors.components

/-! ### Engines -/

theorem forM_eq_error_iff {α ε : Type} {step : α → Except ε Unit} {items : List α} {error : ε} :
    items.forM step = .error error ↔
      ∃ before item after, items = before ++ item :: after ∧
        (∀ earlier ∈ before, step earlier = .ok ()) ∧ step item = .error error := by
  induction items with
  | nil =>
      refine ⟨nofun, ?_⟩
      rintro ⟨before, item, after, split, -⟩
      cases before <;> cases split
  | cons first rest ih =>
      change (step first >>= fun _ => rest.forM step) = .error error ↔ _
      cases ran : step first with
      | error found =>
          constructor
          · intro same
            exact ⟨[], first, rest, rfl, nofun, ran.trans same⟩
          · rintro ⟨before, item, after, split, passed, failed⟩
            cases before with
            | nil =>
                rw [List.nil_append, List.cons.injEq] at split
                rw [← split.1, ran] at failed
                exact failed
            | cons earlier before =>
                rw [List.cons_append, List.cons.injEq] at split
                have clear := passed earlier List.mem_cons_self
                rw [← split.1, ran] at clear
                cases clear
      | ok _ =>
          refine ih.trans ⟨?_, ?_⟩
          · rintro ⟨before, item, after, rfl, passed, failed⟩
            exact ⟨first :: before, item, after, rfl,
              List.forall_mem_cons.mpr ⟨ran, passed⟩, failed⟩
          · rintro ⟨before, item, after, split, passed, failed⟩
            cases before with
            | nil =>
                rw [List.nil_append, List.cons.injEq] at split
                rw [← split.1, ran] at failed
                cases failed
            | cons earlier before =>
                rw [List.cons_append, List.cons.injEq] at split
                exact ⟨before, item, after, split.2,
                  fun other member => passed other (List.mem_cons_of_mem _ member), failed⟩

/-- The first list that does not resolve decides what a check reports. -/
theorem Registry.check_eq_error_iff {registry : Registry} {defect : ConfigurationError} :
    registry.check = .error defect ↔
      ∃ before kind capability after, examined = before ++ (kind, capability) :: after ∧
        (∀ list ∈ before, ∃ components, registry.resolve list.1 list.2 = .ok components) ∧
        registry.resolve kind capability = .error defect := by
  let step (list : InputKind × Capability) : Except ConfigurationError Unit :=
    (registry.resolve list.1 list.2).map fun _ => ()
  have same : registry.check = examined.forM step := by
    refine congrArg examined.forM (funext fun list => ?_)
    simp only [step]
    cases registry.resolve list.1 list.2 <;> rfl
  have passes (list : InputKind × Capability) :
      step list = .ok () ↔ ∃ components, registry.resolve list.1 list.2 = .ok components := by
    simp only [step]
    cases registry.resolve list.1 list.2 with
    | error found => exact ⟨nofun, fun ⟨_, impossible⟩ => nomatch impossible⟩
    | ok components => exact ⟨fun _ => ⟨components, rfl⟩, fun _ => rfl⟩
  have fails (list : InputKind × Capability) :
      step list = .error defect ↔ registry.resolve list.1 list.2 = .error defect := by
    simp only [step]
    cases registry.resolve list.1 list.2 with
    | error found => rw [Except.map, Except.error.injEq, Except.error.injEq]
    | ok components => exact ⟨nofun, nofun⟩
  rw [same, forM_eq_error_iff]
  simp only [passes, fails, Prod.exists]

/-- Building an engine fails where checking its registry fails. -/
theorem Registry.check_eq_map (registry : Registry) :
    registry.check = (Engine.ofRegistry registry).map fun _ => () := by
  unfold Engine.ofRegistry Chains.ofRegistry ValidatorChain.ofRegistry ExtractorChain.ofRegistry
  change (do
    let _ ← (do let _ ← registry.resolve .html .validator)
    let _ ← (do let _ ← registry.resolve .html .extractor)
    let _ ← (do let _ ← registry.resolve .markdown .validator)
    let _ ← (do let _ ← registry.resolve .markdown .extractor)
    return ()) = _
  cases registry.resolve .html .validator with
  | error defect => rfl
  | ok _ =>
      cases registry.resolve .html .extractor with
      | error defect => rfl
      | ok _ =>
          cases registry.resolve .markdown .validator with
          | error defect => rfl
          | ok _ => cases registry.resolve .markdown .extractor <;> rfl

namespace Engine

variable {registry : Registry} {engine : Engine}

theorem exists_ofRegistry_iff :
    (∃ engine, ofRegistry registry = .ok engine) ↔ registry.check = .ok () := by
  rw [registry.check_eq_map]
  cases ofRegistry registry with
  | error defect => exact ⟨fun ⟨_, impossible⟩ => (nomatch impossible), nofun⟩
  | ok engine => exact ⟨fun _ => rfl, fun _ => ⟨engine, rfl⟩⟩

theorem ofRegistry_eq_error_iff {defect : ConfigurationError} :
    ofRegistry registry = .error defect ↔ registry.check = .error defect := by
  rw [registry.check_eq_map]
  cases ofRegistry registry with
  | error found => rw [Except.map, Except.error.injEq, Except.error.injEq]
  | ok engine => exact ⟨nofun, nofun⟩

private theorem chains_ofRegistry (built : ofRegistry registry = .ok engine) (kind : InputKind) :
    Chains.ofRegistry registry kind = .ok (engine.chains kind) := by
  unfold ofRegistry at built
  cases html : Chains.ofRegistry registry .html with
  | error defect =>
      rw [html] at built
      cases built
  | ok htmlChains =>
      cases markdown : Chains.ofRegistry registry .markdown with
      | error defect =>
          rw [html, markdown] at built
          cases built
      | ok markdownChains =>
          rw [html, markdown] at built
          cases built
          cases kind with
          | html => exact html
          | markdown => exact markdown

theorem chain_ofRegistry (built : ofRegistry registry = .ok engine) (kind : InputKind) :
    ValidatorChain.ofRegistry registry kind = .ok (engine.chains kind).validators ∧
      ExtractorChain.ofRegistry registry kind = .ok (engine.chains kind).extractors := by
  have chains := chains_ofRegistry built kind
  unfold Chains.ofRegistry at chains
  cases validators : ValidatorChain.ofRegistry registry kind with
  | error defect =>
      rw [validators] at chains
      cases chains
  | ok validatorChain =>
      cases extractors : ExtractorChain.ofRegistry registry kind with
      | error defect =>
          rw [validators, extractors] at chains
          cases chains
      | ok extractorChain =>
          rw [validators, extractors] at chains
          have same := Except.ok.inj chains
          rw [← same]
          exact ⟨rfl, rfl⟩

/-- The chains of an engine hold what the lists of its registry resolve to. -/
theorem resolve_components (built : ofRegistry registry = .ok engine) (kind : InputKind)
    (capability : Capability) :
    registry.resolve kind capability = .ok ((engine.chains kind).components capability) := by
  obtain ⟨validators, extractors⟩ := chain_ofRegistry built kind
  cases capability with
  | validator => exact ValidatorChain.resolve_components validators
  | extractor => exact ExtractorChain.resolve_components extractors

end Engine

/-! ### Loading -/

section Returns

variable {m : Type → Type} [Monad m] {α β : Type} {property : β → Prop}

/-- Whatever the computation does, what it returns has the property. -/
def Returns (property : β → Prop) (computation : m β) : Prop :=
  ∃ checked : m {value // property value}, Subtype.val <$> checked = computation

variable [LawfulMonad m]

theorem returns_pure {value : β} (holds : property value) :
    Returns property (pure value : m β) :=
  ⟨pure ⟨value, holds⟩, map_pure _ _⟩

theorem returns_bind {computation : m α} {next : α → m β}
    (each : ∀ value, Returns property (next value)) : Returns property (computation >>= next) := by
  refine ⟨computation >>= fun value => Classical.choose (each value), ?_⟩
  rw [map_bind]
  exact bind_congr fun value => Classical.choose_spec (each value)

theorem returns_imp {other : β → Prop} {computation : m β}
    (implies : ∀ value, property value → other value) (returns : Returns property computation) :
    Returns other computation := by
  obtain ⟨checked, rfl⟩ := returns
  refine ⟨(fun value => ⟨value.1, implies value.1 value.2⟩) <$> checked, ?_⟩
  rw [← comp_map]
  rfl

end Returns

namespace Registry

theorem check_of_ofText {environment : List (String × String)} {format : SettingFormat}
    {text : List Char} {registry : Registry}
    (loaded : ofText environment format text = .ok registry) : registry.check = .ok () := by
  unfold ofText at loaded
  split at loaded
  · cases loaded
  · unfold ofSettings at loaded
    split at loaded
    · cases loaded
    · rename_i found _
      cases checked : found.check with
      | error defect =>
          rw [checked] at loaded
          cases loaded
      | ok _ =>
          rw [checked] at loaded
          cases loaded
          exact checked

/-- A file gives a registry that passes its check, or none. -/
theorem load_returns_checked {m : Type → Type} [Monad m] [LawfulMonad m]
    (read : String → m (Option (List UInt8))) (environment : List (String × String))
    (path : String) :
    Returns (fun outcome => ∀ loaded, outcome = .ok loaded → loaded.check = .ok ())
      (load read environment path) := by
  unfold load
  refine returns_bind fun found => ?_
  split
  · exact returns_pure nofun
  · split
    · exact returns_pure nofun
    · exact returns_pure fun registry loaded => check_of_ofText loaded

end Registry

theorem Engine.load_returns_buildable {m : Type → Type} [Monad m] [LawfulMonad m]
    (read : String → m (Option (List UInt8))) (environment : List (String × String))
    (path : String) :
    Returns
      (fun outcome => ∀ loaded, outcome = .ok loaded → ∃ engine, ofRegistry loaded = .ok engine)
      (Registry.load read environment path) :=
  returns_imp (fun _ checked loaded same => exists_ofRegistry_iff.mpr (checked loaded same))
    (Registry.load_returns_checked read environment path)

/-! ### Checking, resolving and building -/

/-- An engine can be built from a registry just when its check succeeds, and where both
fail, both report the first defect of the lists in their order.  The chains of an engine
hold the components that the identifiers name, one for each and none twice.  Whatever is
loaded, an engine can be built from it. -/
theorem Engine.ofRegistry_agrees_with_check (registry : Registry) :
    ((∃ engine, ofRegistry registry = .ok engine) ↔ registry.check = .ok ()) ∧
      (∀ defect, (ofRegistry registry = .error defect ↔ registry.check = .error defect) ∧
        (registry.check = .error defect ↔
          ∃ before kind capability after,
            [(.html, .validator), (.html, .extractor), (.markdown, .validator),
              (.markdown, .extractor)] = before ++ (kind, capability) :: after ∧
            (∀ list ∈ before, ∃ components, registry.resolve list.1 list.2 = .ok components) ∧
            registry.resolve kind capability = .error defect)) ∧
      (∀ engine, ofRegistry registry = .ok engine → ∀ kind capability,
        registry.resolve kind capability = .ok ((engine.chains kind).components capability) ∧
          registry.Names kind capability ((engine.chains kind).components capability) ∧
          ((engine.chains kind).components capability).Nodup) ∧
      (∀ environment format text, Registry.ofText environment format text = .ok registry →
        ∃ engine, ofRegistry registry = .ok engine) ∧
      ∀ (m : Type → Type) [Monad m] [LawfulMonad m] (read : String → m (Option (List UInt8)))
        (environment : List (String × String)) (path : String),
        Returns
          (fun outcome => ∀ loaded, outcome = .ok loaded → ∃ engine, ofRegistry loaded = .ok engine)
          (Registry.load read environment path) := by
  refine ⟨exists_ofRegistry_iff, fun defect => ⟨ofRegistry_eq_error_iff, ?_⟩,
    fun engine built kind capability => ?_,
    fun environment format text loaded => ?_,
    fun m _ _ read environment path => load_returns_buildable read environment path⟩
  · exact Registry.check_eq_error_iff
  · have resolved := resolve_components built kind capability
    obtain ⟨distinct, names, -⟩ := Registry.resolve_eq_ok resolved
    exact ⟨resolved, names, distinct⟩
  · exact exists_ofRegistry_iff.mpr (Registry.check_of_ofText loaded)

def Registry.abbreviated : Registry where
  html := ⟨[" HTML ", "p", "A"], ["Body"]⟩
  markdown := ⟨["md"], ["Markdown"]⟩

theorem Engine.ofRegistry_agrees_with_check_of_abbreviated :
    ∃ engine, ofRegistry .abbreviated = .ok engine ∧
      Registry.abbreviated.resolve .html .validator =
        .ok ((engine.chains .html).components .validator) ∧
      Registry.abbreviated.Names .html .validator
        ((engine.chains .html).components .validator) ∧
      ((engine.chains .html).components .validator).Nodup := by
  have checked : Registry.abbreviated.check = .ok () := by decide
  have agrees := Engine.ofRegistry_agrees_with_check .abbreviated
  obtain ⟨engine, built⟩ := agrees.1.mpr checked
  exact ⟨engine, built, agrees.2.2.1 engine built .html .validator⟩

end PageCheck
