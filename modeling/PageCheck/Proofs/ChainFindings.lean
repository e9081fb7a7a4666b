import Mathlib.Data.List.Perm.Basic
import PageCheck.Proofs.Resolution
import PageCheck.Proofs.Totality

/-! What a chain finds.  Every validator stops at the first fault of a document, so it
returns one error and nothing else, or no error.  A chain does not stop: it puts the
findings of its validators behind one another, in the order in which they are
configured, and a document is valid for it when it is valid for each of them.  Another
order moves whole blocks of findings and changes nothing else. -/

set_option autoImplicit false

namespace PageCheck

/-! ### One validator -/

namespace Component

theorem validator_isSome (component : Component) (document : Document) :
    (component.validator.run document).isSome = true := by
  obtain ⟨verdict, ran, -⟩ := component.settled document
  rw [ran]
  rfl

/-- What the validator of a component returns when it runs alone. -/
def verdict (component : Component) (document : Document) : Verdict :=
  (component.validator.run document).get (component.validator_isSome document)

theorem run_eq_verdict (component : Component) (document : Document) :
    component.validator.run document = some (component.verdict document) :=
  (Option.some_get _).symm

end Component

structure Verdict.FailsFast (verdict : Verdict) : Prop where
  length_errors : verdict.errors.length ≤ 1
  warnings : verdict.errors ≠ [] → verdict.warnings = []
  isValid : verdict.isValid = verdict.errors.isEmpty

theorem Rules.Concludes.failsFast {verdict : Verdict} (concludes : Concludes (some verdict)) :
    verdict.FailsFast := by
  cases concludes with
  | failed kind => exact ⟨Nat.le_refl 1, fun _ => rfl, rfl⟩
  | passed kinds => exact ⟨Nat.zero_le 1, fun faulty => absurd rfl faulty, rfl⟩

theorem Component.verdict_failsFast (component : Component) (document : Document) :
    (component.verdict document).FailsFast := by
  apply Rules.Concludes.failsFast
  rw [← component.run_eq_verdict document]
  exact component.concludes document

/-! ### Chains of validators -/

/-- The verdict holds what the components return alone, in this order, and no more. -/
structure Verdict.Composed (document : Document) (components : List Component)
    (verdict : Verdict) : Prop where
  errors : verdict.errors = components.flatMap fun component => (component.verdict document).errors
  warnings :
    verdict.warnings = components.flatMap fun component => (component.verdict document).warnings
  isValid_iff_clean : verdict.isValid = true ↔ verdict.errors = []
  isValid_iff_each : verdict.isValid = true ↔
    ∀ component ∈ components, (component.verdict document).isValid = true

theorem ValidatorChain.run_composed {registry : Registry} {kind : InputKind}
    {chain : ValidatorChain} (built : ofRegistry registry kind = .ok chain)
    (document : Document) : (chain.run document).Composed document chain.components := by
  have blocks : chain.members.map (contribution document) =
      chain.components.map fun component => component.verdict document := by
    unfold components
    rw [List.map_map]
    refine List.map_congr_left fun member present => ?_
    unfold contribution
    rw [members_eq built member present, Component.run_eq_verdict]
    rfl
  have merged : chain.run document =
      ⟨chain.components.all fun component => (component.verdict document).errors.isEmpty,
        chain.components.flatMap fun component => (component.verdict document).errors,
        chain.components.flatMap fun component => (component.verdict document).warnings⟩ := by
    rw [run_eq_foldl, blocks, Verdict.foldl_merge, List.all_map, List.flatMap_map,
      List.flatMap_map]
    rfl
  rw [merged]
  refine ⟨rfl, rfl, ?_, ?_⟩
  · simp only [List.all_eq_true, List.isEmpty_iff, List.flatMap_eq_nil_iff]
  · simp only [List.all_eq_true, (Component.verdict_failsFast _ document).isValid]

/-! ### Two orders -/

namespace Verdict.Composed

variable {document : Document} {components reordered : List Component} {verdict other : Verdict}

theorem isValid_eq_of_perm (first : verdict.Composed document components)
    (second : other.Composed document reordered) (permutation : components.Perm reordered) :
    verdict.isValid = other.isValid := by
  rw [Bool.eq_iff_iff, first.isValid_iff_each, second.isValid_iff_each]
  exact forall_congr' fun component => imp_congr_left permutation.mem_iff

end Verdict.Composed

theorem Registry.Names.perm {registry other : Registry} {kind : InputKind}
    {capability : Capability} {components reordered : List Component}
    (names : registry.Names kind capability components)
    (otherNames : other.Names kind capability reordered)
    (permutation : ((registry.identifiers kind capability).map Component.ofIdentifier?).Perm
      ((other.identifiers kind capability).map Component.ofIdentifier?)) :
    components.Perm reordered := by
  rw [names, otherNames] at permutation
  exact (List.map_perm_map_iff fun _ _ => Option.some.inj).mp permutation

/-- Every validator comes to a verdict of at most one error, with no warnings beside it.
The verdict of an engine is composed of those of the configured validators, in their
order.  When the identifiers of two registries name the same validators in different
orders, the verdicts have the same blocks in these orders, and the same validity. -/
theorem Engine.validate_composes (document : Document) :
    (∀ component : Component,
        component.validator.run document = some (component.verdict document) ∧
          (component.verdict document).errors.length ≤ 1 ∧
          ((component.verdict document).errors ≠ [] →
            (component.verdict document).warnings = [])) ∧
      (∀ registry engine kind, ofRegistry registry = .ok engine →
        ∃ components, registry.Names kind .validator components ∧
          (engine.validate document kind).Composed document components) ∧
      ∀ registry engine other otherEngine kind,
        ofRegistry registry = .ok engine → ofRegistry other = .ok otherEngine →
        ((registry.identifiers kind .validator).map Component.ofIdentifier?).Perm
          ((other.identifiers kind .validator).map Component.ofIdentifier?) →
        (engine.validate document kind).isValid = (otherEngine.validate document kind).isValid ∧
          ∃ components reordered, components.Perm reordered ∧
            registry.Names kind .validator components ∧
            other.Names kind .validator reordered ∧
            (engine.validate document kind).Composed document components ∧
            (otherEngine.validate document kind).Composed document reordered := by
  have composed (registry : Registry) (engine : Engine) (kind : InputKind)
      (built : ofRegistry registry = .ok engine) :
      ∃ components, registry.Names kind .validator components ∧
        (engine.validate document kind).Composed document components := by
    obtain ⟨-, names, -⟩ := Registry.resolve_eq_ok (resolve_components built kind .validator)
    exact ⟨_, names, ValidatorChain.run_composed (chain_ofRegistry built kind).1 document⟩
  refine ⟨fun component => ?_, composed, ?_⟩
  · have failsFast := component.verdict_failsFast document
    exact ⟨component.run_eq_verdict document, failsFast.length_errors, failsFast.warnings⟩
  · intro registry engine other otherEngine kind built otherBuilt permutation
    obtain ⟨components, names, first⟩ := composed registry engine kind built
    obtain ⟨reordered, otherNames, second⟩ := composed other otherEngine kind otherBuilt
    have moved := names.perm otherNames permutation
    exact ⟨first.isValid_eq_of_perm second moved,
      components, reordered, moved, names, otherNames, first, second⟩

def Registry.backward : Registry where
  html := ⟨["a", "p", "heading", "title", "body", "head", "html"], ["html"]⟩
  markdown := ⟨["md"], ["md"]⟩

theorem Engine.validate_composes_backward :
    ∃ engine, ofRegistry .backward = .ok engine ∧
      ∃ page : Document, (standard.validate page .html).isValid =
        (engine.validate page .html).isValid ∧
      ∃ components reordered, components.Perm reordered ∧
        Registry.standard.Names .html .validator components ∧
        Registry.backward.Names .html .validator reordered ∧
        (standard.validate page .html).Composed page components ∧
        (engine.validate page .html).Composed page reordered := by
  have built : ofRegistry .standard = .ok standard := rfl
  obtain ⟨engine, backward⟩ := exists_ofRegistry_iff.mpr
    (by decide : Registry.check .backward = .ok ())
  let page : Document := .ofText "<html><body><p>a</p></p></body></html>".toList
  exact ⟨engine, backward, page, (validate_composes page).2.2 .standard standard .backward engine
    .html built backward (by decide)⟩

end PageCheck
