import Mathlib.Data.List.Basic
import Mathlib.Data.List.Forall2
import Mathlib.Data.List.Nodup
import PageCheck.Proofs.LetterCase
import PageCheck.Registry

/-! The defects of a list of identifiers.  A list either resolves to the components that its
identifiers name, or it has a first defect, and this is what resolving it reports.  What a
list resolves to, and where its first defect is, does not depend on how the identifiers are
written: letter case, white space around them and short names make no difference but for
the identifier that the error quotes. -/

set_option autoImplicit false

namespace PageCheck

namespace Registry

variable {kind : InputKind} {capability : Capability} {identifiers before : List String}
  {components resolved : List Component} {index : Nat} {defect : ConfigurationError}

/-! ### What a list resolves to -/

/-- The identifiers name these components in their order, which all support the capability and
differ from one another. -/
structure Resolves (capability : Capability) (identifiers : List String)
    (components : List Component) : Prop where
  names : identifiers.map Component.ofIdentifier? = components.map some
  supported : ∀ component ∈ components, component.supports capability = true
  distinct : components.Nodup

namespace Resolves

theorem nil (capability : Capability) : Resolves capability [] [] :=
  ⟨rfl, List.forall_mem_nil _, List.nodup_nil⟩

theorem unique {others : List Component} (done : Resolves capability identifiers components)
    (same : Resolves capability identifiers others) : components = others :=
  List.map_injective_iff.mpr (fun _ _ => Option.some.inj) (done.names.symm.trans same.names)

theorem length_eq (done : Resolves capability identifiers components) :
    identifiers.length = components.length := by
  simpa using congrArg List.length done.names

theorem getElem?_eq (done : Resolves capability identifiers components) (index : Nat) :
    identifiers[index]?.map Component.ofIdentifier? = components[index]?.map some := by
  rw [← List.getElem?_map, ← List.getElem?_map, done.names]

theorem concat {identifier : String} {component : Component}
    (done : Resolves capability before resolved)
    (named : Component.ofIdentifier? identifier = some component)
    (supported : component.supports capability = true) (fresh : component ∉ resolved) :
    Resolves capability (before ++ [identifier]) (resolved ++ [component]) where
  names := by
    rw [List.map_append, List.map_append, done.names, List.map_singleton, named,
      List.map_singleton]
  supported := by
    intro other member
    rcases List.mem_append.mp member with earlier | here
    · exact done.supported other earlier
    · exact List.mem_singleton.mp here ▸ supported
  distinct := by
    refine List.nodup_append.mpr ⟨done.distinct, List.nodup_singleton component, ?_⟩
    intro earlier member later here same
    exact fresh (List.mem_singleton.mp here ▸ same ▸ member)

end Resolves

/-! ### Defects -/

/-- What is wrong with the identifier at this place, if those ahead of it are in order.  It is
quoted as it is written. -/
inductive Defect (kind : InputKind) (capability : Capability) (identifiers : List String)
    (index : Nat) : ConfigurationError → Prop where
  | unknown {identifier : String} (here : identifiers[index]? = some identifier)
      (unnamed : Component.ofIdentifier? identifier = none) :
      Defect kind capability identifiers index (.unknown kind identifier)
  | wrongCapability {identifier : String} {component : Component}
      (here : identifiers[index]? = some identifier)
      (named : Component.ofIdentifier? identifier = some component)
      (unsupported : component.supports capability = false) :
      Defect kind capability identifiers index (.wrongCapability kind capability identifier)
  | duplicate {identifier other : String} {component : Component} {earlier : Nat}
      (here : identifiers[index]? = some identifier)
      (named : Component.ofIdentifier? identifier = some component)
      (supported : component.supports capability = true) (ahead : earlier < index)
      (there : identifiers[earlier]? = some other)
      (same : Component.ofIdentifier? other = some component) :
      Defect kind capability identifiers index (.duplicate kind capability identifier)

structure FirstDefect (kind : InputKind) (capability : Capability) (identifiers : List String)
    (index : Nat) (defect : ConfigurationError) : Prop where
  here : Defect kind capability identifiers index defect
  first : ∀ earlier < index, ∀ other, ¬ Defect kind capability identifiers earlier other

theorem Defect.unique {other : ConfigurationError}
    (found : Defect kind capability identifiers index defect)
    (same : Defect kind capability identifiers index other) : defect = other := by
  cases found <;> cases same <;> simp_all

theorem Defect.lt_length (found : Defect kind capability identifiers index defect) :
    index < identifiers.length := by
  cases found with
  | unknown here _ => exact (List.getElem?_eq_some_iff.mp here).1
  | wrongCapability here _ _ => exact (List.getElem?_eq_some_iff.mp here).1
  | duplicate here _ _ _ _ _ => exact (List.getElem?_eq_some_iff.mp here).1

theorem FirstDefect.unique {other : ConfigurationError} {place : Nat}
    (found : FirstDefect kind capability identifiers index defect)
    (same : FirstDefect kind capability identifiers place other) : defect = other := by
  rcases Nat.lt_trichotomy index place with earlier | rfl | later
  · exact absurd found.here (same.first index earlier defect)
  · exact found.here.unique same.here
  · exact absurd same.here (found.first place later other)

/-- Nothing is wrong with identifiers that have been resolved, whatever comes behind them. -/
theorem Resolves.not_defect (done : Resolves capability before resolved)
    (shorter : before <+: identifiers) (within : index < before.length) :
    ¬ Defect kind capability identifiers index defect := by
  obtain ⟨rest, rfl⟩ := shorter
  have named {place : Nat} {identifier : String} (inFront : place < before.length)
      (here : (before ++ rest)[place]? = some identifier) :
      ∃ component, resolved[place]? = some component ∧
        Component.ofIdentifier? identifier = some component := by
    rw [List.getElem?_append_left inFront] at here
    have same := done.getElem?_eq place
    rw [here, Option.map_some] at same
    obtain ⟨component, there, found⟩ := Option.map_eq_some_iff.mp same.symm
    exact ⟨component, there, found.symm⟩
  intro found
  cases found with
  | unknown here unnamed =>
      obtain ⟨component, -, known⟩ := named within here
      rw [unnamed] at known
      cases known
  | wrongCapability here known unsupported =>
      obtain ⟨component, there, alsoKnown⟩ := named within here
      rw [known, Option.some.injEq] at alsoKnown
      rw [alsoKnown, done.supported component (List.mem_of_getElem? there)] at unsupported
      cases unsupported
  | duplicate here known _ ahead there same =>
      obtain ⟨component, place, alsoKnown⟩ := named within here
      obtain ⟨other, otherPlace, otherKnown⟩ := named (Nat.lt_trans ahead within) there
      rw [known, Option.some.injEq] at alsoKnown
      rw [same, Option.some.injEq] at otherKnown
      have inside : index < resolved.length := done.length_eq ▸ within
      apply List.nodup_iff_getElem?_ne_getElem?.mp done.distinct _ _ ahead inside
      rw [place, otherPlace, ← alsoKnown, otherKnown]

/-! ### The run -/

theorem resolveFrom_cons (kind : InputKind) (done : Resolves capability before resolved)
    (identifier : String) (rest : List String) :
    (∃ component, Resolves capability (before ++ [identifier]) (resolved ++ [component]) ∧
        resolveFrom kind capability resolved (identifier :: rest) =
          resolveFrom kind capability (resolved ++ [component]) rest) ∨
      ∃ defect, Defect kind capability (before ++ identifier :: rest) before.length defect ∧
        resolveFrom kind capability resolved (identifier :: rest) = .error defect := by
  have here : (before ++ identifier :: rest)[before.length]? = some identifier := by simp
  rw [resolveFrom]
  cases named : Component.ofIdentifier? identifier with
  | none => exact .inr ⟨_, .unknown here named, rfl⟩
  | some component =>
      simp only
      cases supported : component.supports capability with
      | false =>
          rw [if_pos rfl]
          exact .inr ⟨_, .wrongCapability here named supported, rfl⟩
      | true =>
          rw [if_neg Bool.noConfusion]
          by_cases repeated : component ∈ resolved
          · rw [if_pos repeated]
            obtain ⟨earlier, there⟩ := List.mem_iff_getElem?.mp repeated
            have ahead : earlier < before.length :=
              done.length_eq ▸ (List.getElem?_eq_some_iff.mp there).1
            have same := done.getElem?_eq earlier
            rw [there, Option.map_some] at same
            obtain ⟨other, listed, otherNamed⟩ := Option.map_eq_some_iff.mp same
            refine .inr ⟨_, .duplicate here named supported ahead ?_ otherNamed, rfl⟩
            rw [List.getElem?_append_left ahead, listed]
          · rw [if_neg repeated]
            exact .inl ⟨component, done.concat named supported repeated, rfl⟩

/-- A run resolves all that is left, or it stops at the first defect. -/
theorem resolveFrom_outcome (kind : InputKind) (done : Resolves capability before resolved)
    (rest : List String) :
    (∃ components, Resolves capability (before ++ rest) components ∧
        resolveFrom kind capability resolved rest = .ok components) ∨
      ∃ index defect, FirstDefect kind capability (before ++ rest) index defect ∧
        resolveFrom kind capability resolved rest = .error defect := by
  induction rest generalizing before resolved with
  | nil =>
      rw [List.append_nil]
      exact .inl ⟨resolved, done, rfl⟩
  | cons identifier rest ih =>
      rcases resolveFrom_cons kind done identifier rest with
        ⟨component, further, next⟩ | ⟨defect, found, failed⟩
      · rw [List.append_cons, next]
        exact ih further
      · exact .inr ⟨before.length, defect,
          ⟨found, fun earlier within other => done.not_defect (List.prefix_append _ _) within⟩, failed⟩

theorem resolve_outcome (registry : Registry) (kind : InputKind) (capability : Capability) :
    (registry.identifiers kind capability = [] ∧
        registry.resolve kind capability = .error (.emptyList kind capability)) ∨
      registry.identifiers kind capability ≠ [] ∧
        ((∃ components, Resolves capability (registry.identifiers kind capability) components ∧
            registry.resolve kind capability = .ok components) ∨
          ∃ index defect,
            FirstDefect kind capability (registry.identifiers kind capability) index defect ∧
            registry.resolve kind capability = .error defect) := by
  unfold resolve
  cases registry.identifiers kind capability with
  | nil => exact .inl ⟨rfl, rfl⟩
  | cons identifier rest =>
      exact .inr ⟨List.cons_ne_nil _ _, resolveFrom_outcome kind (.nil capability) _⟩

theorem resolve_eq_ok_iff {registry : Registry} :
    registry.resolve kind capability = .ok components ↔
      registry.identifiers kind capability ≠ [] ∧
        Resolves capability (registry.identifiers kind capability) components := by
  constructor
  · intro ran
    rcases registry.resolve_outcome kind capability with
      ⟨-, failed⟩ | ⟨nonempty, ⟨found, done, same⟩ | ⟨index, defect, -, failed⟩⟩
    · rw [failed] at ran
      cases ran
    · rw [same, Except.ok.injEq] at ran
      exact ⟨nonempty, ran ▸ done⟩
    · rw [failed] at ran
      cases ran
  · rintro ⟨nonempty, done⟩
    rcases registry.resolve_outcome kind capability with
      ⟨empty, -⟩ | ⟨-, ⟨found, same, ran⟩ | ⟨index, defect, first, -⟩⟩
    · exact absurd empty nonempty
    · rw [ran, done.unique same]
    · exact absurd first.here (done.not_defect List.prefix_rfl first.here.lt_length)

theorem resolve_eq_error_iff {registry : Registry} :
    registry.resolve kind capability = .error defect ↔
      (registry.identifiers kind capability = [] ∧ defect = .emptyList kind capability) ∨
        ∃ index,
          FirstDefect kind capability (registry.identifiers kind capability) index defect := by
  rcases registry.resolve_outcome kind capability with
    ⟨empty, ran⟩ | ⟨nonempty, ⟨components, done, ran⟩ | ⟨index, found, first, ran⟩⟩
  · rw [ran, Except.error.injEq]
    constructor
    · rintro rfl
      exact .inl ⟨empty, rfl⟩
    · rintro (⟨-, rfl⟩ | ⟨index, first⟩)
      · rfl
      · have inside := first.here.lt_length
        rw [empty] at inside
        exact absurd inside (Nat.not_lt_zero index)
  · rw [ran]
    refine ⟨nofun, ?_⟩
    rintro (⟨empty, -⟩ | ⟨index, first⟩)
    · exact absurd empty nonempty
    · exact absurd first.here (done.not_defect List.prefix_rfl first.here.lt_length)
  · rw [ran, Except.error.injEq]
    constructor
    · rintro rfl
      exact .inr ⟨index, first⟩
    · rintro (⟨empty, -⟩ | ⟨place, same⟩)
      · exact absurd empty nonempty
      · exact first.unique same

end Registry

/-! ### Other spellings -/

/-- The identifiers differ in letter case, in the white space around them or in that one is a
short name of the component that the other names, or in several of these ways. -/
inductive Component.Interchangeable : String → String → Prop where
  | letterCase {identifier other : String}
      (lowered : Text.lower identifier.toList = Text.lower other.toList) :
      Interchangeable identifier other
  | whiteSpace {identifier other : String}
      (trimmed : Text.trim identifier.toList = Text.trim other.toList) :
      Interchangeable identifier other
  | shortName {identifier other : String} {component : Component}
      (listed : (identifier, component) ∈ Component.identifiers)
      (alsoListed : (other, component) ∈ Component.identifiers) :
      Interchangeable identifier other
  | trans {identifier middle other : String} (first : Interchangeable identifier middle)
      (second : Interchangeable middle other) : Interchangeable identifier other

theorem Component.ofIdentifier?_of_mem {entry : String × Component}
    (listed : entry ∈ Component.identifiers) : ofIdentifier? entry.1 = some entry.2 := by
  have each : ∀ entry ∈ identifiers, ofIdentifier? entry.1 = some entry.2 := by decide +kernel
  exact each entry listed

theorem Component.Interchangeable.ofIdentifier?_eq {identifier other : String}
    (same : Interchangeable identifier other) :
    ofIdentifier? identifier = ofIdentifier? other := by
  induction same with
  | letterCase lowered =>
      unfold ofIdentifier? Text.lowerName
      rw [← Text.trim_lower, ← Text.trim_lower, lowered]
  | whiteSpace trimmed =>
      unfold ofIdentifier?
      rw [trimmed]
  | shortName listed alsoListed =>
      rw [ofIdentifier?_of_mem listed, ofIdentifier?_of_mem alsoListed]
  | trans _ _ first second => exact first.trans second

def ConfigurationError.quoting (identifier : String) : ConfigurationError → ConfigurationError
  | .duplicate kind capability _ => .duplicate kind capability identifier
  | .unknown kind _ => .unknown kind identifier
  | .wrongCapability kind capability _ => .wrongCapability kind capability identifier
  | .emptyList kind capability => .emptyList kind capability
  | .load => .load

namespace Registry

variable {kind : InputKind} {capability : Capability} {identifiers others : List String}
  {components : List Component} {index : Nat} {defect : ConfigurationError}

theorem map_ofIdentifier?_eq
    (spellings : List.Forall₂ Component.Interchangeable identifiers others) :
    identifiers.map Component.ofIdentifier? = others.map Component.ofIdentifier? := by
  induction spellings with
  | nil => rfl
  | cons same _ ih => rw [List.map_cons, List.map_cons, same.ofIdentifier?_eq, ih]

theorem exists_other
    (same : identifiers.map Component.ofIdentifier? = others.map Component.ofIdentifier?)
    {identifier : String} (here : identifiers[index]? = some identifier) :
    ∃ other, others[index]? = some other ∧
      Component.ofIdentifier? other = Component.ofIdentifier? identifier := by
  have place := congrArg (·[index]?) same
  simp only [List.getElem?_map, here, Option.map_some] at place
  exact Option.map_eq_some_iff.mp place.symm

/-- What is wrong at a place depends on what the identifiers name. -/
theorem Defect.respell
    (same : identifiers.map Component.ofIdentifier? = others.map Component.ofIdentifier?)
    (found : Defect kind capability identifiers index defect) :
    ∃ quoted, others[index]? = some quoted ∧
      Defect kind capability others index (defect.quoting quoted) := by
  cases found with
  | unknown here unnamed =>
      obtain ⟨quoted, place, alike⟩ := exists_other same here
      exact ⟨quoted, place, .unknown place (alike.trans unnamed)⟩
  | wrongCapability here named unsupported =>
      obtain ⟨quoted, place, alike⟩ := exists_other same here
      exact ⟨quoted, place, .wrongCapability place (alike.trans named) unsupported⟩
  | duplicate here named supported ahead there repeated =>
      obtain ⟨quoted, place, alike⟩ := exists_other same here
      obtain ⟨earlier, earlierPlace, earlierAlike⟩ := exists_other same there
      exact ⟨quoted, place, .duplicate place (alike.trans named) supported ahead earlierPlace
        (earlierAlike.trans repeated)⟩

theorem FirstDefect.respell
    (same : identifiers.map Component.ofIdentifier? = others.map Component.ofIdentifier?)
    (found : FirstDefect kind capability identifiers index defect) :
    ∃ quoted, others[index]? = some quoted ∧
      FirstDefect kind capability others index (defect.quoting quoted) := by
  obtain ⟨quoted, place, here⟩ := found.here.respell same
  refine ⟨quoted, place, here, fun earlier ahead other wrong => ?_⟩
  obtain ⟨_, -, before⟩ := wrong.respell same.symm
  exact found.first earlier ahead _ before

/-! ### Exactness -/

theorem Resolves.respell
    (same : identifiers.map Component.ofIdentifier? = others.map Component.ofIdentifier?) :
    Resolves capability identifiers components ↔ Resolves capability others components :=
  ⟨fun done => ⟨same.symm.trans done.names, done.supported, done.distinct⟩,
    fun done => ⟨same.trans done.names, done.supported, done.distinct⟩⟩

/-- A list resolves to components just when there are identifiers and these name the components,
one each, as the capability demands; an empty list fails, and any other fails with its first
defect.  With other spellings of its identifiers a list gives the same components or fails at
the same place for the same reason. -/
theorem resolve_is_exact (registry : Registry) (kind : InputKind) (capability : Capability) :
    (∀ components, registry.resolve kind capability = .ok components ↔
      registry.identifiers kind capability ≠ [] ∧
        Resolves capability (registry.identifiers kind capability) components) ∧
    (∀ defect, registry.resolve kind capability = .error defect ↔
      (registry.identifiers kind capability = [] ∧ defect = .emptyList kind capability) ∨
        ∃ index,
          FirstDefect kind capability (registry.identifiers kind capability) index defect) ∧
    ∀ other : Registry,
      List.Forall₂ Component.Interchangeable (registry.identifiers kind capability)
        (other.identifiers kind capability) →
      (∀ components, registry.resolve kind capability = .ok components ↔
        other.resolve kind capability = .ok components) ∧
      ∀ index defect,
        FirstDefect kind capability (registry.identifiers kind capability) index defect →
          registry.resolve kind capability = .error defect ∧
          ∃ quoted, (other.identifiers kind capability)[index]? = some quoted ∧
            FirstDefect kind capability (other.identifiers kind capability) index
              (defect.quoting quoted) ∧
            other.resolve kind capability = .error (defect.quoting quoted) := by
  refine ⟨fun _ => resolve_eq_ok_iff, fun _ => resolve_eq_error_iff, fun other spellings => ?_⟩
  have same := map_ofIdentifier?_eq spellings
  constructor
  · intro components
    rw [resolve_eq_ok_iff, resolve_eq_ok_iff, Resolves.respell same, ne_eq, ne_eq,
      ← List.length_eq_zero_iff, ← List.length_eq_zero_iff, spellings.length_eq]
  · intro index defect first
    obtain ⟨quoted, place, respelled⟩ := first.respell same
    exact ⟨resolve_eq_error_iff.mpr (.inr ⟨index, first⟩), quoted, place, respelled,
      resolve_eq_error_iff.mpr (.inr ⟨index, respelled⟩)⟩

def repetitive : Registry where
  html := ⟨["doctype", "p", " Paragraph"], ["html"]⟩
  markdown := ⟨["markdown"], ["markdown"]⟩

def respelled : Registry where
  html := ⟨["doctype", "paragraph", "P "], ["HTML"]⟩
  markdown := ⟨["md"], ["md"]⟩

theorem resolve_is_exact_of_respelled :
    List.Forall₂ Component.Interchangeable (repetitive.identifiers .html .validator)
        (respelled.identifiers .html .validator) ∧
      (∃ index, FirstDefect .html .validator (repetitive.identifiers .html .validator) index
          (.duplicate .html .validator " Paragraph") ∧
        (respelled.identifiers .html .validator)[index]? = some "P " ∧
        respelled.resolve .html .validator = .error (.duplicate .html .validator "P ")) ∧
      respelled.resolve .html .extractor = .ok [.html] := by
  have long : Component.Interchangeable "p" "paragraph" :=
    .shortName (by decide : ("p", .paragraph) ∈ Component.identifiers) (by decide)
  have short : Component.Interchangeable " Paragraph" "P " := by
    have bare : Component.Interchangeable " Paragraph" "Paragraph" := .whiteSpace (by decide)
    have lower : Component.Interchangeable "Paragraph" "paragraph" := .letterCase (by decide)
    have letter : Component.Interchangeable "paragraph" "p" :=
      .shortName (by decide : ("paragraph", .paragraph) ∈ Component.identifiers) (by decide)
    have upper : Component.Interchangeable "p" "P" := .letterCase (by decide)
    exact (bare.trans lower).trans (letter.trans (upper.trans (.whiteSpace (by decide))))
  have validators : List.Forall₂ Component.Interchangeable
      (repetitive.identifiers .html .validator) (respelled.identifiers .html .validator) :=
    .cons (.letterCase rfl) (.cons long (.cons short .nil))
  have extractors : List.Forall₂ Component.Interchangeable
      (repetitive.identifiers .html .extractor) (respelled.identifiers .html .extractor) :=
    .cons (.letterCase (by decide)) .nil
  obtain ⟨-, errors, respell⟩ := resolve_is_exact repetitive .html .validator
  obtain ⟨-, -, respellExtractors⟩ := resolve_is_exact repetitive .html .extractor
  rcases (errors _).mp (by decide : repetitive.resolve .html .validator =
      .error (.duplicate .html .validator " Paragraph")) with ⟨empty, -⟩ | ⟨index, first⟩
  · cases empty
  · obtain ⟨-, quoted, place, found, failed⟩ := (respell respelled validators).2 index _ first
    have ran : respelled.resolve .html .validator =
        .error (.duplicate .html .validator "P ") := by decide
    obtain rfl : quoted = "P " := by
      rw [ran] at failed
      cases failed
      rfl
    exact ⟨validators, ⟨index, first, place, failed⟩,
      ((respellExtractors respelled extractors).1 _).mp (by decide)⟩

end Registry

end PageCheck
