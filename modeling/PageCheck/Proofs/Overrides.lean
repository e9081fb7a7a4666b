import PageCheck.Proofs.Resolution

/-! Overrides.  A section that is a table holds each of its lists at a key of its own.  A
variable of the environment that overrides a list puts another at its key, and what stands
at the other three keys is left alone.  So a file read under such variables gives the
registry in which each list comes from the last variable that names it, or else from the
file; and loading returns this registry just when it passes its check.  A section may also
be a list of its two lists, and of such a section an override leaves nothing. -/

set_option autoImplicit false

namespace PageCheck

variable {kind other : InputKind} {capability wanted : Capability}

/-! ### Lists and their keys -/

def Capability.key (capability : Capability) : String :=
  s!"{capability.name}s"

theorem Capability.key_eq_iff : wanted.key = capability.key ↔ wanted = capability := by
  cases wanted <;> cases capability <;> decide

theorem InputKind.name_eq_iff : other.name = kind.name ↔ other = kind := by
  cases other <;> cases kind <;> decide

theorem ComponentLists.eq_of_identifiers {first second : ComponentLists}
    (same : ∀ capability, first.identifiers capability = second.identifiers capability) :
    first = second := by
  obtain ⟨validators, extractors⟩ := first
  rw [ComponentLists.mk.injEq]
  exact ⟨same .validator, same .extractor⟩

theorem Registry.eq_of_identifiers {first second : Registry}
    (same : ∀ kind capability,
      first.identifiers kind capability = second.identifiers kind capability) :
    first = second := by
  obtain ⟨html, markdown⟩ := first
  rw [Registry.mk.injEq]
  exact ⟨ComponentLists.eq_of_identifiers (same .html),
    ComponentLists.eq_of_identifiers (same .markdown)⟩

namespace Setting

private theorem lookup_replaced (entries : List (String × Setting)) (key wanted : String)
    (value : Setting) :
    (entries.map fun entry => if entry.1 = key then (key, value) else entry).lookup wanted =
      if wanted = key then (entries.lookup wanted).map fun _ => value
      else entries.lookup wanted := by
  induction entries with
  | nil => simp
  | cons entry rest ih =>
      obtain ⟨name, held⟩ := entry
      by_cases here : wanted = name
      · subst here
        by_cases replaced : wanted = key
        · simp [replaced]
        · simp [replaced]
      · have differs : (wanted == name) = false := by simpa using here
        rw [List.map_cons, List.lookup_cons, List.lookup_cons, ih, differs]
        by_cases replaced : name = key
        · rw [if_pos replaced, ← replaced, differs]
        · rw [if_neg replaced, differs]

theorem lookup_put (entries : List (String × Setting)) (key wanted : String)
    (value : Setting) :
    (put entries key value).lookup wanted =
      if wanted = key then some value else entries.lookup wanted := by
  unfold put
  split
  · rename_i held
    rw [lookup_replaced]
    by_cases same : wanted = key
    · obtain ⟨entry, member, named⟩ := List.any_eq_true.mp held
      have present : (entries.lookup wanted).isSome = true := by
        rw [List.lookup_isSome_iff]
        exact ⟨entry, member, by rw [same, beq_iff_eq]; exact (beq_iff_eq.mp named).symm⟩
      obtain ⟨found, foundEq⟩ := Option.isSome_iff_exists.mp present
      rw [if_pos same, if_pos same, foundEq]
      rfl
    · rw [if_neg same, if_neg same]
  · rename_i missing
    rw [List.lookup_append]
    by_cases same : wanted = key
    · have absent : entries.lookup wanted = none := by
        rw [List.lookup_eq_none_iff]
        intro entry member
        rw [bne_iff_ne, same]
        intro named
        exact missing (List.any_eq_true.mpr ⟨entry, member, beq_iff_eq.mpr named.symm⟩)
      rw [if_pos same, absent, same]
      simp
    · rw [if_neg same, List.lookup_cons, beq_eq_false_iff_ne.mpr same]
      simp

/-! ### Sections -/

variable {base formed : Registry} {entries : List (String × Setting)} {key : String}

theorem lists?_table_iff {name? : Setting → Option String} {lists : ComponentLists} :
    lists? name? (some (.table entries)) = some lists ↔
      ∀ capability : Capability,
        names? name? (member? entries capability.key) = some (lists.identifiers capability) := by
  change (do
      let validators ← names? name? (member? entries Capability.validator.key)
      let extractors ← names? name? (member? entries Capability.extractor.key)
      return (⟨validators, extractors⟩ : ComponentLists)) = some lists ↔ _
  constructor
  · intro known capability
    obtain ⟨validators, validatorsEq, rest⟩ := Option.bind_eq_some_iff.mp known
    obtain ⟨extractors, extractorsEq, same⟩ := Option.bind_eq_some_iff.mp rest
    cases same
    cases capability with
    | validator => exact validatorsEq
    | extractor => exact extractorsEq
  · intro known
    rw [known .validator, known .extractor]
    rfl

theorem registry?_table_iff {name? : Setting → Option String} :
    registry? name? (table entries) = some base ↔
      ∀ kind : InputKind, lists? name? (member? entries kind.name) = some (base.lists kind) := by
  change (do
      let html ← lists? name? (member? entries InputKind.html.name)
      let markdown ← lists? name? (member? entries InputKind.markdown.name)
      return (⟨html, markdown⟩ : Registry)) = some base ↔ _
  constructor
  · intro known kind
    obtain ⟨html, htmlEq, rest⟩ := Option.bind_eq_some_iff.mp known
    obtain ⟨markdown, markdownEq, same⟩ := Option.bind_eq_some_iff.mp rest
    cases same
    cases kind with
    | html => exact htmlEq
    | markdown => exact markdownEq
  · intro known
    rw [known .html, known .markdown]
    rfl

/-- The section of a kind is a table or missing. -/
def Keyed (settings : Setting) (kind : InputKind) : Prop :=
  ∀ part, member? settings.entries kind.name = some part → ∃ lists, part = .table lists

private theorem names?_of_keyed {part : Option Setting} {lists : ComponentLists}
    (keyed : ∀ held, part = some held → ∃ entries, held = .table entries)
    (known : lists? asName? part = some lists) (capability : Capability) :
    names? asName? (member? (part.getD .null).entries capability.key) =
      some (lists.identifiers capability) := by
  cases part with
  | none =>
      cases known
      cases capability <;> rfl
  | some held =>
      obtain ⟨entries, rfl⟩ := keyed held rfl
      exact lists?_table_iff.mp known capability

/-! ### What a path changes -/

theorem mapM_asName?_text (names : List String) : (names.map text).mapM asName? = some names := by
  induction names with
  | nil => rfl
  | cons name rest ih =>
      rw [List.map_cons, List.mapM_cons, ih]
      rfl

/-- A setting in a section changes the list at its key, and no other. -/
theorem registry?_setAt_section (known : registry? asName? (table entries) = some base)
    (keyed : (table entries).Keyed kind) {value : Setting} {steps : List Step}
    (listed : ∀ wanted : Capability, wanted.key = key →
      ∀ below, names? asName? (some (setAt value steps below)) =
        some (formed.identifiers kind wanted))
    (elsewhere : ∀ other wanted, ¬ (other = kind ∧ wanted.key = key) →
      formed.identifiers other wanted = base.identifiers other wanted) :
    registry? asName? (setAt value (.key kind.name :: .key key :: steps) (table entries)) =
      some formed := by
  have lists := registry?_table_iff.mp known
  refine registry?_table_iff.mpr fun other => ?_
  change lists? asName? ((put entries kind.name _).lookup other.name) = _
  rw [lookup_put]
  by_cases same : other = kind
  · subst same
    rw [if_pos rfl]
    refine lists?_table_iff.mpr fun wanted => ?_
    change names? asName? ((put _ key _).lookup wanted.key) = _
    rw [lookup_put]
    by_cases here : wanted.key = key
    · rw [if_pos here]
      exact listed wanted here _
    · rw [if_neg here]
      have unchanged := elsewhere other wanted fun both => here both.2
      exact (names?_of_keyed keyed (lists other) wanted).trans (congrArg some unchanged.symm)
  · rw [if_neg fun names => same (InputKind.name_eq_iff.mp names)]
    have unchanged : formed.lists other = base.lists other :=
      ComponentLists.eq_of_identifiers fun wanted => elsewhere other wanted fun both => same both.1
    rw [unchanged]
    exact lists other

theorem registry?_setAt_foreign (known : registry? asName? (table entries) = some base)
    (foreign : ∀ kind : InputKind, key ≠ kind.name) (value : Setting) (steps : List Step) :
    registry? asName? (setAt value (.key key :: steps) (table entries)) = some base := by
  refine registry?_table_iff.mpr fun kind => ?_
  change lists? asName? ((put entries key _).lookup kind.name) = _
  rw [lookup_put, if_neg (foreign kind).symm]
  exact registry?_table_iff.mp known kind

theorem Keyed.setAt (keyed : (table entries).Keyed kind) {value : Setting} {steps : List Step}
    (inside : key = kind.name → ∃ name rest, steps = .key name :: rest) :
    (setAt value (.key key :: steps) (table entries)).Keyed kind := by
  intro part found
  change (put entries key _).lookup kind.name = some part at found
  rw [lookup_put] at found
  by_cases here : kind.name = key
  · obtain ⟨name, rest, rfl⟩ := inside here.symm
    rw [if_pos here, Option.some.injEq] at found
    subst found
    exact ⟨_, rfl⟩
  · rw [if_neg here] at found
    exact keyed part found

theorem exists_pathOf (key : String) : ∃ name steps, pathOf key = .key name :: steps := by
  unfold pathOf
  cases found : path? key with
  | none => exact ⟨key, [], rfl⟩
  | some path =>
      obtain ⟨⟨name, rest⟩, -, steps⟩ := Option.bind_eq_some_iff.mp found
      obtain ⟨more, -, same⟩ := Option.bind_eq_some_iff.mp steps
      cases same
      exact ⟨name, more, rfl⟩

theorem exists_ofFile (file : Setting) : ∃ entries, ofFile file = .table entries := by
  have along (list held : List (String × Setting)) : ∃ entries,
      list.foldl (fun setting entry => setAt entry.2 (pathOf entry.1) setting) (.table held) =
        .table entries := by
    induction list generalizing held with
    | nil => exact ⟨held, rfl⟩
    | cons entry rest ih =>
        obtain ⟨name, steps, path⟩ := exists_pathOf entry.1
        rw [List.foldl_cons, path]
        exact ih _
  exact along file.entries []

end Setting

/-! ### Variables -/

namespace Environment

variable {name value : String} {environment : List (String × String)}

def listVariable (kind : InputKind) (capability : Capability) : String :=
  s!"markup_lint_{kind.name}__{capability.key}"

def Overrides (name : String) (kind : InputKind) (capability : Capability) : Prop :=
  lowerName name = (listVariable kind capability).toList

instance (name : String) (kind : InputKind) (capability : Capability) :
    Decidable (Overrides name kind capability) :=
  inferInstanceAs (Decidable (_ = _))

theorem Overrides.key? (overrides : Overrides name kind capability) :
    key? name = some s!"{kind.name}.{capability.key}" := by
  unfold Environment.key?
  rw [overrides]
  cases kind <;> cases capability <;> rfl

theorem Overrides.unique (overrides : Overrides name kind capability)
    (also : Overrides name other wanted) : other = kind ∧ wanted = capability := by
  have same := also.symm.trans overrides
  revert same
  cases kind <;> cases capability <;> cases other <;> cases wanted <;> decide

structure IsPlain (value : String) : Prop where
  notTrue : Text.lowerName value.toList ≠ "true"
  notFalse : Text.lowerName value.toList ≠ "false"
  notWhole : Numeral.integer? 10 value.toList = none
  notReal : Numeral.Real.read? value.toList = none

def parts (value : String) : List String :=
  (Text.splitAt ',' value.toList).map String.ofList

theorem valueOf_of_isPlain (plain : IsPlain value) (kind : InputKind)
    (capability : Capability) :
    valueOf s!"{kind.name}.{capability.key}" value =
      .list ((parts value).map Setting.text) := by
  have listed : listKeys.contains s!"{kind.name}.{capability.key}" = true := by
    cases kind <;> cases capability <;> decide
  unfold valueOf parts
  simp only [if_neg plain.notTrue, if_neg plain.notFalse, plain.notWhole, plain.notReal,
    if_pos listed, List.map_map, Function.comp_def]

/-- Where the value of a variable is put, if the variable is ours. -/
def target? (name : String) : Option (List Setting.Step) :=
  (Environment.key? name).map Setting.pathOf

def Reaches (name : String) (kind : InputKind) : Prop :=
  ∃ steps, target? name = some (.key kind.name :: steps)

/-- What the variable sets is neither a section nor a list of one nor a part of such a list. -/
def Spares (name : String) : Prop :=
  ∀ (kind : InputKind) (steps : List Setting.Step), target? name = some (.key kind.name :: steps) →
    ∃ key rest, steps = .key key :: rest ∧ ∀ capability : Capability, key ≠ capability.key

/-- The variables override lists by texts, or they leave all lists alone. -/
def OverridesLists (environment : List (String × String)) : Prop :=
  ∀ entry ∈ environment,
    ((∃ kind capability, Overrides entry.1 kind capability) ∧ IsPlain entry.2) ∨ Spares entry.1

theorem pathOf_listKey (kind : InputKind) (capability : Capability) :
    Setting.pathOf s!"{kind.name}.{capability.key}" = [.key kind.name, .key capability.key] := by
  cases kind <;> cases capability <;> decide

theorem target?_of_key? {key : String} (found : Environment.key? name = some key) :
    target? name = some (Setting.pathOf key) := by
  rw [target?, found]
  rfl

theorem Overrides.target? (overrides : Overrides name kind capability) :
    target? name = some [.key kind.name, .key capability.key] := by
  rw [target?_of_key? overrides.key?, pathOf_listKey]

theorem Spares.not_overrides (spares : Spares name) (kind : InputKind)
    (capability : Capability) : ¬ Overrides name kind capability := by
  intro overrides
  obtain ⟨key, rest, same, unlisted⟩ := spares kind _ overrides.target?
  cases same
  exact unlisted capability rfl

theorem override_of_key? {key : String} (found : Environment.key? name = some key) (value : String)
    (settings : Setting) :
    override [(name, value)] settings =
      Setting.setAt (valueOf key value) (Setting.pathOf key) settings := by
  unfold override
  rw [List.foldl_cons]
  simp only [found]
  rfl

theorem override_of_foreign (foreign : Environment.key? name = none) (value : String)
    (settings : Setting) : override [(name, value)] settings = settings := by
  unfold override
  rw [List.foldl_cons]
  simp only [foreign]
  rfl

def valueFor? (kind : InputKind) (capability : Capability) :
    List (String × String) → Option String
  | [] => none
  | (name, value) :: rest =>
      (valueFor? kind capability rest).or
        (if Overrides name kind capability then some value else none)

theorem valueFor?_of_unset
    (unset : ∀ entry ∈ environment, ¬ Overrides entry.1 kind capability) :
    valueFor? kind capability environment = none := by
  induction environment with
  | nil => rfl
  | cons entry rest ih =>
      rw [valueFor?, ih fun later member => unset later (List.mem_cons_of_mem _ member),
        if_neg (unset entry List.mem_cons_self)]
      rfl

theorem valueFor?_of_last (before : List (String × String)) {after : List (String × String)}
    (overrides : Overrides name kind capability)
    (last : ∀ entry ∈ after, ¬ Overrides entry.1 kind capability) :
    valueFor? kind capability (before ++ (name, value) :: after) = some value := by
  induction before with
  | nil =>
      rw [List.nil_append, valueFor?, valueFor?_of_unset last, if_pos overrides]
      rfl
  | cons entry rest ih =>
      rw [List.cons_append, valueFor?, ih]
      rfl

end Environment

/-! ### Registries under an environment -/

namespace Registry

variable {base : Registry} {environment : List (String × String)}

def ofLists (lists : InputKind → Capability → List String) : Registry where
  html := ⟨lists .html .validator, lists .html .extractor⟩
  markdown := ⟨lists .markdown .validator, lists .markdown .extractor⟩

theorem identifiers_ofLists (lists : InputKind → Capability → List String)
    (kind : InputKind) (capability : Capability) :
    (ofLists lists).identifiers kind capability = lists kind capability := by
  cases kind <;> cases capability <;> rfl

def overridden (base : Registry) (environment : List (String × String)) : Registry :=
  .ofLists fun kind capability =>
    ((Environment.valueFor? kind capability environment).map Environment.parts).getD
      (base.identifiers kind capability)

theorem identifiers_overridden (base : Registry) (environment : List (String × String))
    (kind : InputKind) (capability : Capability) :
    (base.overridden environment).identifiers kind capability =
      ((Environment.valueFor? kind capability environment).map Environment.parts).getD
        (base.identifiers kind capability) :=
  identifiers_ofLists _ kind capability

theorem overridden_cons (base : Registry) (entry : String × String)
    (rest : List (String × String)) :
    base.overridden (entry :: rest) = (base.overridden [entry]).overridden rest := by
  refine eq_of_identifiers fun kind capability => ?_
  simp only [identifiers_overridden, Environment.valueFor?, Option.none_or]
  cases Environment.valueFor? kind capability rest <;> rfl

theorem identifiers_overridden_single {name : String} (value : String)
    (overrides : Environment.Overrides name kind capability) (other : InputKind)
    (wanted : Capability) :
    (base.overridden [(name, value)]).identifiers other wanted =
      if other = kind ∧ wanted = capability then Environment.parts value
      else base.identifiers other wanted := by
  rw [identifiers_overridden, Environment.valueFor?, Environment.valueFor?, Option.none_or]
  by_cases same : other = kind ∧ wanted = capability
  · rw [if_pos same, same.1, same.2, if_pos overrides]
    rfl
  · rw [if_neg same, if_neg fun also => same (overrides.unique also)]
    rfl

theorem overridden_of_spares {name : String} (spares : Environment.Spares name) (value : String) :
    base.overridden [(name, value)] = base := by
  refine eq_of_identifiers fun kind capability => ?_
  rw [identifiers_overridden, Environment.valueFor?, Environment.valueFor?, Option.none_or,
    if_neg (spares.not_overrides kind capability)]
  rfl

open Setting (setAt asName? Keyed)

theorem registry?_override_single {name value : String} {entries : List (String × Setting)}
    (proper : Environment.OverridesLists [(name, value)])
    (known : Setting.registry? asName? (.table entries) = some base)
    (keyed : ∀ kind, Environment.Reaches name kind → (Setting.table entries).Keyed kind) :
    ∃ next, Environment.override [(name, value)] (.table entries) = .table next ∧
      Setting.registry? asName? (.table next) = some (base.overridden [(name, value)]) ∧
      ∀ kind, (Setting.table entries).Keyed kind → (Setting.table next).Keyed kind := by
  rcases proper _ (List.mem_singleton_self _) with ⟨⟨kind, capability, overrides⟩, plain⟩ | spares
  · have written := Environment.override_of_key? overrides.key? value (.table entries)
    rw [Environment.valueOf_of_isPlain plain, Environment.pathOf_listKey] at written
    refine ⟨_, written, ?_, fun _ table => table.setAt fun _ => ⟨_, _, rfl⟩⟩
    refine Setting.registry?_setAt_section known (keyed kind ⟨_, overrides.target?⟩) ?_ ?_
    · intro wanted same below
      rw [identifiers_overridden_single value overrides,
        if_pos ⟨rfl, Capability.key_eq_iff.mp same⟩]
      exact Setting.mapM_asName?_text _
    · intro other wanted different
      rw [identifiers_overridden_single value overrides, if_neg fun both =>
        different ⟨both.1, Capability.key_eq_iff.mpr both.2⟩]
  · rw [overridden_of_spares spares]
    cases found : Environment.key? name with
    | none => exact ⟨entries, Environment.override_of_foreign found value _, known, fun _ => id⟩
    | some key =>
        obtain ⟨first, steps, path⟩ := Setting.exists_pathOf key
        have target := Environment.target?_of_key? found
        rw [path] at target
        have written := Environment.override_of_key? found value (.table entries)
        rw [path] at written
        refine ⟨_, written, ?_, fun kind table => table.setAt fun here => ?_⟩
        · by_cases within : ∃ kind : InputKind, first = kind.name
          · obtain ⟨kind, rfl⟩ := within
            obtain ⟨inner, rest, rfl, unlisted⟩ := spares kind steps target
            exact Setting.registry?_setAt_section known (keyed kind ⟨_, target⟩)
              (fun wanted same => absurd same.symm (unlisted wanted)) fun _ _ _ => rfl
          · exact Setting.registry?_setAt_foreign known (not_exists.mp within) _ _
        · rw [here] at target
          obtain ⟨inner, rest, same, -⟩ := spares kind steps target
          exact ⟨inner, rest, same⟩

/-- Settings with an environment on top of them describe the registry that the environment
makes of the one they described. -/
theorem registry?_override (proper : Environment.OverridesLists environment)
    {entries : List (String × Setting)}
    (known : Setting.registry? asName? (.table entries) = some base)
    (keyed : ∀ kind, (∃ entry ∈ environment, Environment.Reaches entry.1 kind) →
      (Setting.table entries).Keyed kind) :
    Setting.registry? asName? (Environment.override environment (.table entries)) =
      some (base.overridden environment) := by
  induction environment generalizing base entries with
  | nil => exact known
  | cons entry rest ih =>
      have first : Environment.OverridesLists [entry] := fun single member =>
        proper single (List.mem_singleton.mp member ▸ List.mem_cons_self)
      obtain ⟨next, written, described, stays⟩ := registry?_override_single first known
        fun kind reaches => keyed kind ⟨entry, List.mem_cons_self, reaches⟩
      rw [overridden_cons]
      change Setting.registry? asName?
        (Environment.override rest (Environment.override [entry] _)) = _
      rw [written]
      exact ih (fun later member => proper later (List.mem_cons_of_mem _ member)) described
        fun kind ⟨later, member, reaches⟩ =>
          stays kind (keyed kind ⟨later, List.mem_cons_of_mem _ member, reaches⟩)

theorem ofText_eq_checked (proper : Environment.OverridesLists environment)
    {format : SettingFormat} {text : List Char} {file : Setting}
    (read : format.read? text = some file)
    (known : Setting.registry? asName? (Setting.ofFile file) = some base)
    (keyed : ∀ kind, (∃ entry ∈ environment, Environment.Reaches entry.1 kind) →
      (Setting.ofFile file).Keyed kind) :
    ofText environment format text =
      (base.overridden environment).check.map fun _ => base.overridden environment := by
  obtain ⟨entries, fileEq⟩ := Setting.exists_ofFile file
  rw [fileEq] at known keyed
  have described := registry?_override proper known keyed
  unfold ofText ofSettings
  rw [read]
  simp only [fileEq, described]
  cases (base.overridden environment).check <;> rfl

/-- Under variables that override lists, a file that describes a registry is loaded as the
registry in which each list is that of the last variable that names it, its value divided at
the commas, and that of the file where there is none; or loading fails as the check of this
registry does.  The sections that the variables reach have to be tables.  What is loaded, from
whatever file and under whatever environment, has passed its check. -/
theorem overrides_act_list_by_list (environment : List (String × String))
    (format : SettingFormat) (text : List Char) (file : Setting) (base : Registry)
    (read : format.read? text = some file)
    (known : Setting.registry? asName? (Setting.ofFile file) = some base)
    (proper : Environment.OverridesLists environment)
    (keyed : ∀ kind, (∃ entry ∈ environment, Environment.Reaches entry.1 kind) →
      (Setting.ofFile file).Keyed kind) :
    ∃ formed : Registry,
      (∀ kind capability,
        ((∀ entry ∈ environment, ¬ Environment.Overrides entry.1 kind capability) →
          formed.identifiers kind capability = base.identifiers kind capability) ∧
        ∀ before name value after, environment = before ++ (name, value) :: after →
          Environment.Overrides name kind capability →
          (∀ entry ∈ after, ¬ Environment.Overrides entry.1 kind capability) →
          formed.identifiers kind capability =
            (Text.splitAt ',' value.toList).map String.ofList) ∧
      ofText environment format text = (formed.check.map fun _ => formed) ∧
      (∀ (files : String → Id (Option (List UInt8))) (path name : String) (bytes : List UInt8),
        findFile files (path :: triedExtensions.map fun extension => s!"{path}.{extension}") =
          some (name, bytes) →
        (FilePath.extension? name.toList).bind SettingFormat.ofExtension? = some format →
        contents bytes = text →
        load files environment path = (formed.check.map fun _ => formed)) ∧
      (∀ environment format text loaded,
        ofText environment format text = .ok loaded → loaded.check = .ok ()) ∧
      ∀ (m : Type → Type) [Monad m] [LawfulMonad m] (files : String → m (Option (List UInt8)))
        (environment : List (String × String)) (path : String),
        Returns (fun outcome => ∀ loaded, outcome = .ok loaded → loaded.check = .ok ())
          (load files environment path) := by
  have loads := ofText_eq_checked proper read known keyed
  refine ⟨base.overridden environment, fun kind capability => ⟨fun unset => ?_, ?_⟩, loads, ?_,
    fun _ _ _ _ loaded => check_of_ofText loaded,
    fun m _ _ files environment path => load_returns_checked files environment path⟩
  · rw [identifiers_overridden, Environment.valueFor?_of_unset unset]
    rfl
  · intro before name value after parted overrides last
    rw [identifiers_overridden, parted, Environment.valueFor?_of_last before overrides last]
    rfl
  · intro files path name bytes found extended held
    rw [← loads, ← held]
    change (match findFile files _ with | none => _ | some (name, bytes) => _) = _
    rw [found]
    simp only [extended]
    rfl

def mixedFile : List Char :=
  "markdown = [['md'], ['md']]\n[html]\nvalidators = ['doctype', 'title']".toList

def mixed : Registry where
  html := ⟨["doctype", "title"], []⟩
  markdown := ⟨["md"], ["md"]⟩

def finishing : List (String × String) :=
  [("markup_lint_html__validators", "body"), ("HOME", "1"), ("MARKUP_LINT_HTML__OTHER", "7"),
    ("MARKUP_LINT_HTML__VALIDATORS", "html, body"), ("Markup_Lint_Html__Extractors", "html")]

private theorem exists_mixedSettings :
    ∃ settings, SettingFormat.toml.read? mixedFile = some settings ∧
      Setting.registry? asName? (Setting.ofFile settings) = some mixed ∧
      (Setting.ofFile settings).Keyed .html := by
  have facts : (SettingFormat.toml.read? mixedFile).any (fun settings =>
      decide (Setting.registry? asName? (Setting.ofFile settings) = some mixed) &&
        (Setting.member? (Setting.ofFile settings).entries InputKind.html.name).all
          fun part => !part.entries.isEmpty) = true := by decide +kernel
  cases read : SettingFormat.toml.read? mixedFile with
  | none =>
      rw [read] at facts
      cases facts
  | some settings =>
      rw [read, Option.any_some, Bool.and_eq_true, decide_eq_true_eq] at facts
      refine ⟨settings, rfl, facts.1, fun part found => ?_⟩
      have filled := facts.2
      rw [found, Option.all_some] at filled
      cases part with
      | table lists => exact ⟨lists, rfl⟩
      | _ => cases filled

private theorem overridesLists_finishing : Environment.OverridesLists finishing := by
  intro entry member
  simp only [finishing, List.mem_cons, List.not_mem_nil, or_false] at member
  rcases member with rfl | rfl | rfl | rfl | rfl
  · exact Or.inl ⟨⟨.html, .validator, by decide⟩, by decide, by decide, by decide +kernel,
      by decide +kernel⟩
  · refine Or.inr fun kind steps target => ?_
    rw [show Environment.target? "HOME" = none by decide] at target
    cases target
  · refine Or.inr fun kind steps target => ?_
    rw [show Environment.target? "MARKUP_LINT_HTML__OTHER" =
      some [.key "html", .key "other"] by decide] at target
    obtain ⟨-, rfl⟩ := List.cons.inj (Option.some.inj target)
    exact ⟨"other", [], rfl, fun capability => by cases capability <;> decide⟩
  · exact Or.inl ⟨⟨.html, .validator, by decide⟩, by decide, by decide, by decide +kernel,
      by decide +kernel⟩
  · exact Or.inl ⟨⟨.html, .extractor, by decide⟩, by decide, by decide, by decide +kernel,
      by decide +kernel⟩

private theorem not_reaches_markdown {entry : String × String} (member : entry ∈ finishing) :
    ¬ Environment.Reaches entry.1 .markdown := by
  have others : ∀ entry ∈ finishing, (Environment.target? entry.1).bind List.head? ≠
      some (.key InputKind.markdown.name) := by decide
  rintro ⟨steps, target⟩
  have other := others entry member
  rw [target] at other
  exact other rfl

theorem overrides_act_list_by_list_on_mixed :
    ∃ formed : Registry,
      formed.identifiers .html .validator = ["html", " body"] ∧
      formed.identifiers .html .extractor = ["html"] ∧
      formed.identifiers .markdown .validator = ["md"] ∧
      formed.identifiers .markdown .extractor = ["md"] ∧
      ofText finishing .toml mixedFile = (formed.check.map fun _ => formed) := by
  obtain ⟨settings, read, known, table⟩ := exists_mixedSettings
  have keyed : ∀ kind, (∃ entry ∈ finishing, Environment.Reaches entry.1 kind) →
      (Setting.ofFile settings).Keyed kind := by
    rintro (_ | _) ⟨entry, member, reaches⟩
    · exact table
    · exact absurd reaches (not_reaches_markdown member)
  obtain ⟨formed, lists, loads, -⟩ := overrides_act_list_by_list finishing .toml mixedFile
    settings mixed read known overridesLists_finishing keyed
  have twice := (lists .html .validator).2
    [("markup_lint_html__validators", "body"), ("HOME", "1"), ("MARKUP_LINT_HTML__OTHER", "7")]
    "MARKUP_LINT_HTML__VALIDATORS" "html, body" [("Markup_Lint_Html__Extractors", "html")] rfl
    (by decide) (by decide)
  have once := (lists .html .extractor).2
    [("markup_lint_html__validators", "body"), ("HOME", "1"), ("MARKUP_LINT_HTML__OTHER", "7"),
      ("MARKUP_LINT_HTML__VALIDATORS", "html, body")]
    "Markup_Lint_Html__Extractors" "html" [] rfl (by decide) (by decide)
  exact ⟨formed, twice, once, (lists .markdown .validator).1 (by decide),
    (lists .markdown .extractor).1 (by decide), loads⟩

def listedFile : List Char :=
  ("html = [['html'], ['html']]\n[markdown]\n" ++
    "validators = ['markdown']\nextractors = ['markdown']").toList

def listed : Registry where
  html := ⟨["html"], ["html"]⟩
  markdown := ⟨["markdown"], ["markdown"]⟩

/-- A variable puts a table in the place of a section that is a list, and so it takes the other
list of the section away. -/
theorem override_hides_other_list :
    ofText [] .toml listedFile = .ok listed ∧
    Environment.Overrides "MARKUP_LINT_HTML__VALIDATORS" .html .validator ∧
    Environment.IsPlain "html,body" ∧
    (listed.update .html .validator fun _ => ["html", "body"]).check = .ok () ∧
    ofText [("MARKUP_LINT_HTML__VALIDATORS", "html,body")] .toml listedFile =
      .error (.emptyList .html .extractor) := by
  refine ⟨?_, by decide, ⟨by decide, by decide, by decide +kernel, by decide +kernel⟩, ?_, ?_⟩
  · decide +kernel
  · decide +kernel
  · decide +kernel

end Registry

end PageCheck
