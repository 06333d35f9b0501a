import StagePlan.Proofs.Validation.ValidVariables
import StagePlan.Resolution.Engine

namespace StagePlan

open StagePlan.Validation

/-!
The scope in which a template and a configuration are resolved. After validation every variable of
the template has a value of its type there, and no other names are bound than those of the variables
and of the values that the configuration gives.
-/

variable {engine : Engine} {template : Template} {configuration : Configuration}

/-- The default of a variable is what the defaults bind to its name, as no other variable has it. -/
theorem find?_defaults {declared : List Variable} (distinct : (declared.map (·.name)).Nodup)
    {v : Variable} (listed : v ∈ declared) :
    Bindings.find? v.name
      (declared.filterMap fun v => v.default?.map fun value => (v.name, value)) = v.default? := by
  induction declared with
  | nil => simp at listed
  | cons first rest ih =>
      rw [List.map_cons, List.nodup_cons] at distinct
      obtain ⟨fresh, distinct⟩ := distinct
      rw [List.filterMap_cons]
      rcases List.mem_cons.mp listed with rfl | later
      · cases default : v.default? with
        | some value => simp
        | none =>
            refine Bindings.find?_eq_none.mpr fun bound => fresh ?_
            obtain ⟨⟨name, value⟩, given, rfl⟩ := List.mem_map.mp bound
            obtain ⟨other, behind, same⟩ := List.mem_filterMap.mp given
            obtain ⟨_, -, entry⟩ := Option.map_eq_some_iff.mp same
            have repeated : other.name = v.name := congrArg Prod.fst entry
            exact repeated ▸ List.mem_map_of_mem behind
      · have other : first.name ≠ v.name := by
          intro same
          exact fresh (same ▸ List.mem_map_of_mem later)
        cases first.default? with
        | none => exact ih distinct later
        | some value => simpa [Bindings.find?, other] using ih distinct later

theorem distinct_defaults {declared : List Variable} (distinct : (declared.map (·.name)).Nodup) :
    Bindings.Distinct
      (declared.filterMap fun v => v.default?.map fun value => (v.name, value)) := by
  have listed : List.Sublist (Bindings.names
      (declared.filterMap fun v => v.default?.map fun value => (v.name, value)))
      (declared.map (·.name)) := by
    induction declared with
    | nil => exact List.Sublist.refl _
    | cons first rest ih =>
        have shorter := ih (List.nodup_cons.mp distinct).2
        rw [List.filterMap_cons]
        cases first.default? with
        | none => exact shorter.cons _
        | some value => exact shorter.cons_cons _
  exact distinct.sublist listed

/-- A name stands for what the configuration gives, and for the default of its variable if it gives
nothing. -/
theorem find?_resolveContext (declared : (template.declared.map (·.name)).Nodup)
    (distinct : configuration.variableValues.Distinct) {v : Variable}
    (listed : v ∈ template.declared) :
    (resolveContext template configuration).scope.find? v.name =
      (configuration.variableValues.find? v.name).or v.default? := by
  rw [resolveContext, Bindings.find?_bindAll distinct, Template.defaultScope,
    Bindings.ofPairs_of_distinct (distinct_defaults declared), find?_defaults declared listed]

theorem mem_names_resolveContext {name : String} :
    name ∈ (resolveContext template configuration).scope.names ↔
      (∃ v ∈ template.declared, v.name = name ∧ v.default? ≠ none) ∨
        name ∈ configuration.variableValues.names := by
  rw [resolveContext, Bindings.mem_names_bindAll, Template.defaultScope, Bindings.mem_names_ofPairs]
  refine or_congr_left ⟨fun bound => ?_, fun ⟨v, listed, named, default⟩ => ?_⟩
  · obtain ⟨⟨_, value⟩, given, rfl⟩ := List.mem_map.mp bound
    obtain ⟨v, listed, same⟩ := List.mem_filterMap.mp given
    obtain ⟨_, default, entry⟩ := Option.map_eq_some_iff.mp same
    cases entry
    exact ⟨v, listed, rfl, by simp [default]⟩
  · obtain ⟨value, default⟩ := Option.ne_none_iff_exists'.mp default
    exact List.mem_map.mpr ⟨(name, value),
      List.mem_filterMap.mpr ⟨v, listed, by simp [default, named]⟩, rfl⟩

theorem resolveContext_binds_declared (distinct : configuration.variableValues.Distinct)
    (accepted : Diagnostics.hasErrors (engine.validate template configuration) = false) :
    let scope := (resolveContext template configuration).scope
    (∀ v ∈ template.declared, ∃ type value, v.type? = some type ∧
      scope.find? v.name = some value ∧ type.accepts value = true ∧
      (configuration.variableValues.find? v.name).or v.default? = some value) ∧
    (∀ name value, configuration.variableValues.find? name = some value →
      scope.find? name = some value) ∧
    (∀ name, name ∈ scope.names ↔
      name ∈ template.declared.map (·.name) ∨ name ∈ configuration.variableValues.names) ∧
    scope.Distinct := by
  intro scope
  rw [Engine.validate, Diagnostics.hasErrors, List.any_append, Bool.or_eq_false_iff] at accepted
  obtain ⟨template_ok, configuration_ok⟩ := accepted
  have valid : ValidVariables template.declared := validVariables_of_no_errors template_ok
  have declared : ∀ v ∈ template.declared, ∃ type value, v.type? = some type ∧
      scope.find? v.name = some value ∧ type.accepts value = true ∧
      (configuration.variableValues.find? v.name).or v.default? = some value := by
    intro v listed
    obtain ⟨type, known, default_ok⟩ := type_of_faultless (valid.faultless v listed)
    obtain ⟨given_ok, left_out⟩ :=
      value_of_faultless (valueFaults_of_no_errors configuration_ok listed) known
    have found := find?_resolveContext valid.distinct distinct listed
    cases given : configuration.variableValues.find? v.name with
    | some value =>
        rw [given] at found
        exact ⟨type, value, known, found, given_ok value given, rfl⟩
    | none =>
        obtain ⟨value, default⟩ := left_out given
        rw [given, default] at found
        exact ⟨type, value, known, found, default_ok value default, default⟩
  refine ⟨declared, ?given, ?names, ?once⟩
  case given =>
    intro name value given
    change (resolveContext template configuration).scope.find? name = some value
    rw [resolveContext, Bindings.find?_bindAll distinct, given, Option.some_or]
  case names =>
    intro name
    rw [mem_names_resolveContext]
    constructor
    · rintro (⟨v, listed, rfl, -⟩ | given)
      · exact .inl (List.mem_map_of_mem listed)
      · exact .inr given
    · rintro (named | given)
      · obtain ⟨v, listed, rfl⟩ := List.mem_map.mp named
        obtain ⟨_, value, _, found, _⟩ := declared v listed
        exact mem_names_resolveContext.mp (Bindings.mem_names_of_find? found)
      · exact .inr given
  case once => exact Bindings.distinct_bindAll (Bindings.distinct_ofPairs _) _

/-- A template with a variable of each kind: one that is left to its default, one that is given, and
one whose default is replaced. -/
def sized : Template where
  schemaVersion := "1"
  id := "sized"
  declared := [
    { name := "replicas", typeName := "int", default? := some (.ofInt 2) },
    { name := "region", typeName := "string" },
    { name := "zones", typeName := "list", default? := some (.list []) }]

def sizedConfiguration : Configuration where
  schemaVersion := "1"
  pipeline := { application? := some "orders" }
  variableValues := [("zones", .list [.string "a"]), ("region", .string "eu"), ("owner", .null)]

theorem resolveContext_binds_declared_sized :
    let scope := (resolveContext sized sizedConfiguration).scope
    sizedConfiguration.variableValues.Distinct ∧
      Diagnostics.hasErrors (({} : Engine).validate sized sizedConfiguration) = false ∧
      scope.find? "replicas" = some (.ofInt 2) ∧
      scope.find? "zones" = some (.list [.string "a"]) ∧
      ∀ name, name ∈ scope.names ↔
        name ∈ ["replicas", "region", "zones"] ∨ name ∈ ["zones", "region", "owner"] := by
  intro scope
  have distinct : sizedConfiguration.variableValues.Distinct := by
    unfold Bindings.Distinct
    decide
  have accepted :
      Diagnostics.hasErrors (({} : Engine).validate sized sizedConfiguration) = false := by
    decide +kernel
  obtain ⟨declared, given, names, -⟩ := resolveContext_binds_declared distinct accepted
  obtain ⟨_, value, -, found, -, same⟩ := declared _ List.mem_cons_self
  refine ⟨distinct, accepted, ?_, given "zones" _ rfl, names⟩
  cases same
  exact found

end StagePlan
