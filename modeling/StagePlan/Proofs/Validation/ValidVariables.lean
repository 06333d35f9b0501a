import StagePlan.Proofs.Validation.ValidInput

namespace StagePlan.Validation

/-!
What validation establishes about variables: those that a template declares have distinct names and
types that exist, and every value that they may take, the default as well as the one that a
configuration gives, is of the declared type.
-/

variable {declared : List Variable} {v : Variable} {template : Template}
  {configuration : Configuration} {schemaVersion : String} {ctx : Context}

structure ValidVariables (declared : List Variable) : Prop where
  distinct : (declared.map (·.name)).Nodup
  faultless : ∀ v ∈ declared, variableFaults v = []

theorem validVariables_of_clean (clean : Clean (validateVariables declared ctx)) :
    ValidVariables declared := by
  have named (v : Variable) (faultless : variableFaults v = []) : v.name.isEmpty = false := by
    simp only [variableFaults, List.append_eq_nil_iff, complain_eq_nil] at faultless
    exact faultless.1
  obtain ⟨distinct, faultless⟩ :=
    faultless_of_clean (findsEach_validateVariables declared) named clean
  exact ⟨distinct, faultless⟩

/-- A variable without faults has a type, and the type accepts the default. -/
theorem type_of_faultless (faultless : variableFaults v = []) :
    ∃ type, v.type? = some type ∧ ∀ value, v.default? = some value → type.accepts value = true := by
  simp only [variableFaults, List.append_eq_nil_iff] at faultless
  obtain ⟨-, typed⟩ := faultless
  cases known : v.type? with
  | none => simp [known] at typed
  | some type =>
      refine ⟨type, rfl, fun value default => ?_⟩
      simpa [known, default, complain_eq_nil] using typed

/-- What a configuration gives to a variable without faults is of its type, and only a variable with
a default may be left out. -/
theorem value_of_faultless {type : VariableType} (faultless : valueFaults configuration v = [])
    (known : v.type? = some type) :
    (∀ value, configuration.variableValues.find? v.name = some value → type.accepts value = true) ∧
      (configuration.variableValues.find? v.name = none → ∃ value, v.default? = some value) := by
  constructor
  · intro value given
    simpa [valueFaults, given, known, complain_eq_nil] using faultless
  · intro absent
    rw [← Option.isSome_iff_exists]
    simpa [valueFaults, absent, complain_eq_nil, Variable.isRequired] using faultless

theorem validVariables_of_no_errors
    (accepted : Diagnostics.hasErrors (validateTemplate schemaVersion template) = false) :
    ValidVariables template.declared := by
  obtain ⟨⟨_, cleanVariables⟩, -⟩ := rules_of_clean_template (show Clean _ from accepted)
  exact validVariables_of_clean cleanVariables

theorem valueFaults_of_no_errors
    (accepted :
      Diagnostics.hasErrors (validateConfiguration schemaVersion configuration template) = false)
    (listed : v ∈ template.declared) : valueFaults configuration v = [] := by
  simp only [validateConfiguration, Diagnostics.hasErrors, List.any_append, Bool.or_eq_false_iff]
    at accepted
  obtain ⟨⟨-, values⟩, -⟩ := accepted
  exact (findsEach_variableValuesRule configuration template).faultless (show Clean _ from values)
    listed

end StagePlan.Validation
