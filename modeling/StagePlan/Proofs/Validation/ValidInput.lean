import StagePlan.Proofs.Validation.Findings

namespace StagePlan.Validation

/-!
What a template and a configuration have in common of which validation reports no error: stages with
distinct ids and without faults, partials whose stages do nothing that only other stages may do, and
placeholders that all name a partial.
-/

variable {ctx : Context} {stages : List Stage} {stage : Stage} {p : Partial}
  {template : Template} {configuration : Configuration} {schemaVersion : String}

theorem memberFaults_eq_nil :
    memberFaults p stage = [] ↔ stage.injection? = none ∧ stage.loopWith? = none ∧
      stage.partialId? = none ∧ ∀ id ∈ stage.dependsOn, id ∈ p.stages.map (·.id) := by
  simp only [memberFaults, List.append_eq_nil_iff, complain_eq_nil, Option.isSome_eq_false_iff,
    Option.isNone_iff_eq_none, List.map_eq_nil_iff, List.filter_eq_nil_iff, and_assoc,
    List.contains_eq_mem, Bool.not_eq_true', decide_eq_false_iff_not, Decidable.not_not]

/-- A stage without faults does not both repeat and stand for a partial. -/
theorem loop_or_partial_of_faultless (faultless : stageFaults stage = []) :
    stage.loopWith? = none ∨ stage.partialId? = none := by
  simp only [stageFaults, List.append_eq_nil_iff, complain_eq_nil, Bool.and_eq_false_iff,
    Option.isSome_eq_false_iff, Option.isNone_iff_eq_none] at faultless
  exact faultless.2

/-- The rule of a stage without faults asks for one placement at most. -/
theorem placements_of_faultless (faultless : stageFaults stage = []) {rule : InjectionRule}
    (placed : stage.injection? = some rule) : rule.placements.length ≤ 1 := by
  simp only [stageFaults, List.append_eq_nil_iff] at faultless
  have unfaulted : placementFaults stage = [] := faultless.1.2
  simp only [placementFaults, placed] at unfaulted
  split at unfaulted
  · contradiction
  · rw [complain_eq_nil, decide_eq_false_iff_not] at unfaulted
    omega

structure ValidStages (stages : List Stage) : Prop where
  distinct : (stages.map (·.id)).Nodup
  faultless : ∀ stage ∈ stages, stageFaults stage = []

structure ValidPartial (p : Partial) : Prop where
  stages : ValidStages p.stages
  members : ∀ stage ∈ p.stages, memberFaults p stage = []

structure ValidInput (template : Template) (configuration : Configuration) : Prop where
  own : ValidStages template.stages
  added : ValidStages configuration.stages
  partials : ∀ p ∈ template.partials, ValidPartial p
  known : ∀ stage ∈ template.stages ++ configuration.stages, ∀ id, stage.partialId? = some id →
    ∃ p, template.partial? id = some p

theorem ValidInput.faultless (valid : ValidInput template configuration) :
    ∀ stage ∈ template.stages ++ configuration.stages, stageFaults stage = [] :=
  List.forall_mem_append.mpr ⟨valid.own.faultless, valid.added.faultless⟩

theorem validStages_of_clean (clean : Clean (validateStages stages ctx)) : ValidStages stages := by
  have named (stage : Stage) (faultless : stageFaults stage = []) : stage.id.isEmpty = false := by
    simp only [stageFaults, List.append_eq_nil_iff, complain_eq_nil] at faultless
    exact faultless.1.1.1.1
  obtain ⟨distinct, faultless⟩ := faultless_of_clean (findsEach_validateStages stages) named clean
  exact ⟨distinct, faultless⟩

/-- In a partial without errors, no stage does what only stages outside of partials may do. -/
theorem validPartial_of_clean (clean : Clean (validatePartial p ctx)) : ValidPartial p where
  stages := validStages_of_clean ((findsEach_memberRules p).finds.clean clean)
  members _ listed := (findsEach_memberRules p).faultless clean listed

theorem known_of_clean (clean : Clean (checkPartialReferences stages template ctx))
    (listed : stage ∈ stages) {id : String} (named : stage.partialId? = some id) :
    ∃ p, template.partial? id = some p := by
  have faultless := (findsEach_checkPartialReferences stages template).faultless clean listed
  simp only [referenceFaults, named, complain_eq_nil, Option.isNone_eq_false_iff] at faultless
  exact Option.isSome_iff_exists.mp faultless

theorem template_of_clean (clean : Clean (templateRule schemaVersion template ctx)) :
    ValidStages template.stages ∧ (∀ p ∈ template.partials, ValidPartial p) ∧
      ∀ stage ∈ template.stages, ∀ id, stage.partialId? = some id →
        ∃ p, template.partial? id = some p := by
  obtain ⟨-, ⟨_, cleanStages⟩, ⟨_, cleanReferences⟩, ⟨_, cleanPartials⟩⟩ :=
    rules_of_clean_template clean
  refine ⟨validStages_of_clean cleanStages, fun p member => ?_, fun stage listed id named =>
    known_of_clean cleanReferences listed named⟩
  obtain ⟨_, cleanPartial⟩ :=
    element_of_clean (findsEach_validatePartials template.partials) cleanPartials member
  exact validPartial_of_clean cleanPartial

theorem configuration_of_clean {ids : List String}
    (clean : Clean (configurationRule schemaVersion ids configuration ctx)) :
    ValidStages configuration.stages :=
  validStages_of_clean ((findsEach_looseness ids configuration.stages).finds.clean clean)

theorem validInput_of_no_errors
    (template_ok : Diagnostics.hasErrors (validateTemplate schemaVersion template) = false)
    (configuration_ok :
      Diagnostics.hasErrors (validateConfiguration schemaVersion configuration template) = false) :
    ValidInput template configuration := by
  simp only [validateConfiguration, Diagnostics.hasErrors, List.any_append, Bool.or_eq_false_iff]
    at configuration_ok
  obtain ⟨⟨structural, _⟩, references⟩ := configuration_ok
  obtain ⟨own, partials, known⟩ := template_of_clean template_ok
  refine ⟨own, configuration_of_clean structural, partials, fun stage listed id named => ?_⟩
  rcases List.mem_append.mp listed with listed | listed
  · exact known stage listed id named
  · exact known_of_clean references listed named

end StagePlan.Validation
