import StagePlan.Proofs.Graph.Failure
import StagePlan.Proofs.Resolution.Steps
import StagePlan.Proofs.Validation.OnlyErrors

namespace StagePlan

open StagePlan.Graph StagePlan.Validation

/-!
Replaced stages. What a configuration replaces leaves no trace: two templates that differ in nothing
but stages with ids of the configuration resolve alike. The replaced stages go through rendering as
they are and are then merged away, so that two runs agree step by step on all other stages.
-/

/-- Lists with the same ids in the same order, and with the same stages but for those ids. -/
def AgreeBut (ids : List String) : List Stage → List Stage → Prop :=
  List.Forall₂ fun stage other => other.id = stage.id ∧ (stage.id ∉ ids → other = stage)

variable {ids : List String} {stages others : List Stage} {s : StageRenderer}
  {own ownOthers added : List RenderedStage} {template : Template} {configuration : Configuration}
  {engine : Engine}

namespace AgreeBut

theorem refl (stages : List Stage) : AgreeBut ids stages stages :=
  List.forall₂_same.mpr fun _ _ => ⟨rfl, fun _ => rfl⟩

theorem ids_eq (agree : AgreeBut ids stages others) : others.map (·.id) = stages.map (·.id) := by
  induction agree with
  | nil => rfl
  | cons first _ ih => rw [List.map_cons, List.map_cons, first.1, ih]

theorem set {position : Nat} {old new : Stage} (found : stages[position]? = some old)
    (same : new.id = old.id) (named : old.id ∈ ids) :
    AgreeBut ids stages (stages.set position new) := by
  induction stages generalizing position with
  | nil => simp at found
  | cons first rest ih =>
      cases position with
      | zero =>
          obtain rfl : first = old := by simpa using found
          exact .cons ⟨same, fun unnamed => absurd named unnamed⟩ (refl rest)
      | succ position => exact .cons ⟨rfl, fun _ => rfl⟩ (ih (by simpa using found))

/-- A list of stages that has all of the ids takes the place of all that may differ. -/
theorem mergedStages_eq {replacing : List Stage}
    (agree : AgreeBut (replacing.map (·.id)) stages others) :
    mergedStages others replacing = mergedStages stages replacing := by
  have replaced : others.map (fun stage => (replacing.find? fun s => s.id = stage.id).getD stage) =
      stages.map fun stage => (replacing.find? fun s => s.id = stage.id).getD stage := by
    induction agree with
    | nil => rfl
    | @cons stage other _ _ first _ ih =>
        obtain ⟨same, equal⟩ := first
        rw [List.map_cons, List.map_cons, ih, same]
        cases found : replacing.find? fun s => s.id = stage.id with
        | some replacement => rfl
        | none =>
            have unnamed : stage.id ∉ replacing.map (·.id) := by
              simpa [List.find?_eq_none] using found
            rw [equal unnamed]
  rw [mergedStages, mergedStages, replaced, agree.ids_eq]

theorem compile_eq {replacing : List Stage} (groups : Groups)
    (agree : AgreeBut (replacing.map (·.id)) stages others) :
    compile others replacing groups = compile stages replacing groups := by
  have unique : checkUnique others = checkUnique stages := by
    rw [checkUnique, checkUnique, agree.ids_eq]
  have warnings : overrideWarnings others replacing = overrideWarnings stages replacing := by
    rw [overrideWarnings, overrideWarnings, agree.ids_eq]
  have merged : merge others replacing = merge stages replacing := by
    rw [merge_eq, merge_eq, unique, warnings, agree.mergedStages_eq]
  rw [compile, compile, merged]

end AgreeBut

/-- Renderings of two lists that agree but for some ids: so do their stages, and the groups are the
same. -/
structure RenderAlike (ids : List String) (own ownOthers : List RenderedStage) : Prop where
  stages : AgreeBut ids (own.map RenderedStage.stage) (ownOthers.map RenderedStage.stage)
  groups : ownOthers.filterMap RenderedStage.group? = own.filterMap RenderedStage.group?

namespace RenderAlike

theorem cons_same (one : RenderedStage) (alike : RenderAlike ids own ownOthers) :
    RenderAlike ids (one :: own) (one :: ownOthers) where
  stages := .cons ⟨rfl, fun _ => rfl⟩ alike.stages
  groups := by rw [List.filterMap_cons, List.filterMap_cons, alike.groups]

theorem cons_kept {stage other : Stage} (same : other.id = stage.id) (named : stage.id ∈ ids)
    (alike : RenderAlike ids own ownOthers) :
    RenderAlike ids (.single stage :: own) (.single other :: ownOthers) where
  stages := .cons ⟨same, fun unnamed => absurd named unnamed⟩ alike.stages
  groups := alike.groups

theorem groups_eq (alike : RenderAlike ids own ownOthers) :
    RenderedStage.groups (ownOthers ++ added) = RenderedStage.groups (own ++ added) := by
  rw [RenderedStage.groups, RenderedStage.groups, List.filterMap_append, List.filterMap_append,
    alike.groups]

end RenderAlike

namespace StageRenderer

theorem renderAll_cons_eq_error {stage : Stage} {e : RenderError} :
    s.renderAll ids (stage :: stages) = .error e ↔
      s.renderOne ids stage = .error e ∨
        ∃ first, s.renderOne ids stage = .ok first ∧ s.renderAll ids stages = .error e := by
  rw [renderAll]
  cases s.renderOne ids stage with
  | error reason => simp
  | ok first => cases s.renderAll ids stages <;> simp

theorem renderAll_cons_eq_ok {stage : Stage} {rendered : List RenderedStage} :
    s.renderAll ids (stage :: stages) = .ok rendered ↔
      ∃ first later, s.renderOne ids stage = .ok first ∧ s.renderAll ids stages = .ok later ∧
        first :: later = rendered := by
  rw [renderAll]
  cases s.renderOne ids stage with
  | error reason => simp
  | ok first => cases s.renderAll ids stages <;> simp

theorem renderAll_eq_error_of_agree (agree : AgreeBut ids stages others) {e : RenderError}
    (failed : s.renderAll ids stages = .error e) : s.renderAll ids others = .error e := by
  induction agree with
  | nil => exact failed
  | @cons stage other _ _ first _ ih =>
      obtain ⟨same, equal⟩ := first
      rw [renderAll_cons_eq_error] at failed ⊢
      by_cases named : stage.id ∈ ids
      · -- neither stage is rendered, so that the failure comes from those behind
        rw [renderOne_of_replaced named] at failed
        rw [renderOne_of_replaced (same ▸ named)]
        rcases failed with here | ⟨_, _, later⟩
        · contradiction
        · exact .inr ⟨_, rfl, ih later⟩
      · rw [equal named]
        exact failed.imp_right fun ⟨one, done, later⟩ => ⟨one, done, ih later⟩

theorem renderAll_alike (agree : AgreeBut ids stages others)
    (done : s.renderAll ids stages = .ok own) :
    ∃ ownOthers, s.renderAll ids others = .ok ownOthers ∧ RenderAlike ids own ownOthers := by
  induction agree generalizing own with
  | nil =>
      cases done
      exact ⟨[], rfl, .nil, rfl⟩
  | @cons stage other _ _ first _ ih =>
      obtain ⟨same, equal⟩ := first
      obtain ⟨one, later, here, rest, rfl⟩ := renderAll_cons_eq_ok.mp done
      obtain ⟨laterOthers, restOthers, alike⟩ := ih rest
      by_cases named : stage.id ∈ ids
      · rw [renderOne_of_replaced named] at here
        cases here
        exact ⟨_, renderAll_cons_eq_ok.mpr
          ⟨_, _, renderOne_of_replaced (same ▸ named), restOthers, rfl⟩, alike.cons_kept same named⟩
      · exact ⟨_, renderAll_cons_eq_ok.mpr ⟨_, _, (equal named).symm ▸ here, restOthers, rfl⟩,
          alike.cons_same one⟩

end StageRenderer

/-- A template with other stages. -/
def Template.withStages (template : Template) (stages : List Stage) : Template :=
  { template with stages }

namespace Engine

/-- Of two templates with the same ids that are both without errors, a configuration has the same
findings. -/
theorem validate_withStages (same : stages.map (·.id) = template.stages.map (·.id))
    (accepted : Diagnostics.hasErrors (engine.validate template configuration) = false)
    (acceptedOther :
      Diagnostics.hasErrors (engine.validate (template.withStages stages) configuration) = false) :
    engine.validate (template.withStages stages) configuration =
      engine.validate template configuration := by
  simp only [validate, Diagnostics.hasErrors, List.any_append, Bool.or_eq_false_iff]
    at accepted acceptedOther
  have unreported := validateTemplate_eq_nil accepted.1
  have unreportedOther := validateTemplate_eq_nil acceptedOther.1
  have sameIds : (template.withStages stages).stageIds = template.stageIds := same
  simp only [validate, unreported, unreportedOther, validateConfiguration, sameIds]
  rfl

/-- The context, the partials and the renderer come from other parts of a template than its
stages. -/
theorem renderStages_eq (engine : Engine) (all : List Stage) :
    engine.renderStages (template.withStages all) configuration =
      match (engine.stageRenderer template configuration).renderAll
          (configuration.stages.map (·.id)) all with
      | .error e => .error e
      | .ok own =>
          match (engine.stageRenderer template configuration).renderAll []
              configuration.stages with
          | .error e => .error e
          | .ok added => .ok (own, added) := rfl

theorem renderStages_withStages (engine : Engine)
    (agree : AgreeBut (configuration.stages.map (·.id)) template.stages stages) :
    (∃ e, engine.renderStages template configuration = .error e ∧
      engine.renderStages (template.withStages stages) configuration = .error e) ∨
    ∃ own ownOthers added, engine.renderStages template configuration = .ok (own, added) ∧
      engine.renderStages (template.withStages stages) configuration = .ok (ownOthers, added) ∧
      RenderAlike (configuration.stages.map (·.id)) own ownOthers := by
  have unchanged : engine.renderStages template configuration = _ :=
    engine.renderStages_eq template.stages
  rw [unchanged, renderStages_eq]
  cases first : (engine.stageRenderer template configuration).renderAll
      (configuration.stages.map (·.id)) template.stages with
  | error e =>
      rw [StageRenderer.renderAll_eq_error_of_agree agree first]
      exact .inl ⟨e, rfl, rfl⟩
  | ok own =>
      obtain ⟨ownOthers, firstOther, alike⟩ := StageRenderer.renderAll_alike agree first
      rw [firstOther]
      cases (engine.stageRenderer template configuration).renderAll [] configuration.stages with
      | error e => exact .inl ⟨e, rfl, rfl⟩
      | ok added => exact .inr ⟨own, ownOthers, added, rfl, rfl, alike⟩

theorem resolve_withStages
    (agree : AgreeBut (configuration.stages.map (·.id)) template.stages stages)
    (accepted : Diagnostics.hasErrors (engine.validate template configuration) = false)
    (acceptedOther :
      Diagnostics.hasErrors (engine.validate (template.withStages stages) configuration) = false) :
    engine.resolve (template.withStages stages) configuration =
      engine.resolve template configuration := by
  have valid := engine.validInput accepted
  rw [resolve, resolve, validate_withStages agree.ids_eq accepted acceptedOther]
  rcases engine.renderStages_withStages agree with
    ⟨e, failed, failedOther⟩ | ⟨own, ownOthers, added, rendered, renderedOther, alike⟩
  · rw [failed, failedOther]
  · -- the ids that are replaced are those of the configuration's rendered stages
    have sameIds : configuration.stages.map (·.id) = (added.map RenderedStage.stage).map (·.id) :=
      (ids_of_samePlace (renderedInput valid rendered).addedPlaces).symm
    have stagesAlike := sameIds ▸ alike.stages
    rw [rendered, renderedOther]
    dsimp only
    rw [alike.groups_eq, stagesAlike.compile_eq]

end Engine

/-- A stage that the configuration replaces is of no consequence: any other stage with its id leads
to the same resolution, or to the same failure. -/
theorem resolve_ignores_replaced_stage {position : Nat} {old new : Stage}
    (standing : template.stages[position]? = some old)
    (replaced : old.id ∈ configuration.stages.map (·.id)) (same_id : new.id = old.id)
    (accepted : Diagnostics.hasErrors (engine.validate template configuration) = false)
    (accepted_other : Diagnostics.hasErrors
      (engine.validate (template.withStages (template.stages.set position new)) configuration) =
        false) :
    engine.resolve (template.withStages (template.stages.set position new)) configuration =
      engine.resolve template configuration := by
  have agree : AgreeBut (configuration.stages.map (·.id)) template.stages
      (template.stages.set position new) :=
    AgreeBut.set standing same_id replaced
  exact Engine.resolve_withStages agree accepted accepted_other

/-- A stage that cannot be rendered, and one behind it. -/
def legacyBuild : Template where
  schemaVersion := "1"
  id := "legacy"
  stages := [
    { id := "bake", type := "bake",
      config? := some (.map [("image", .string "\x7b\x7b legacyImage \x7d\x7d")]) },
    { id := "deploy", type := "deploy", config? := some (.map []), dependsOn := ["bake"] }]

def legacyConfiguration : Configuration where
  schemaVersion := "1"
  pipeline := { application? := some "orders" }
  stages := [{ id := "bake", type := "bake", config? := some (.map [("image", .string "fixed")]) }]

/-- Another stage in the place of the first one, placed and repeated over something unknown. -/
def loopedBake : Stage where
  id := "bake"
  type := "docker"
  config? := some (.map [])
  inject? := some .atLast
  conditions := [.bool false]
  loopWith? := some (.string "\x7b\x7b nowhere \x7d\x7d")

theorem resolve_ignores_replaced_stage_legacy :
    (({} : Engine).resolve legacyBuild legacyConfiguration).isOk = true ∧
      Diagnostics.hasErrors (({} : Engine).validate legacyBuild legacyConfiguration) = false ∧
      Diagnostics.hasErrors (({} : Engine).validate
        (legacyBuild.withStages (legacyBuild.stages.set 0 loopedBake)) legacyConfiguration) =
          false ∧
      ({} : Engine).resolve (legacyBuild.withStages (legacyBuild.stages.set 0 loopedBake))
          legacyConfiguration =
        ({} : Engine).resolve legacyBuild legacyConfiguration := by
  have accepted : Diagnostics.hasErrors (({} : Engine).validate legacyBuild legacyConfiguration) =
      false := by
    decide +kernel
  have accepted_other : Diagnostics.hasErrors (({} : Engine).validate
      (legacyBuild.withStages (legacyBuild.stages.set 0 loopedBake)) legacyConfiguration) =
        false := by
    decide +kernel
  exact ⟨by decide +kernel, accepted, accepted_other,
    resolve_ignores_replaced_stage rfl (List.mem_singleton.mpr rfl) rfl accepted accepted_other⟩

end StagePlan
