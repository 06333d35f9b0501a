import StagePlan.Proofs.Graph.Compilation
import StagePlan.Proofs.Resolution.RenderedStages
import StagePlan.Proofs.Validation.ValidInput
import StagePlan.Resolution.Engine

namespace StagePlan

open StagePlan.Graph StagePlan.Validation

/-!
The steps that a resolution goes through: validation without an error, rendering, and compiling what
has been rendered.
-/

/-- The groups that come in for the placeholders of a template and a configuration. -/
def Engine.stageGroups (engine : Engine) (template : Template) (configuration : Configuration) :
    Groups :=
  match engine.renderStages template configuration with
  | .ok (own, added) => RenderedStage.groups (own ++ added)
  | .error _ => []

/-- What renders the stages of a template and a configuration. -/
def Engine.stageRenderer (engine : Engine) (template : Template) (configuration : Configuration) :
    StageRenderer where
  renderer := engine.renderer template
  partials := template.partials
  ctx := resolveContext template configuration

variable {engine : Engine} {template : Template} {configuration : Configuration}
  {resolution : Resolution} {own added : List RenderedStage} {e : CompileError}

theorem resolve_eq_ok (resolved : engine.resolve template configuration = .ok resolution) :
    ∃ own added c,
      Diagnostics.hasErrors (engine.validate template configuration) = false ∧
      engine.renderStages template configuration = .ok (own, added) ∧
      compile (own.map RenderedStage.stage) (added.map RenderedStage.stage)
        (RenderedStage.groups (own ++ added)) = .ok c ∧
      resolution.graph = c.graph.applyConditions := by
  unfold Engine.resolve at resolved
  cases faulty : Diagnostics.hasErrors (engine.validate template configuration) with
  | true => simp [faulty] at resolved
  | false =>
      cases rendered : engine.renderStages template configuration with
      | error e => simp [faulty, rendered] at resolved
      | ok both =>
          obtain ⟨own, added⟩ := both
          cases compiled : compile (own.map RenderedStage.stage) (added.map RenderedStage.stage)
              (RenderedStage.groups (own ++ added)) with
          | error e => simp [faulty, rendered, compiled] at resolved
          | ok c =>
              simp only [faulty, rendered, compiled, Bool.false_eq_true, if_false,
                Except.ok.injEq] at resolved
              subst resolved
              exact ⟨own, added, c, rfl, rfl, compiled, rfl⟩

theorem resolve_eq_compile_error
    (failed : engine.resolve template configuration = .error (.compile e)) :
    ∃ own added, engine.renderStages template configuration = .ok (own, added) ∧
      compile (own.map RenderedStage.stage) (added.map RenderedStage.stage)
        (RenderedStage.groups (own ++ added)) = .error e := by
  unfold Engine.resolve at failed
  dsimp only at failed
  split at failed
  · cases failed
  · split at failed
    · cases failed
    · rename_i own added rendered
      split at failed
      · rename_i e fails
        cases failed
        exact ⟨own, added, rendered, fails⟩
      · cases failed

theorem Engine.validInput (engine : Engine)
    (valid : Diagnostics.hasErrors (engine.validate template configuration) = false) :
    ValidInput template configuration := by
  rw [Engine.validate, Diagnostics.hasErrors, List.any_append, Bool.or_eq_false_iff] at valid
  exact validInput_of_no_errors valid.1 valid.2

theorem Validation.ValidInput.closedPartials (valid : ValidInput template configuration) :
    ClosedPartials template.partials := fun p listed stage member =>
  (memberFaults_eq_nil.mp ((valid.partials p listed).members stage member)).2.2.2

theorem renderStages_eq_ok
    (rendered : engine.renderStages template configuration = .ok (own, added)) :
    (engine.stageRenderer template configuration).renderAll (configuration.stages.map (·.id))
        template.stages = .ok own ∧
      (engine.stageRenderer template configuration).renderAll [] configuration.stages =
        .ok added := by
  unfold Engine.renderStages at rendered
  dsimp only at rendered
  split at rendered
  · contradiction
  · rename_i first
    split at rendered
    · contradiction
    · rename_i second
      cases rendered
      exact ⟨first, second⟩

theorem renderStages_rendersTo
    (rendered : engine.renderStages template configuration = .ok (own, added)) :
    List.Forall₂ (StageRenderer.RendersTo template.partials (configuration.stages.map (·.id)))
        template.stages own ∧
      List.Forall₂ (StageRenderer.RendersTo template.partials []) configuration.stages added := by
  obtain ⟨first, second⟩ := renderStages_eq_ok rendered
  exact ⟨StageRenderer.renderAll_rendersTo first, StageRenderer.renderAll_rendersTo second⟩

theorem renderStages_from (partials : ClosedPartials template.partials)
    (rendered : engine.renderStages template configuration = .ok (own, added)) :
    List.Forall₂ StageRenderer.RenderedFrom template.stages own ∧
      List.Forall₂ StageRenderer.RenderedFrom configuration.stages added := by
  obtain ⟨first, second⟩ := renderStages_rendersTo rendered
  exact ⟨first.imp fun _ _ one => one.renderedFrom partials,
    second.imp fun _ _ one => one.renderedFrom partials⟩

theorem stageGroups_eq (rendered : engine.renderStages template configuration = .ok (own, added)) :
    engine.stageGroups template configuration = RenderedStage.groups (own ++ added) := by
  rw [Engine.stageGroups, rendered]

theorem exists_rendersTo
    (rendered : engine.renderStages template configuration = .ok (own, added))
    {one : RenderedStage} (listed : one ∈ own ++ added) :
    ∃ written ∈ template.stages ++ configuration.stages, ∃ replaced,
      StageRenderer.RendersTo template.partials replaced written one := by
  obtain ⟨first, second⟩ := renderStages_rendersTo rendered
  rcases List.mem_append.mp listed with listed | listed
  · obtain ⟨written, member, renders⟩ := exists_left first listed
    exact ⟨written, List.mem_append_left _ member, _, renders⟩
  · obtain ⟨written, member, renders⟩ := exists_left second listed
    exact ⟨written, List.mem_append_right _ member, _, renders⟩

/-- What is compiled in a resolution: rendered stages at the places of the written ones. -/
structure RenderedInput (template : Template) (configuration : Configuration)
    (own added : List RenderedStage) : Prop where
  ownPlaces : List.Forall₂ SamePlace template.stages (own.map RenderedStage.stage)
  addedPlaces : List.Forall₂ SamePlace configuration.stages (added.map RenderedStage.stage)
  closedGroups : ∀ id members, (RenderedStage.groups (own ++ added)).find? id = some members →
    Closed members

theorem renderedInput (valid : ValidInput template configuration)
    (rendered : engine.renderStages template configuration = .ok (own, added)) :
    RenderedInput template configuration own added := by
  obtain ⟨first, second⟩ := renderStages_from valid.closedPartials rendered
  refine ⟨StageRenderer.samePlace_of_rendered first, StageRenderer.samePlace_of_rendered second, ?_⟩
  intro id members grouped
  obtain ⟨one, listed, found⟩ := mem_of_find?_groups grouped
  obtain ⟨written, _, _, renders⟩ := exists_rendersTo rendered listed
  exact (renders.renderedFrom valid.closedPartials).closed id members found

namespace RenderedInput

theorem distinct_own (input : RenderedInput template configuration own added)
    (valid : ValidInput template configuration) :
    ((own.map RenderedStage.stage).map (·.id)).Nodup :=
  ids_of_samePlace input.ownPlaces ▸ valid.own.distinct

theorem distinct_added (input : RenderedInput template configuration own added)
    (valid : ValidInput template configuration) :
    ((added.map RenderedStage.stage).map (·.id)).Nodup :=
  ids_of_samePlace input.addedPlaces ▸ valid.added.distinct

end RenderedInput

/-- A written stage that is not replaced, with what it is rendered to. -/
structure RenderedFor (engine : Engine) (template : Template) (configuration : Configuration)
    (written : Stage) (one : RenderedStage) : Prop where
  merged : written ∈ mergedStages template.stages configuration.stages
  rendered : ∃ replaced, written.id ∉ replaced ∧
    (engine.stageRenderer template configuration).renderOne replaced written = .ok one

theorem exists_renderedFor_of_added (valid : ValidInput template configuration)
    (rendered : engine.renderStages template configuration = .ok (own, added))
    {one : RenderedStage} (listed : one ∈ added) :
    ∃ written, RenderedFor engine template configuration written one := by
  obtain ⟨written, inAdded, done⟩ :=
    exists_left (StageRenderer.renderAll_renderOne (renderStages_eq_ok rendered).2) listed
  exact ⟨written, (mem_mergedStages valid.added.distinct).mpr (.inl inAdded),
    [], List.not_mem_nil, done⟩

theorem exists_renderedFor_of_own (valid : ValidInput template configuration)
    (rendered : engine.renderStages template configuration = .ok (own, added))
    {one : RenderedStage} (listed : one ∈ own)
    (kept : one.group? = none → one.stage.id ∉ configuration.stages.map (·.id)) :
    ∃ written, RenderedFor engine template configuration written one := by
  obtain ⟨written, inOwn, done⟩ :=
    exists_left (StageRenderer.renderAll_renderOne (renderStages_eq_ok rendered).1) listed
  have rewritten : written.id ∉ configuration.stages.map (·.id) := by
    intro replaced
    rw [StageRenderer.renderOne_of_replaced replaced] at done
    cases done
    exact kept rfl replaced
  exact ⟨written, (mem_mergedStages valid.added.distinct).mpr (.inr ⟨inOwn, rewritten⟩),
    _, rewritten, done⟩

theorem exists_renderedFor_of_grouped (valid : ValidInput template configuration)
    (rendered : engine.renderStages template configuration = .ok (own, added)) {id : String}
    {members : List Stage}
    (grouped : (RenderedStage.groups (own ++ added)).find? id = some members) :
    ∃ one written, one.group? = some (id, members) ∧
      RenderedFor engine template configuration written one := by
  obtain ⟨one, among, isGroup⟩ := mem_of_find?_groups grouped
  rcases List.mem_append.mp among with listed | listed
  · obtain ⟨written, comes⟩ := exists_renderedFor_of_own valid rendered listed (by simp [isGroup])
    exact ⟨one, written, isGroup, comes⟩
  · obtain ⟨written, comes⟩ := exists_renderedFor_of_added valid rendered listed
    exact ⟨one, written, isGroup, comes⟩

theorem exists_renderedFor_of_merged (valid : ValidInput template configuration)
    (rendered : engine.renderStages template configuration = .ok (own, added)) {stage : Stage}
    (merged : stage ∈ mergedStages (own.map RenderedStage.stage) (added.map RenderedStage.stage))
    (plain : (RenderedStage.groups (own ++ added)).find? stage.id = none) :
    ∃ written, RenderedFor engine template configuration written (.single stage) := by
  have input := renderedInput valid rendered
  rcases (mem_mergedStages (input.distinct_added valid)).mp merged with listed | ⟨listed, kept⟩
  · obtain ⟨one, among, rfl⟩ := List.mem_map.mp listed
    have alone := single_of_find?_groups (List.mem_append_right own among) plain
    exact exists_renderedFor_of_added valid rendered (alone ▸ among)
  · obtain ⟨one, among, rfl⟩ := List.mem_map.mp listed
    have alone := single_of_find?_groups (List.mem_append_left added among) plain
    -- what the configuration replaces has been left unrendered, but is not merged
    rw [ids_of_samePlace input.addedPlaces] at kept
    exact exists_renderedFor_of_own valid rendered (alone ▸ among) fun _ => kept

end StagePlan
