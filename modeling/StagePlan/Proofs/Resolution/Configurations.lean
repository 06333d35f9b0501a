import StagePlan.Proofs.Resolution.Directives

namespace StagePlan

open StagePlan.Graph StagePlan.Validation

/-!
The configurations of the stages of a graph. Each is what the configuration that was written for the
stage is rendered to: by a stage for itself, by a repeated stage for each of its copies, and by a
partial for each of its stages. A map is rendered to a map. A text with a marker may stand for a map
when it is validated, but nothing looks at what it is rendered to.
-/

/-- What validation accepts as a configuration: a map, or a text with a marker. -/
inductive Value.IsConfiguration : Value → Prop
  | map (entries : List (String × Value)) : IsConfiguration (.map entries)
  | marked {source : String} : Markup.hasMarkers source = true → IsConfiguration (.string source)

theorem Validation.config_of_faultless {stage : Stage} (faultless : stageFaults stage = [])
    (own : stage.partialId? = none) :
    ∃ config, stage.config? = some config ∧ config.IsConfiguration := by
  simp only [stageFaults, List.append_eq_nil_iff] at faultless
  have accepted : configFaults stage = [] := faultless.1.1.2
  unfold configFaults at accepted
  split at accepted
  · simp [own, complain] at accepted
  · exact ⟨_, ‹_›, .map _⟩
  · rename_i source written
    exact ⟨_, written, .marked (by simpa [complain_eq_nil] using accepted)⟩
  · contradiction

theorem Renderer.exists_map_of_renderAt {r : Renderer} {ctx : RenderContext} {place : List String}
    {entries : List (String × Value)} {v : Value}
    (done : r.renderAt ctx place (.map entries) = .ok v) :
    ∃ rendered, v = .map rendered := by
  rw [renderAt, renderIn, Rendering.renderTree] at done
  split at done
  · cases done
    exact ⟨_, rfl⟩
  · contradiction

/-- The stages that come in for a placeholder, or the stage alone. -/
def RenderedStage.parts : RenderedStage → List Stage
  | .single stage => [stage]
  | .group _ members => members

theorem RenderedStage.parts_of_group {one : RenderedStage} {id : String} {members : List Stage}
    (isGroup : one.group? = some (id, members)) : one.parts = members := by
  cases one with
  | single => contradiction
  | group => cases isGroup; rfl

namespace StageRenderer

variable {s : StageRenderer} {r : Renderer} {ctx : RenderContext}
  {written source rendered part : Stage} {stages parts : List Stage}

/-- A stage that is rendered for a written one, and what it sees. -/
inductive Occurrence (s : StageRenderer) (written : Stage) : Stage → RenderContext → Prop
  | itself : written.loopWith? = none → written.partialId? = none →
      Occurrence s written written s.ctx
  | copy {loop element : Value} {elements : List Value} {position : Nat} :
      written.loopWith? = some loop →
      s.renderer.renderAt s.ctx (placeOf written "loopWith") loop = .ok (.list elements) →
      elements[position]? = some element →
      Occurrence s written (loopCopy written position) (loopContext s.ctx position element)
  | member {p : Partial} {given scope : Bindings Value} {member : Stage} :
      written.loopWith? = none → written.partialId? = some p.id → p ∈ s.partials →
      s.renderBindings written = .ok given →
      Variable.bindAll p.declared given s.ctx.scope = .ok scope → member ∈ p.stages →
      Occurrence s written (memberOf written member) (s.ctx.child scope)

/-- A stage has the name of another one and what its configuration is rendered to. -/
structure Configures (r : Renderer) (ctx : RenderContext) (source rendered : Stage) : Prop where
  id_eq : rendered.id = source.id
  config_eq : renderConfig r ctx source = .ok rendered.config?

theorem renderStage_configures (done : renderStage r ctx source = .ok rendered) :
    Configures r ctx source rendered := by
  refine ⟨(renderStage_outline done).samePlace.id_eq, ?_⟩
  unfold renderStage at done
  split at done
  · contradiction
  · split at done
    · contradiction
    · cases done
      assumption

theorem renderCopies_configures {elements : List Value}
    (done : renderCopies r ctx written 0 elements = .ok parts) (listed : part ∈ parts) :
    ∃ position element, elements[position]? = some element ∧
      Configures r (loopContext ctx position element) (loopCopy written position) part := by
  obtain ⟨⟨element, position⟩, among, copied⟩ := exists_left (renderCopies_renderStage done) listed
  exact ⟨position, element, List.mem_zipIdx_iff_getElem?.mp among, renderStage_configures copied⟩

theorem renderMembers_configures {conditions : List Value}
    (done : renderMembers r ctx written conditions stages = .ok parts) (listed : part ∈ parts) :
    ∃ member ∈ stages, Configures r ctx (memberOf written member) part := by
  obtain ⟨member, among, rendered, comes, rfl⟩ :=
    exists_left (renderMembers_renderStage done) listed
  have configures := renderStage_configures comes
  exact ⟨member, among, configures.id_eq, configures.config_eq⟩

theorem renderLoop_occurrence {loop : Value} (looped : written.loopWith? = some loop)
    (done : s.renderLoop written loop = .ok parts) (listed : part ∈ parts) :
    ∃ source ctx, s.Occurrence written source ctx ∧ Configures s.renderer ctx source part := by
  unfold renderLoop at done
  split at done
  · contradiction
  · rename_i elements isList
    obtain ⟨position, element, found, configures⟩ := renderCopies_configures done listed
    exact ⟨_, _, .copy looped isList found, configures⟩
  · contradiction

theorem renderPartial_occurrence {id : String} (once : written.loopWith? = none)
    (named : written.partialId? = some id) (done : s.renderPartial written id = .ok parts)
    (listed : part ∈ parts) :
    ∃ source ctx, s.Occurrence written source ctx ∧ Configures s.renderer ctx source part := by
  unfold renderPartial at done
  split at done
  · contradiction
  · rename_i p found
    obtain rfl : p.id = id := by simpa using List.find?_some found
    split at done
    · contradiction
    · rename_i given bindings
      split at done
      · contradiction
      · rename_i scope bound
        split at done
        · contradiction
        · obtain ⟨member, inPartial, configures⟩ := renderMembers_configures done listed
          have listedPartial := List.mem_of_find?_eq_some found
          exact ⟨_, _, .member once named listedPartial bindings bound inPartial, configures⟩

theorem renderOne_occurrence {replaced : List String} {one : RenderedStage}
    (done : s.renderOne replaced written = .ok one) (rewritten : written.id ∉ replaced)
    (listed : part ∈ one.parts) :
    ∃ source ctx, s.Occurrence written source ctx ∧ Configures s.renderer ctx source part := by
  unfold renderOne at done
  split at done
  · rename_i named
    exact absurd (by simpa using named) rewritten
  · split at done
    · rename_i loop looped
      obtain ⟨copies, expanded, rfl⟩ := map_eq_ok.mp done
      exact renderLoop_occurrence looped expanded listed
    · rename_i id once named
      obtain ⟨members, expanded, rfl⟩ := map_eq_ok.mp done
      exact renderPartial_occurrence once named expanded listed
    · rename_i once own
      obtain ⟨alone, expanded, rfl⟩ := map_eq_ok.mp done
      obtain rfl := List.mem_singleton.mp listed
      exact ⟨_, _, .itself once own, renderStage_configures expanded⟩

theorem Occurrence.config_accepted {template : Template} {configuration : Configuration}
    (valid : ValidInput template configuration) (partials : s.partials = template.partials)
    (listed : written ∈ template.stages ++ configuration.stages)
    (occurs : s.Occurrence written source ctx) :
    ∃ config, source.config? = some config ∧ config.IsConfiguration := by
  have faultless := valid.faultless written listed
  cases occurs with
  | itself _ own => exact config_of_faultless faultless own
  | copy looped =>
      have own := (loop_or_partial_of_faultless faultless).resolve_left (by simp [looped])
      obtain ⟨config, written, accepted⟩ := config_of_faultless faultless own
      exact ⟨config, written, accepted⟩
  | @member p _ _ member _ _ inPartials _ _ inPartial =>
      have validPartial := valid.partials p (partials ▸ inPartials)
      have own := (memberFaults_eq_nil.mp (validPartial.members member inPartial)).2.2.1
      obtain ⟨config, written, accepted⟩ :=
        config_of_faultless (validPartial.stages.faultless member inPartial) own
      exact ⟨config, written, accepted⟩

/-- The configuration of a stage is what the one written for it is rendered to. -/
structure HasConfig (r : Renderer) (ctx : RenderContext) (source stage : Stage)
    (config v : Value) : Prop where
  id_eq : stage.id = source.id
  written : source.config? = some config
  accepted : config.IsConfiguration
  renders : r.renderAt ctx (placeOf source "config") config = .ok v
  config_eq : stage.config? = some v
  map_of_map : (∃ entries, config = .map entries) → ∃ entries, v = .map entries

theorem Configures.hasConfig (configures : Configures r ctx source rendered) {config : Value}
    (written : source.config? = some config) (accepted : config.IsConfiguration) :
    ∃ v, HasConfig r ctx source rendered config v := by
  have same := configures.config_eq
  simp only [renderConfig, written] at same
  split at same
  · rename_i v renders
    refine ⟨v, configures.id_eq, written, accepted, renders, (Except.ok.inj same).symm, ?_⟩
    rintro ⟨entries, rfl⟩
    exact Renderer.exists_map_of_renderAt renders
  · contradiction

end StageRenderer

variable {engine : Engine} {template : Template} {configuration : Configuration}
  {resolution : Resolution} {own added : List RenderedStage}

/-- A stage of a compiled graph has the name and the configuration of one that was rendered. -/
theorem exists_part_of_origin (valid : ValidInput template configuration)
    (rendered : engine.renderStages template configuration = .ok (own, added)) {stage : Stage}
    (origin : Origin (mergedStages (own.map RenderedStage.stage) (added.map RenderedStage.stage))
      (RenderedStage.groups (own ++ added)) stage) :
    ∃ one written, RenderedFor engine template configuration written one ∧
      ∃ part ∈ one.parts, stage.id = part.id ∧ stage.config? = part.config? := by
  cases origin with
  | own merged plain twin =>
      obtain ⟨written, comes⟩ := exists_renderedFor_of_merged valid rendered merged plain
      refine ⟨_, written, comes, _, List.mem_singleton_self _, ?_⟩
      rw [twin]
      exact ⟨rfl, rfl⟩
  | member _ grouped inGroup twin =>
      obtain ⟨one, written, isGroup, comes⟩ := exists_renderedFor_of_grouped valid rendered grouped
      refine ⟨one, written, comes, _, RenderedStage.parts_of_group isGroup ▸ inGroup, ?_⟩
      rw [twin]
      exact ⟨rfl, rfl⟩

/-- Every stage of a resolved graph has a configuration: what the one written for the stage is
rendered to, in what the stage sees. It is a map wherever a map is written. -/
theorem resolve_configures_stages
    (resolved : engine.resolve template configuration = .ok resolution) :
    let s := engine.stageRenderer template configuration
    ∀ stage ∈ resolution.graph.stages,
      ∃ written ∈ mergedStages template.stages configuration.stages, ∃ source ctx config v,
        s.Occurrence written source ctx ∧
          StageRenderer.HasConfig s.renderer ctx source stage config v := by
  intro s stage listed
  obtain ⟨own, added, c, accepted, rendered, compiled, graph⟩ := resolve_eq_ok resolved
  obtain ⟨arranged, run⟩ := compile_eq_ok compiled
  have valid := engine.validInput accepted
  rw [graph] at listed
  obtain ⟨before, inGraph, same⟩ :=
    StageGraph.exists_of_applyConditions run.graph_inOrder run.graph_distinct listed
  obtain ⟨one, written, ⟨merged, replaced, rewritten, done⟩, part, inParts, sameId, sameConfig⟩ :=
    exists_part_of_origin valid rendered (run.origin inGraph)
  obtain ⟨source, ctx, occurs, configures⟩ :=
    StageRenderer.renderOne_occurrence done rewritten inParts
  have isWritten : written ∈ template.stages ++ configuration.stages := by
    have placed := (mem_mergedStages valid.added.distinct).mp merged
    exact List.mem_append.mpr (placed.symm.imp_left And.left)
  obtain ⟨config, isConfig, accepted⟩ := occurs.config_accepted valid rfl isWritten
  obtain ⟨v, hasConfig⟩ := configures.hasConfig isConfig accepted
  refine ⟨written, merged, source, ctx, config, v, occurs, ?_⟩
  exact { hasConfig with
    id_eq := (show stage.id = part.id by rw [same]; exact sameId).trans hasConfig.id_eq
    config_eq := (show stage.config? = part.config? by rw [same]; exact sameConfig).trans
      hasConfig.config_eq }

/-- Stages with texts for configurations, of each origin: one of its own, one that is repeated over
a text and a map, and one of a partial. -/
def labels : Template where
  schemaVersion := "1"
  id := "labels"
  partials := [{
    id := "checks"
    declared := [{ name := "suite", typeName := "string" }]
    stages := [
      { id := "lint", type := "lint", config? := some (.string "\x7b\x7b suite \x7d\x7d") }] }]
  stages := [
    { id := "bake", type := "bake", config? := some (.string "\x7b\x7b application \x7d\x7d") },
    { id := "copy", type := "copy",
      config? := some (.string "\x7b\x7b templateLoop.value \x7d\x7d"), dependsOn := ["bake"],
      loopWith? := some (.list [.string "eu", .map [("zone", .string "a")]]) },
    { id := "qa", type := "partial.checks", dependsOn := ["copy"],
      config? := some (.map [("suite", .string "all")]) }]

def labelsConfiguration : Configuration where
  schemaVersion := "1"
  pipeline := { application? := some "orders" }

theorem resolve_configures_stages_labels :
    ∃ resolution, ({} : Engine).resolve labels labelsConfiguration = .ok resolution ∧
      resolution.graph.stages.map (·.id) = ["bake", "copy-0", "copy-1", "qa.lint"] ∧
      let s := ({} : Engine).stageRenderer labels labelsConfiguration
      ∀ stage ∈ resolution.graph.stages,
        ∃ written ∈ labels.stages, ∃ source ctx config v,
          s.Occurrence written source ctx ∧
            StageRenderer.HasConfig s.renderer ctx source stage config v := by
  have shown : ((({} : Engine).resolve labels labelsConfiguration).map fun resolution =>
      resolution.graph.stages.map (·.id)).toOption =
        some ["bake", "copy-0", "copy-1", "qa.lint"] := by
    decide +kernel
  obtain ⟨resolution, resolved, ids⟩ := map_eq_ok.mp (eq_ok_of_toOption shown)
  have merged : mergedStages labels.stages labelsConfiguration.stages = labels.stages := rfl
  exact ⟨resolution, resolved, ids, merged ▸ resolve_configures_stages resolved⟩

/-- Whatever a text is rendered to is left as the configuration. -/
theorem resolve_configures_text :
    ∃ resolution, ({} : Engine).resolve labels labelsConfiguration = .ok resolution ∧
      resolution.graph.stages.map (fun s => (s.id, s.config?)) =
        [("bake", some (.string "orders")), ("copy-0", some (.string "eu")),
          ("copy-1", some (.map [("zone", .string "a")])), ("qa.lint", some (.string "all"))] ∧
      ¬ ∀ stage ∈ resolution.graph.stages, ∃ entries, stage.config? = some (.map entries) := by
  have shown : ((({} : Engine).resolve labels labelsConfiguration).map fun resolution =>
      resolution.graph.stages.map fun s => (s.id, s.config?)).toOption =
        some [("bake", some (.string "orders")), ("copy-0", some (.string "eu")),
          ("copy-1", some (.map [("zone", .string "a")])), ("qa.lint", some (.string "all"))] := by
    decide +kernel
  obtain ⟨resolution, resolved, configs⟩ := map_eq_ok.mp (eq_ok_of_toOption shown)
  refine ⟨resolution, resolved, configs, fun maps => ?_⟩
  obtain ⟨bake, listed, text⟩ := List.mem_map.mp (configs ▸ List.mem_cons_self)
  obtain ⟨entries, isMap⟩ := maps bake listed
  simp [isMap] at text

end StagePlan
