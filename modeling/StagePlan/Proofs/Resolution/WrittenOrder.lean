import StagePlan.Proofs.Graph.Compilation
import StagePlan.Proofs.Resolution.Conditions
import StagePlan.Proofs.Resolution.Steps

namespace StagePlan

open StagePlan.Graph

/-!
The orderings that authors write hold in the resolved graph, between whatever stages come in for
those that were written and are still there when conditions have been applied.
-/

/-- What the first stage brings into a graph comes after what the second one brings, as far as both
are there. -/
def Follows (groups : Groups) (final : List Stage) (later earlier : Stage) : Prop :=
  ∀ u ∈ contributed groups later, u.id ∈ final.map (·.id) →
    ∀ v ∈ contributed groups earlier, v.id ∈ final.map (·.id) → Reaches final u.id v.id

theorem Follows.reaches {groups : Groups} {final : List Stage} {later earlier : Stage}
    {u v : String} (follows : Follows groups final later earlier)
    (uPart : u ∈ (contributed groups later).map (·.id))
    (vPart : v ∈ (contributed groups earlier).map (·.id))
    (uThere : u ∈ final.map (·.id)) (vThere : v ∈ final.map (·.id)) : Reaches final u v := by
  obtain ⟨_, uListed, rfl⟩ := List.mem_map.mp uPart
  obtain ⟨_, vListed, rfl⟩ := List.mem_map.mp vPart
  exact follows _ uListed uThere _ vListed vThere

/-- What is written about the order of merged stages, for all that they bring into a graph. -/
structure ResolvedOrder (merged : List Stage) (groups : Groups) (final : List Stage) : Prop where
  dependencies : ∀ y ∈ merged, Standing y → ∀ x ∈ merged, x.id ∈ y.dependsOn →
    Follows groups final y x
  before_target : ∀ s ∈ merged, ∀ targets, InjectedAt s (.before targets) →
    ∀ t ∈ merged, t.id ∈ targets → Follows groups final t s
  after_target : ∀ s ∈ merged, ∀ targets, InjectedAt s (.after targets) →
    ∀ t ∈ merged, t.id ∈ targets → Follows groups final s t

variable {engine : Engine} {template : Template} {configuration : Configuration}
  {resolution : Resolution} {own added : List RenderedStage}

/-- Merging goes by ids, and so comes to the same with the rendered stages as with the written
ones. -/
theorem exists_merged {template configuration : List Stage} {own added : List Stage}
    (first : List.Forall₂ SamePlace template own)
    (second : List.Forall₂ SamePlace configuration added)
    (distinct : (added.map (·.id)).Nodup) {y : Stage}
    (member : y ∈ mergedStages template configuration) :
    ∃ z ∈ mergedStages own added, SamePlace y z := by
  have sameIds := ids_of_samePlace second
  rcases (mem_mergedStages (sameIds ▸ distinct)).mp member with listed | ⟨listed, kept⟩
  · obtain ⟨z, among, place⟩ := exists_right second listed
    exact ⟨z, (mem_mergedStages distinct).mpr (.inl among), place⟩
  · obtain ⟨z, among, place⟩ := exists_right first listed
    refine ⟨z, (mem_mergedStages distinct).mpr (.inr ⟨among, ?_⟩), place⟩
    rwa [sameIds, place.id_eq]

theorem SamePlace.standing {y z : Stage} (place : SamePlace y z) (standing : Standing y) :
    Standing z := by
  rw [Standing, Stage.injection?] at standing ⊢
  rwa [place.inject_eq]

theorem SamePlace.injectedAt {y z : Stage} {placement : Placement} (place : SamePlace y z)
    (rule : InjectedAt y placement) : InjectedAt z placement := by
  rw [InjectedAt, Stage.injection?] at rule ⊢
  rwa [place.inject_eq]

theorem RenderedInput.selfContained {arranged : List Stage}
    (input : RenderedInput template configuration own added)
    (sameIds : (arranged.map (·.id)).Perm
      ((mergedStages template.stages configuration.stages).map (·.id)))
    (apart : ∀ member ∈ (RenderedStage.groups (own ++ added)).flatMap (·.2),
      member.id ∉ (mergedStages template.stages configuration.stages).map (·.id)) :
    SelfContained (RenderedStage.groups (own ++ added)) arranged where
  internal s _ group grouped := input.closedGroups s.id group grouped
  fresh s _ group grouped member inGroup clash := by
    have among : member ∈ (RenderedStage.groups (own ++ added)).flatMap (·.2) :=
      List.mem_flatMap.mpr ⟨_, Bindings.mem_of_find? grouped, inGroup⟩
    exact apart member among (sameIds.mem_iff.mp clash)

/-- Every ordering that is written down, as a dependency or as a rule, holds in the resolved graph:
for all copies and members of what was written that are still there, and whatever has been excluded
or was empty between them. No copy or member may have the id of a merged stage. -/
theorem resolve_keeps_written_order
    (resolved : engine.resolve template configuration = .ok resolution)
    (apart : ∀ member ∈ (engine.stageGroups template configuration).flatMap (·.2),
      member.id ∉ (mergedStages template.stages configuration.stages).map (·.id)) :
    ResolvedOrder (mergedStages template.stages configuration.stages)
      (engine.stageGroups template configuration) resolution.graph.stages := by
  obtain ⟨own, added, c, valid, rendered, compiled, graph⟩ := resolve_eq_ok resolved
  have input := renderedInput (engine.validInput valid) rendered
  obtain ⟨arranged, run⟩ := compile_eq_ok compiled
  have sameIds : (arranged.map (·.id)).Perm
      ((mergedStages template.stages configuration.stages).map (·.id)) := by
    have ids := arrange_ids run.arranged_eq
    rwa [mergedStages_ids, ids_of_samePlace input.ownPlaces, ids_of_samePlace input.addedPlaces,
      ← mergedStages_ids] at ids
  rw [stageGroups_eq rendered] at apart ⊢
  rw [graph]
  have contained := input.selfContained sameIds apart
  have kept : ∀ y ∈ mergedStages template.stages configuration.stages,
      ∀ x ∈ mergedStages template.stages configuration.stages, Reaches arranged y.id x.id →
      Follows (RenderedStage.groups (own ++ added)) c.graph.applyConditions.stages y x := by
    intro y yListed x xListed path u uPart uThere v vPart vThere
    refine (StageGraph.applyConditions_reaches run.graph_inOrder run.graph_distinct uThere
      vThere).mpr ?_
    exact run.reaches_contributed contained (sameIds.mem_iff.mpr (List.mem_map_of_mem yListed))
      (sameIds.mem_iff.mpr (List.mem_map_of_mem xListed)) path uPart vPart
  have written : ∀ y ∈ mergedStages template.stages configuration.stages,
      ∃ z ∈ mergedStages (own.map RenderedStage.stage) (added.map RenderedStage.stage),
        SamePlace y z :=
    fun y listed => exists_merged input.ownPlaces input.addedPlaces run.distinct_configuration listed
  refine ⟨?dependencies, ?before, ?after⟩
  case dependencies =>
    intro y yListed standing x xListed named
    obtain ⟨z, zListed, place⟩ := written y yListed
    have path := run.writtenOrder.dependencies z zListed (place.standing standing) x.id
      (place.dependsOn_eq ▸ named)
    exact kept y yListed x xListed (place.id_eq ▸ path)
  case before =>
    intro s sListed targets rule t tListed isTarget
    obtain ⟨z, zListed, place⟩ := written s sListed
    have path := run.writtenOrder.before_target z zListed targets (place.injectedAt rule) t.id
      isTarget
    exact kept t tListed s sListed (place.id_eq ▸ path)
  case after =>
    intro s sListed targets rule t tListed isTarget
    obtain ⟨z, zListed, place⟩ := written s sListed
    have path := run.writtenOrder.after_target z zListed targets (place.injectedAt rule) t.id
      isTarget
    exact kept s sListed t tListed (place.id_eq ▸ path)

/-- A release in which a stage is repeated, another one over an empty list, and a partial stands
between them. -/
def release : Template where
  schemaVersion := "1"
  id := "release"
  partials := [{
    id := "checks"
    stages := [
      { id := "lint", type := "lint", config? := some (.map []) },
      { id := "unit", type := "unit", config? := some (.map []), dependsOn := ["lint"] }] }]
  stages := [
    { id := "bake", type := "bake", config? := some (.map []) },
    { id := "copy", type := "copy", config? := some (.map []), dependsOn := ["bake"],
      loopWith? := some (.list [.string "eu", .string "us"]) },
    { id := "none", type := "wait", config? := some (.map []), dependsOn := ["copy"],
      loopWith? := some (.list []) },
    { id := "qa", type := "partial.checks", dependsOn := ["none"] },
    { id := "deploy", type := "deploy", config? := some (.map []), dependsOn := ["qa"] }]

def releaseConfiguration : Configuration where
  schemaVersion := "1"
  pipeline := { application? := some "orders" }
  stages := [
    { id := "scan", type := "scan", config? := some (.map []),
      inject? := some (.beforeAll ["qa"]) },
    { id := "gate", type := "manual", config? := some (.map []),
      inject? := some (.afterAll ["qa"]), conditions := [.bool false] }]

theorem resolve_keeps_written_order_release :
    ∃ resolution, ({} : Engine).resolve release releaseConfiguration = .ok resolution ∧
      (∀ member ∈ (({} : Engine).stageGroups release releaseConfiguration).flatMap (·.2),
        member.id ∉ (mergedStages release.stages releaseConfiguration.stages).map (·.id)) ∧
      ResolvedOrder (mergedStages release.stages releaseConfiguration.stages)
        (({} : Engine).stageGroups release releaseConfiguration) resolution.graph.stages ∧
      resolution.graph.stages.map (fun s => (s.id, s.dependsOn)) =
        [("bake", []), ("copy-0", ["bake"]), ("copy-1", ["bake"]),
          ("scan", ["copy-0", "copy-1"]), ("qa.lint", ["scan"]), ("qa.unit", ["qa.lint"]),
          ("deploy", ["qa.unit"])] ∧
      Reaches resolution.graph.stages "copy-1" "bake" ∧
      Reaches resolution.graph.stages "deploy" "qa.lint" ∧
      Reaches resolution.graph.stages "qa.unit" "scan" := by
  have shown : ((({} : Engine).resolve release releaseConfiguration).map fun resolution =>
      resolution.graph.stages.map fun s => (s.id, s.dependsOn)).toOption =
        some [("bake", []), ("copy-0", ["bake"]), ("copy-1", ["bake"]),
          ("scan", ["copy-0", "copy-1"]), ("qa.lint", ["scan"]), ("qa.unit", ["qa.lint"]),
          ("deploy", ["qa.unit"])] := by
    decide +kernel
  have apart : ∀ member ∈ (({} : Engine).stageGroups release releaseConfiguration).flatMap (·.2),
      member.id ∉ (mergedStages release.stages releaseConfiguration.stages).map (·.id) := by
    decide +kernel
  obtain ⟨resolution, resolved, written⟩ := map_eq_ok.mp (eq_ok_of_toOption shown)
  have ids : resolution.graph.stages.map (·.id) =
      ["bake", "copy-0", "copy-1", "scan", "qa.lint", "qa.unit", "deploy"] := by
    have firsts := congrArg (List.map Prod.fst) written
    rwa [List.map_map] at firsts
  have order := resolve_keeps_written_order resolved apart
  refine ⟨resolution, resolved, apart, order, written, ?copies, ?members, ?before⟩
  case copies =>
    have follows := order.dependencies release.stages[1] (List.mem_of_getElem? (i := 1) rfl) rfl
      release.stages[0] (List.mem_of_getElem? (i := 0) rfl) (by decide +kernel)
    exact follows.reaches (by decide +kernel) (by decide +kernel) (by simp [ids]) (by simp [ids])
  case members =>
    have follows := order.dependencies release.stages[4] (List.mem_of_getElem? (i := 4) rfl) rfl
      release.stages[3] (List.mem_of_getElem? (i := 3) rfl) (by decide +kernel)
    exact follows.reaches (by decide +kernel) (by decide +kernel) (by simp [ids]) (by simp [ids])
  case before =>
    have follows := order.before_target releaseConfiguration.stages[0]
      (List.mem_of_getElem? (i := 5) rfl) ["qa"] rfl release.stages[3]
      (List.mem_of_getElem? (i := 3) rfl) (by decide +kernel)
    exact follows.reaches (by decide +kernel) (by decide +kernel) (by simp [ids]) (by simp [ids])

end StagePlan
