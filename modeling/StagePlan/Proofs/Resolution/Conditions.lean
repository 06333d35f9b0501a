import StagePlan.Proofs.Graph.Exclusion
import StagePlan.Resolution.Conditions

namespace StagePlan

open StagePlan.Graph

/-!
Dropping the stages whose conditions do not hold. The others stay in their order, and depend on each
other exactly as they did before.
-/

variable {graph : StageGraph} {a b : String}

namespace StageGraph

def settled (stage : Stage) : Stage :=
  { stage with conditions := [] }

def keptStages (graph : StageGraph) : List Stage :=
  if graph.excluded.isEmpty then graph.stages else (withoutStages graph.excluded graph).stages

theorem applyConditions_stages (graph : StageGraph) :
    graph.applyConditions.stages = graph.keptStages.map settled := by
  unfold applyConditions keptStages
  split <;> rfl

theorem mem_excluded (distinct : (graph.stages.map (·.id)).Nodup) {stage : Stage}
    (listed : stage ∈ graph.stages) :
    stage.id ∈ graph.excluded ↔ stage.conditions.all conditionHolds = false := by
  simp only [excluded, List.mem_map, List.mem_filter, Bool.not_eq_true']
  constructor
  · rintro ⟨other, ⟨otherListed, fails⟩, same⟩
    have equal : other = stage := List.inj_on_of_nodup_map distinct otherListed listed same
    rwa [equal] at fails
  · exact fun fails => ⟨stage, ⟨listed, fails⟩, rfl⟩

theorem filter_excluded (distinct : (graph.stages.map (·.id)).Nodup) :
    (graph.stages.filter fun s => !graph.excluded.contains s.id) =
      graph.stages.filter fun s => s.conditions.all conditionHolds := by
  refine List.filter_congr fun stage listed => ?_
  have decided := mem_excluded distinct listed
  cases holds : stage.conditions.all conditionHolds with
  | true =>
      have absent : stage.id ∉ graph.excluded := by rw [decided, holds]; simp
      simpa using absent
  | false =>
      have present : stage.id ∈ graph.excluded := decided.mpr holds
      simpa using present

theorem keptStages_prunedTo (ordered : InOrder graph.stages)
    (distinct : (graph.stages.map (·.id)).Nodup) :
    PrunedTo graph.excluded graph.stages graph.keptStages := by
  unfold keptStages
  split
  · rename_i none
    have empty : graph.excluded = [] := by simpa using none
    exact ⟨by simp [empty], ordered, fun _ _ _ _ => Iff.rfl⟩
  · exact withoutStages_prunedTo ordered distinct graph.excluded

theorem applyConditions_shape (ordered : InOrder graph.stages)
    (distinct : (graph.stages.map (·.id)).Nodup) :
    graph.applyConditions.stages.map unlinked =
      (graph.stages.filter fun s => s.conditions.all conditionHolds).map fun s =>
        { s with dependsOn := [], conditions := [] } := by
  have shape := (keptStages_prunedTo ordered distinct).shape
  rw [filter_excluded distinct] at shape
  have cleared := congrArg (List.map settled) shape
  rw [List.map_map, List.map_map] at cleared
  rw [applyConditions_stages, List.map_map]
  exact cleared

theorem exists_of_applyConditions (ordered : InOrder graph.stages)
    (distinct : (graph.stages.map (·.id)).Nodup) {stage : Stage}
    (listed : stage ∈ graph.applyConditions.stages) :
    ∃ s ∈ graph.stages, stage = { s with dependsOn := stage.dependsOn, conditions := [] } := by
  have shaped : unlinked stage ∈ graph.applyConditions.stages.map unlinked :=
    List.mem_map_of_mem listed
  rw [applyConditions_shape ordered distinct] at shaped
  obtain ⟨s, kept, same⟩ := List.mem_map.mp shaped
  refine ⟨s, (List.mem_filter.mp kept).1, ?_⟩
  exact congrArg (fun s : Stage => { s with dependsOn := stage.dependsOn }) same.symm

theorem applyConditions_inOrder (ordered : InOrder graph.stages)
    (distinct : (graph.stages.map (·.id)).Nodup) : InOrder graph.applyConditions.stages := by
  rw [applyConditions_stages]
  exact (keptStages_prunedTo ordered distinct).ordered.map (fun _ => rfl) fun _ => rfl

theorem applyConditions_reaches (ordered : InOrder graph.stages)
    (distinct : (graph.stages.map (·.id)).Nodup)
    (source : a ∈ graph.applyConditions.stages.map (·.id))
    (target : b ∈ graph.applyConditions.stages.map (·.id)) :
    Reaches graph.applyConditions.stages a b ↔ Reaches graph.stages a b := by
  rw [applyConditions_stages, List.map_map] at source target
  rw [applyConditions_stages, reaches_map settled (fun _ => rfl) fun _ => rfl]
  exact (keptStages_prunedTo ordered distinct).reaches_iff a source b target

/-- Of a graph stay exactly the stages whose conditions hold, in their order and without these
conditions. Two of them depend on each other as they did before, whatever was between them. -/
theorem applyConditions_keeps_order (ordered : InOrder graph.stages)
    (distinct : (graph.stages.map (·.id)).Nodup) :
    (graph.applyConditions.stages.map unlinked =
      (graph.stages.filter fun s => s.conditions.all conditionHolds).map fun s =>
        { s with dependsOn := [], conditions := [] }) ∧
    InOrder graph.applyConditions.stages ∧
    ∀ a ∈ graph.applyConditions.stages.map (·.id), ∀ b ∈ graph.applyConditions.stages.map (·.id),
      (Reaches graph.applyConditions.stages a b ↔ Reaches graph.stages a b) :=
  ⟨applyConditions_shape ordered distinct, applyConditions_inOrder ordered distinct,
    fun _ source _ target => applyConditions_reaches ordered distinct source target⟩

/-- A rollout of which a chain of stages is left out, one of them by a word. -/
def rollout : StageGraph :=
  ⟨[{ id := "bake" }, { id := "canary", dependsOn := ["bake"], conditions := [.bool false] },
    { id := "lint", conditions := [.bool true] },
    { id := "soak", dependsOn := ["canary", "lint"], conditions := [.string " False "] },
    { id := "deploy", dependsOn := ["soak", "canary"] }]⟩

theorem applyConditions_keeps_order_rollout :
    InOrder rollout.stages ∧ (rollout.stages.map (·.id)).Nodup ∧
    rollout.applyConditions.stages.map (·.id) = ["bake", "lint", "deploy"] ∧
    InOrder rollout.applyConditions.stages ∧
    (Reaches rollout.applyConditions.stages "deploy" "bake" ↔
      Reaches rollout.stages "deploy" "bake") ∧
    Reaches rollout.applyConditions.stages "deploy" "bake" := by
  have ordered : InOrder rollout.stages := by decide +kernel
  have distinct : (rollout.stages.map (·.id)).Nodup := by decide +kernel
  have kept : rollout.applyConditions.stages.map (·.id) = ["bake", "lint", "deploy"] := by
    decide +kernel
  obtain ⟨_, inOrder, reaches⟩ := applyConditions_keeps_order ordered distinct
  have same := reaches "deploy" (by simp [kept]) "bake" (by simp [kept])
  have second : Depends rollout.stages "deploy" "canary" :=
    ⟨rollout.stages[4], List.getElem_mem _, rfl, by decide +kernel⟩
  have first : Depends rollout.stages "canary" "bake" :=
    ⟨rollout.stages[1], List.getElem_mem _, rfl, by decide +kernel⟩
  exact ⟨ordered, distinct, kept, inOrder, same, same.mpr (.tail (.single second) first)⟩

end StageGraph

end StagePlan
