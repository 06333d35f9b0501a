import StagePlan.Proofs.Graph.LeastOrder
import StagePlan.Proofs.Graph.Merging
import StagePlan.Proofs.Graph.Placeholders
import StagePlan.Proofs.Graph.Rings

namespace StagePlan.Graph

/-!
Compiling stages none of which has a rule. Nothing is placed, so that the checks of the merged list
alone decide, in a fixed order, between a graph and an error.
-/

variable {template configuration merged stages : List Stage} {groups : Groups} {stage : Stage}

/-- The stage without its rule. -/
def unruled (stage : Stage) : Stage :=
  { stage with inject? := none }

/-- Neither list repeats an id. -/
def Mergeable (template configuration : List Stage) : Prop :=
  (template.map (·.id)).Nodup ∧ (configuration.map (·.id)).Nodup

theorem mem_of_mergedStages (listed : stage ∈ mergedStages template configuration) :
    stage ∈ template ++ configuration := by
  rw [mergedStages, List.mem_append, List.mem_map] at listed
  rcases listed with ⟨old, member, rfl⟩ | added
  · cases found : configuration.find? fun s => s.id = old.id with
    | none => exact List.mem_append_left _ member
    | some new => exact List.mem_append_right _ (List.mem_of_find?_eq_some found)
  · exact List.mem_append_right _ (List.mem_filter.mp added).1

theorem ofStage_of_standing (standing : Standing stage) :
    Role.ofStage stage = .ok (.base (unruled stage)) := by
  rw [Standing] at standing
  simp only [Role.ofStage, standing]
  rfl

/-- Stages without rules stay where they are. -/
theorem arrange_of_standing (standing : ∀ s ∈ merged, Standing s) :
    arrange merged = .ok (merged.map unruled) := by
  have roles : merged.mapM Role.ofStage = .ok (merged.map fun s => .base (unruled s)) := by
    induction merged with
    | nil => rfl
    | cons first rest ih =>
        obtain ⟨here, later⟩ := List.forall_mem_cons.mp standing
        exact mapM_cons_eq_ok.mpr ⟨_, ofStage_of_standing here, _, ih later, rfl⟩
  have none : injectedStages (merged.map fun s => .base (unruled s)) = [] := by
    simp [injectedStages, List.filterMap_map]
  have all : baseStages (merged.map fun s => .base (unruled s)) = merged.map unruled := by
    simp [baseStages, List.filterMap_map]
  simp only [arrange, bind_eq_ok]
  exact ⟨_, roles, (), by rw [none]; rfl, by rw [none, all]; rfl⟩

theorem closed_unruled : Closed (stages.map unruled) ↔ Closed stages := by
  simp [Closed, unruled]

theorem acyclic_unruled : Acyclic (stages.map unruled) ↔ Acyclic stages :=
  forall_congr' fun _ => not_congr (reaches_map unruled (fun _ => rfl) fun _ => rfl)

theorem ids_unruled : (stages.map unruled).map (·.id) = stages.map (·.id) := by
  rw [List.map_map]
  rfl

theorem checkDependencies_eq_unknown_iff :
    (∃ s id, checkDependencies stages = .error (.unknownDependency s id)) ↔ ¬ Closed stages := by
  constructor
  · rintro ⟨s, id, failed⟩ closed
    rw [checkDependencies_of_closed closed] at failed
    contradiction
  · intro dangling
    cases checked : checkDependencies stages with
    | ok _ => exact absurd (checkDependencies_closed checked) dangling
    | error e =>
        obtain ⟨s, id, rfl⟩ := checkDependencies_eq_error checked
        exact ⟨s, id, rfl⟩

theorem checkEdges_eq_ok_iff (distinct : (stages.map (·.id)).Nodup) :
    checkEdges stages = .ok () ↔ Closed stages ∧ Acyclic stages := by
  rw [← checkCycles_eq_ok distinct]
  constructor
  · intro checked
    obtain ⟨dependencies, cycles⟩ := checkEdges_eq_ok checked
    exact ⟨checkDependencies_closed dependencies, cycles⟩
  · rintro ⟨closed, cycles⟩
    exact bind_eq_ok.mpr ⟨(), checkDependencies_of_closed closed, cycles⟩

theorem checkEdges_of_dangling (dangling : ¬ Closed stages) :
    ∃ s id, checkEdges stages = .error (.unknownDependency s id) := by
  obtain ⟨s, id, failed⟩ := checkDependencies_eq_unknown_iff.mpr dangling
  exact ⟨s, id, bind_eq_error.mpr (.inl failed)⟩

theorem checkEdges_of_ring (distinct : (stages.map (·.id)).Nodup) (closed : Closed stages)
    (cyclic : ¬ Acyclic stages) : ∃ ring, checkEdges stages = .error (.cycle ring) := by
  obtain ⟨ring, failed⟩ := (checkCycles_eq_cycle_iff distinct).mpr cyclic
  exact ⟨ring, bind_eq_error.mpr (.inr ⟨(), checkDependencies_of_closed closed, failed⟩)⟩

theorem merge_of_mergeable (mergeable : Mergeable template configuration) :
    merge template configuration =
      .ok ⟨mergedStages template configuration, overrideWarnings template configuration⟩ := by
  simp only [merge_eq, bind_eq_ok, pure_eq_ok]
  exact ⟨(), checkUnique_eq_ok.mpr mergeable.1, (), checkUnique_eq_ok.mpr mergeable.2, trivial⟩

theorem merge_of_repeated (repeated : ¬ Mergeable template configuration) :
    ∃ id, merge template configuration = .error (.duplicateStage id) := by
  simp only [merge_eq, bind_eq_error]
  by_cases first : (template.map (·.id)).Nodup
  · obtain ⟨id, failed⟩ := exists_checkUnique_eq_error_iff.mpr fun second => repeated ⟨first, second⟩
    exact ⟨id, .inr ⟨(), checkUnique_eq_ok.mpr first, .inl failed⟩⟩
  · obtain ⟨id, failed⟩ := exists_checkUnique_eq_error_iff.mpr first
    exact ⟨id, .inl failed⟩

theorem compile_of_repeated (repeated : ¬ Mergeable template configuration) :
    ∃ id, compile template configuration groups = .error (.duplicateStage id) := by
  obtain ⟨id, failed⟩ := merge_of_repeated repeated
  exact ⟨id, bind_eq_error.mpr (.inl failed)⟩

theorem mergeable_of_compile {c : Compilation}
    (compiled : compile template configuration groups = .ok c) :
    Mergeable template configuration := by
  by_contra repeated
  obtain ⟨id, failed⟩ := compile_of_repeated repeated
  rw [compiled] at failed
  contradiction

theorem distinct_unruled (mergeable : Mergeable template configuration) :
    (((mergedStages template configuration).map unruled).map (·.id)).Nodup := by
  rw [ids_unruled]
  exact mergedStages_distinct mergeable.1 mergeable.2

/-- The second round of checks comes to the same as the first one. -/
theorem compile_of_standing (mergeable : Mergeable template configuration)
    (standing : ∀ s ∈ template ++ configuration, Standing s) :
    compile template configuration [] =
      (checkEdges ((mergedStages template configuration).map unruled)).map fun _ =>
        ⟨⟨topologicalOrder ((mergedStages template configuration).map unruled)⟩,
          overrideWarnings template configuration⟩ := by
  have arranged := arrange_of_standing fun s listed => standing s (mem_of_mergedStages listed)
  rw [compile_eq_prepare, prepare, merge_of_mergeable mergeable]
  simp only [bind, Except.bind, arranged]
  cases checked : checkEdges ((mergedStages template configuration).map unruled) with
  | error e => rfl
  | ok _ =>
      have unique := checkUnique_eq_ok.mpr (distinct_unruled mergeable)
      simp only [pure, Except.pure, expand_empty, unique, checked]
      rfl

/-- Stages of which none has a rule compile exactly if no list repeats an id, no dependency is
missing and none leads in a ring; what is not so is reported in this order. The graph is the merged
list in its least order, and every replaced stage has a warning. -/
theorem compile_checks_standing (standing : ∀ s ∈ template ++ configuration, Standing s) :
    ((∃ c, compile template configuration [] = .ok c) ↔
      Mergeable template configuration ∧ Closed (mergedStages template configuration) ∧
        Acyclic (mergedStages template configuration)) ∧
    (∀ c, compile template configuration [] = .ok c →
      configuration.foldl Overlay.lay ⟨template, []⟩ =
          ⟨mergedStages template configuration, c.diagnostics⟩ ∧
        LeastOrder ((mergedStages template configuration).map unruled) c.graph.stages ∧
        c.diagnostics = (configuration.filter fun s => (template.map (·.id)).contains s.id).map
          fun s => ⟨"Stage '" ++ s.id ++ "' overrides the template stage",
            "configuration:stages." ++ s.id, .warn⟩) ∧
    (¬ Mergeable template configuration →
      ∃ id, compile template configuration [] = .error (.duplicateStage id)) ∧
    (Mergeable template configuration → ¬ Closed (mergedStages template configuration) →
      ∃ s id, compile template configuration [] = .error (.unknownDependency s id)) ∧
    (Mergeable template configuration → Closed (mergedStages template configuration) →
      ¬ Acyclic (mergedStages template configuration) →
      ∃ ring, compile template configuration [] = .error (.cycle ring)) := by
  refine ⟨⟨?onlyIf, ?whenever⟩, ?graph, compile_of_repeated, ?dangling, ?ring⟩
  case onlyIf =>
    rintro ⟨c, compiled⟩
    have mergeable := mergeable_of_compile compiled
    rw [compile_of_standing mergeable standing, map_eq_ok] at compiled
    obtain ⟨_, checked, _⟩ := compiled
    rw [checkEdges_eq_ok_iff (distinct_unruled mergeable), closed_unruled, acyclic_unruled]
      at checked
    exact ⟨mergeable, checked⟩
  case whenever =>
    rintro ⟨mergeable, sound⟩
    rw [← closed_unruled, ← acyclic_unruled,
      ← checkEdges_eq_ok_iff (distinct_unruled mergeable)] at sound
    rw [compile_of_standing mergeable standing, sound]
    exact ⟨_, rfl⟩
  case graph =>
    intro c compiled
    have mergeable := mergeable_of_compile compiled
    rw [compile_of_standing mergeable standing, map_eq_ok] at compiled
    obtain ⟨_, checked, rfl⟩ := compiled
    obtain ⟨closed, acyclic⟩ := (checkEdges_eq_ok_iff (distinct_unruled mergeable)).mp checked
    exact ⟨foldl_lay mergeable.1 mergeable.2,
      leastOrder_topologicalOrder (distinct_unruled mergeable) closed acyclic, rfl⟩
  case dangling =>
    intro mergeable dangling
    obtain ⟨s, id, failed⟩ := checkEdges_of_dangling (mt closed_unruled.mp dangling)
    exact ⟨s, id, by rw [compile_of_standing mergeable standing, failed]; rfl⟩
  case ring =>
    intro mergeable closed cyclic
    obtain ⟨ring, failed⟩ := checkEdges_of_ring (distinct_unruled mergeable)
      (closed_unruled.mpr closed) (mt acyclic_unruled.mp cyclic)
    exact ⟨ring, by rw [compile_of_standing mergeable standing, failed]; rfl⟩

/-- A template whose stages stand behind those that depend on them. -/
def rolloutTemplate : List Stage :=
  [{ id := "deploy", dependsOn := ["bake"] }, { id := "verify", dependsOn := ["deploy"] },
    { id := "bake" }]

/-- Two stages replace others, one of them with a rule that asks for nothing. -/
def rolloutConfiguration : List Stage :=
  [{ id := "bake", type := "image", dependsOn := ["lint"] }, { id := "lint" },
    { id := "deploy", type := "canary", dependsOn := ["bake"], inject? := some {} }]

theorem compile_checks_standing_rollout :
    (∀ s ∈ rolloutTemplate ++ rolloutConfiguration, Standing s) ∧
      ∃ c, compile rolloutTemplate rolloutConfiguration [] = .ok c ∧
        LeastOrder ((mergedStages rolloutTemplate rolloutConfiguration).map unruled)
          c.graph.stages ∧
        c.graph.stages.map (fun s => (s.id, s.type, s.dependsOn)) =
          [("lint", "", []), ("bake", "image", ["lint"]), ("deploy", "canary", ["bake"]),
            ("verify", "", ["deploy"])] ∧
        c.diagnostics =
          [⟨"Stage 'bake' overrides the template stage", "configuration:stages.bake", .warn⟩,
            ⟨"Stage 'deploy' overrides the template stage", "configuration:stages.deploy",
              .warn⟩] := by
  have standing : ∀ s ∈ rolloutTemplate ++ rolloutConfiguration, Standing s := by
    simp [rolloutTemplate, rolloutConfiguration, Standing, Stage.injection?,
      InjectionRule.hasAny]
  obtain ⟨_, graph, _⟩ := compile_checks_standing standing
  have computed : (compile rolloutTemplate rolloutConfiguration []).map
      (fun c => c.graph.stages.map fun s => (s.id, s.type, s.dependsOn)) =
        .ok [("lint", "", []), ("bake", "image", ["lint"]), ("deploy", "canary", ["bake"]),
          ("verify", "", ["deploy"])] := by
    decide +kernel
  obtain ⟨c, compiled, written⟩ := map_eq_ok.mp computed
  obtain ⟨_, least, warnings⟩ := graph c compiled
  exact ⟨standing, c, compiled, least, written, warnings.trans (by decide +kernel)⟩

end StagePlan.Graph
