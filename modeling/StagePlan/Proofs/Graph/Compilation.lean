import StagePlan.Proofs.Graph.Arrangement
import StagePlan.Proofs.Graph.Expansion
import StagePlan.Proofs.Graph.Merging
import StagePlan.Proofs.Graph.Ordering

namespace StagePlan.Graph

/-!
What a compiled graph keeps of the stages that it was compiled from: every stage once, and every
ordering that was written down.
-/

variable {template configuration arranged : List Stage} {groups : Groups} {c : Compilation}

/-- The stages of a compilation on its way, from the arranged list to the graph. -/
structure Compiles (template configuration : List Stage) (groups : Groups) (arranged : List Stage)
    (c : Compilation) : Prop where
  distinct_configuration : (configuration.map (·.id)).Nodup
  distinct_merged : ((mergedStages template configuration).map (·.id)).Nodup
  arranged_eq : arrange (mergedStages template configuration) = .ok arranged
  closed_arranged : Closed arranged
  distinct_expanded : ((expand groups arranged).map (·.id)).Nodup
  closed_expanded : Closed (expand groups arranged)
  acyclic_expanded : Acyclic (expand groups arranged)
  graph_eq : c.graph.stages = topologicalOrder (expand groups arranged)

theorem checkEdges_eq_ok {stages : List Stage} (checked : checkEdges stages = .ok ()) :
    checkDependencies stages = .ok () ∧ checkCycles stages = .ok () := by
  obtain ⟨_, first, second⟩ := bind_eq_ok.mp checked
  exact ⟨first, second⟩

theorem compile_eq_ok (compiled : compile template configuration groups = .ok c) :
    ∃ arranged, Compiles template configuration groups arranged c := by
  simp only [compile, bind_eq_ok, pure_eq_ok] at compiled
  obtain ⟨_, joined, arranged, placed, _, before, _, unique, _, after, rfl⟩ := compiled
  obtain ⟨distinctTemplate, distinctConfiguration, rfl⟩ := merge_eq_ok joined
  obtain ⟨dependenciesAfter, cyclesAfter⟩ := checkEdges_eq_ok after
  have distinct := checkUnique_eq_ok.mp unique
  exact ⟨arranged, {
    distinct_configuration := distinctConfiguration
    distinct_merged := mergedStages_distinct distinctTemplate distinctConfiguration
    arranged_eq := placed
    closed_arranged := checkDependencies_closed (checkEdges_eq_ok before).1
    distinct_expanded := distinct
    closed_expanded := checkDependencies_closed dependenciesAfter
    acyclic_expanded := checkCycles_acyclic distinct cyclesAfter
    graph_eq := rfl }⟩

theorem bare_expand_perm (groups : Groups) {merged : List Stage}
    (placed : arrange merged = .ok arranged) :
    ((expand groups arranged).map bare).Perm ((merged.flatMap (contributed groups)).map bare) := by
  have whole : ∀ stages : List Stage, (stages.flatMap (contributed groups)).map bare =
      (stages.map bare).flatMap fun s => (contributed groups s).map bare := by
    intro stages
    rw [List.map_flatMap, List.flatMap_map]
    refine List.flatMap_congr fun s _ => ?_
    cases found : groups.find? s.id <;> simp [contributed, bare, found]
  rw [bare_expand, whole, whole]
  exact (arrange_perm placed).flatMap_right _

namespace Compiles

theorem graph_perm (run : Compiles template configuration groups arranged c) :
    c.graph.stages.Perm (expand groups arranged) := by
  rw [run.graph_eq]
  exact topologicalOrder_perm run.acyclic_expanded

theorem graph_distinct (run : Compiles template configuration groups arranged c) :
    (c.graph.stages.map (·.id)).Nodup :=
  (run.graph_perm.map (·.id)).nodup_iff.mpr run.distinct_expanded

theorem graph_inOrder (run : Compiles template configuration groups arranged c) :
    InOrder c.graph.stages := by
  rw [run.graph_eq]
  exact topologicalOrder_inOrder run.acyclic_expanded run.closed_expanded

theorem graph_reaches (run : Compiles template configuration groups arranged c) {a b : String} :
    Reaches c.graph.stages a b ↔ Reaches (expand groups arranged) a b :=
  reaches_perm run.graph_perm

theorem distinct_arranged (run : Compiles template configuration groups arranged c) :
    (arranged.map (·.id)).Nodup :=
  (arrange_ids run.arranged_eq).nodup_iff.mpr run.distinct_merged

theorem writtenOrder (run : Compiles template configuration groups arranged c) :
    WrittenOrder (mergedStages template configuration) (Reaches arranged) :=
  arrange_writtenOrder run.distinct_merged run.arranged_eq run.closed_arranged

theorem reaches_contributed (run : Compiles template configuration groups arranged c)
    (contained : SelfContained groups arranged) {y x u v : Stage}
    (yListed : y.id ∈ arranged.map (·.id)) (xListed : x.id ∈ arranged.map (·.id))
    (path : Reaches arranged y.id x.id) (uPart : u ∈ contributed groups y)
    (vPart : v ∈ contributed groups x) : Reaches c.graph.stages u.id v.id := by
  obtain ⟨later, laterListed, sameLater⟩ := List.mem_map.mp yListed
  obtain ⟨earlier, earlierListed, sameEarlier⟩ := List.mem_map.mp xListed
  obtain ⟨u', u'Part, sameU⟩ := contributed_of_id sameLater uPart
  obtain ⟨v', v'Part, sameV⟩ := contributed_of_id sameEarlier vPart
  rw [← sameLater, ← sameEarlier] at path
  rw [← sameU, ← sameV, run.graph_reaches]
  exact contained.reaches_expand run.acyclic_expanded run.distinct_arranged laterListed
    earlierListed path u'Part v'Part

/-- The graph holds what the merged stages contribute, up to dependencies and rules. -/
theorem graph_bare (run : Compiles template configuration groups arranged c) :
    (c.graph.stages.map bare).Perm
      (((mergedStages template configuration).flatMap (contributed groups)).map bare) :=
  (run.graph_perm.map bare).trans (bare_expand_perm groups run.arranged_eq)

end Compiles

theorem ids_contributed (groups : Groups) (stages : List Stage) :
    ((stages.flatMap (contributed groups)).map (·.id)).Perm
      ((stages.filter fun s => !groups.has s.id).map (·.id) ++
        (stages.flatMap fun s => (groups.find? s.id).getD []).map (·.id)) := by
  induction stages with
  | nil => exact .refl _
  | cons s rest ih =>
      have key := Bindings.has_eq_isSome groups s.id
      cases found : groups.find? s.id with
      | none => simpa [contributed, found, key] using ih
      | some group =>
          have moved := (ih.append_left (group.map (·.id))).trans
            (List.perm_append_comm_assoc _ _ _)
          simpa [contributed, found, key] using moved

theorem expand_empty (stages : List Stage) : expand [] stages = stages := by
  have plain : (stages.any fun s => Bindings.has s.id ([] : Groups)) = false := by
    simp [Bindings.has]
  simp [expand, plain]

/-- Stages of a delivery, one of them a placeholder. -/
def deliveryTemplate : List Stage :=
  [{ id := "bake" }, { id := "checks", dependsOn := ["bake"] },
    { id := "deploy", dependsOn := ["checks"] }]

def deliveryConfiguration : List Stage :=
  [{ id := "scan", inject? := some (.beforeAll ["gate"]) },
    { id := "gate", inject? := some (.afterAll ["checks"]) },
    { id := "deploy", type := "canary", dependsOn := ["checks", "bake"] },
    { id := "notify", inject? := some .atLast }, { id := "start", inject? := some .atFirst }]

def deliveryGroups : Groups :=
  [("checks", [{ id := "checks.lint" }, { id := "checks.unit", dependsOn := ["checks.lint"] }])]

/-- A compiled graph holds every stage once and in order: the merged stages that are no
placeholders, and the members of the groups of those that are. None of them changes beyond its
dependencies and its rule. -/
theorem compile_conserves_stages
    (compiled : compile template configuration groups = .ok c) :
    (c.graph.stages.map (·.id)).Nodup ∧
      InOrder c.graph.stages ∧
      (c.graph.stages.map (·.id)).Perm
        (((mergedStages template configuration).filter fun s => !groups.has s.id).map (·.id) ++
          ((mergedStages template configuration).flatMap fun s =>
            (groups.find? s.id).getD []).map (·.id)) ∧
      ∀ stage ∈ c.graph.stages, ∃ merged ∈ mergedStages template configuration,
        ∃ origin ∈ contributed groups merged,
          stage = { origin with dependsOn := stage.dependsOn, inject? := stage.inject? } := by
  obtain ⟨arranged, run⟩ := compile_eq_ok compiled
  refine ⟨run.graph_distinct, run.graph_inOrder, ?ids, ?fields⟩
  case ids =>
    have same := run.graph_bare.map (·.id)
    rw [map_id_bare, map_id_bare] at same
    exact same.trans (ids_contributed groups _)
  case fields =>
    intro stage listed
    have among := run.graph_bare.mem_iff.mp (List.mem_map_of_mem listed)
    obtain ⟨origin, contributes, same⟩ := List.mem_map.mp among
    obtain ⟨merged, member, part⟩ := List.mem_flatMap.mp contributes
    refine ⟨merged, member, origin, part, ?_⟩
    have restored := congrArg (fun s : Stage =>
      { s with dependsOn := stage.dependsOn, inject? := stage.inject? }) same
    exact restored.symm

theorem compile_conserves_stages_delivery :
    ∃ c, compile deliveryTemplate deliveryConfiguration deliveryGroups = .ok c ∧
      (c.graph.stages.map (·.id)).Nodup ∧ InOrder c.graph.stages ∧
      (c.graph.stages.map (·.id)).Perm
        ["bake", "deploy", "scan", "gate", "notify", "start", "checks.lint", "checks.unit"] ∧
      (∀ stage ∈ c.graph.stages, ∃ merged ∈ mergedStages deliveryTemplate deliveryConfiguration,
        ∃ origin ∈ contributed deliveryGroups merged,
          stage = { origin with dependsOn := stage.dependsOn, inject? := stage.inject? }) ∧
      c.graph.stages.map (fun s => (s.id, s.type, s.dependsOn)) =
        [("start", "", []), ("bake", "", ["start"]), ("checks.lint", "", ["bake"]),
          ("checks.unit", "", ["checks.lint"]), ("scan", "", ["checks.unit"]),
          ("gate", "", ["scan"]), ("deploy", "canary", ["bake", "gate"]),
          ("notify", "", ["deploy"])] := by
  have computed : (compile deliveryTemplate deliveryConfiguration deliveryGroups).map
      (fun c => c.graph.stages.map fun s => (s.id, s.type, s.dependsOn)) =
        .ok [("start", "", []), ("bake", "", ["start"]), ("checks.lint", "", ["bake"]),
          ("checks.unit", "", ["checks.lint"]), ("scan", "", ["checks.unit"]),
          ("gate", "", ["scan"]), ("deploy", "canary", ["bake", "gate"]),
          ("notify", "", ["deploy"])] := by
    decide +kernel
  obtain ⟨c, compiled, written⟩ := map_eq_ok.mp computed
  obtain ⟨distinct, ordered, ids, origins⟩ := compile_conserves_stages compiled
  exact ⟨c, compiled, distinct, ordered, ids, origins, written⟩

/-- What templates and configurations write about the order of stages holds in the graph that they
compile to. -/
theorem compile_keeps_written_order
    (compiled : compile template configuration [] = .ok c) :
    WrittenOrder (mergedStages template configuration) (Reaches c.graph.stages) := by
  obtain ⟨arranged, run⟩ := compile_eq_ok compiled
  refine run.writtenOrder.mono fun a b path => ?_
  rw [run.graph_reaches, expand_empty]
  exact path

theorem compile_keeps_written_order_delivery :
    ∃ c, compile deliveryTemplate deliveryConfiguration [] = .ok c ∧
      WrittenOrder (mergedStages deliveryTemplate deliveryConfiguration)
        (Reaches c.graph.stages) ∧
      c.graph.stages.map (fun s => (s.id, s.dependsOn)) =
        [("start", []), ("bake", ["start"]), ("checks", ["bake"]), ("scan", ["checks"]),
          ("gate", ["scan"]), ("deploy", ["bake", "gate"]), ("notify", ["deploy"])] ∧
      Reaches c.graph.stages "deploy" "checks" ∧ Reaches c.graph.stages "gate" "scan" ∧
      Reaches c.graph.stages "gate" "checks" ∧ Reaches c.graph.stages "deploy" "gate" ∧
      Reaches c.graph.stages "notify" "checks" ∧ Reaches c.graph.stages "checks" "start" := by
  have computed : (compile deliveryTemplate deliveryConfiguration []).map
      (fun c => c.graph.stages.map fun s => (s.id, s.dependsOn)) =
        .ok [("start", []), ("bake", ["start"]), ("checks", ["bake"]), ("scan", ["checks"]),
          ("gate", ["scan"]), ("deploy", ["bake", "gate"]), ("notify", ["deploy"])] := by
    decide +kernel
  obtain ⟨c, compiled, written⟩ := map_eq_ok.mp computed
  have order := compile_keeps_written_order compiled
  have merged : mergedStages deliveryTemplate deliveryConfiguration =
      [{ id := "bake" }, { id := "checks", dependsOn := ["bake"] },
        { id := "deploy", type := "canary", dependsOn := ["checks", "bake"] },
        { id := "scan", inject? := some (.beforeAll ["gate"]) },
        { id := "gate", inject? := some (.afterAll ["checks"]) },
        { id := "notify", inject? := some .atLast },
        { id := "start", inject? := some .atFirst }] := rfl
  refine ⟨c, compiled, order, written, ?_⟩
  rw [merged] at order
  refine ⟨?dependency, ?before, ?after, ?dependent, ?last, ?first⟩
  case dependency =>
    exact order.dependencies { id := "deploy", type := "canary", dependsOn := ["checks", "bake"] }
      (by simp) rfl "checks" (by simp)
  case before =>
    exact order.before_target { id := "scan", inject? := some (.beforeAll ["gate"]) } (by simp)
      ["gate"] rfl "gate" (by simp)
  case after =>
    exact order.after_target { id := "gate", inject? := some (.afterAll ["checks"]) } (by simp)
      ["checks"] rfl "checks" (by simp)
  case dependent =>
    exact order.after_dependent { id := "gate", inject? := some (.afterAll ["checks"]) } (by simp)
      ["checks"] rfl { id := "deploy", type := "canary", dependsOn := ["checks", "bake"] }
      (by simp) rfl "checks" (by simp) (by simp)
  case last =>
    exact order.last { id := "notify", inject? := some .atLast } (by simp) rfl
      { id := "checks", dependsOn := ["bake"] } (by simp) rfl
  case first =>
    refine order.first ?_ { id := "start", inject? := some .atFirst } (by simp) rfl
      { id := "checks", dependsOn := ["bake"] } (by simp) rfl
    simp [Standing, Stage.injection?, InjectionRule.hasAny]

end StagePlan.Graph
