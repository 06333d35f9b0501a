import StagePlan.Proofs.Graph.StandingStages

namespace StagePlan.Graph

open Relation

/-!
Which stage a missing dependency is blamed on. A placement hands missing dependencies on only from
the targets to a stage that is placed before them, so that the way back leads to a stage that was
written with the dependency.
-/

variable {template configuration merged arranged base stages final : List Stage}
  {order : Pending} {stage : Stage} {placement : Placement} {a b : String}

/-- By its rule, a merged stage is placed before the target and takes over what that depends on. -/
def TakesOver (merged : List Stage) (id target : String) : Prop :=
  ∃ stage ∈ merged, stage.id = id ∧ ∃ targets, InjectedAt stage (.before targets) ∧ target ∈ targets

theorem ownDependencies_missing (distinct : (stages.map (·.id)).Nodup)
    (placeable : isPlaceable stages placement = true) (own : b ∈ ownDependencies stages placement)
    (missing : b ∉ stages.map (·.id)) :
    ∃ targets, placement = .before targets ∧ ∃ target ∈ targets, Depends stages target b := by
  cases placement with
  | first => simp [ownDependencies] at own
  | last => exact absurd (mem_leaves.mp own).1 missing
  | before targets => exact ⟨targets, rfl, (mem_prerequisites distinct).mp own⟩
  | after targets => exact absurd (mem_targets_of_isPlaceable placeable own) missing

theorem missing_of_place (distinct : (stages.map (·.id)).Nodup)
    (placeable : isPlaceable stages placement = true)
    (edge : Depends (place stage placement stages) a b)
    (missing : b ∉ (place stage placement stages).map (·.id)) :
    Depends stages a b ∨ a = stage.id ∧
      ∃ targets, placement = .before targets ∧ ∃ target ∈ targets, Depends stages target b := by
  rw [ids_place.mem_iff, List.mem_cons, not_or] at missing
  rcases depends_place.mp edge with ⟨same, own⟩ | ⟨s, member, rfl, named⟩
  · exact .inr ⟨same, ownDependencies_missing distinct placeable own missing.2⟩
  · exact .inl (.of_mem member ((rewiredDependencies_known named).resolve_left missing.1))

/-- A missing dependency of a stage at the end of a run was that of a stage at its start, from which
stages placed before others have taken it over one after the other. -/
theorem PlacementRun.author (run : PlacementRun stages order final)
    (distinct : DistinctIds stages order)
    (rules : ∀ entry ∈ order, entry.1 ∈ merged ∧ InjectedAt entry.1 entry.2)
    (edge : Depends final a b) (missing : b ∉ final.map (·.id)) :
    ∃ author, Depends stages author b ∧ ReflTransGen (TakesOver merged) a author := by
  induction run with
  | done => exact ⟨a, edge, .refl⟩
  | @next stages final first how rest placeable _ run ih =>
      obtain ⟨⟨member, rule⟩, others⟩ := List.forall_mem_cons.mp rules
      obtain ⟨holder, held, path⟩ := ih distinct.place others edge missing
      have absent : b ∉ (place first how stages).map (·.id) :=
        fun listed => missing (run.ids.mem_iff.mpr (List.mem_append_left _ listed))
      rcases missing_of_place distinct.listed placeable held absent with
        old | ⟨rfl, targets, rfl, target, isTarget, old⟩
      · exact ⟨holder, old, path⟩
      · exact ⟨target, old, path.tail ⟨first, member, rfl, targets, rule, isTarget⟩⟩

theorem depends_of_checkDependencies
    (failed : checkDependencies stages = .error (.unknownDependency a b)) :
    Depends stages a b ∧ b ∉ stages.map (·.id) := by
  unfold checkDependencies at failed
  split at failed
  · rename_i found
    cases failed
    obtain ⟨stage, member, blamed⟩ := List.exists_of_findSome?_eq_some found
    obtain ⟨id, named, same⟩ := Option.map_eq_some_iff.mp blamed
    obtain ⟨rfl, rfl⟩ := Prod.mk.inj same
    exact ⟨.of_mem member (List.mem_of_find?_eq_some named),
      by simpa using List.find?_some named⟩
  · contradiction

/-- Without placeholders, a missing dependency is found as soon as the merged stages are arranged. -/
theorem exists_arranged_of_unknown
    (failed : compile template configuration [] = .error (.unknownDependency a b)) :
    Mergeable template configuration ∧
      ∃ arranged, arrange (mergedStages template configuration) = .ok arranged ∧
        Depends arranged a b ∧ b ∉ arranged.map (·.id) := by
  have mergeable : Mergeable template configuration := by
    by_contra repeated
    obtain ⟨id, other⟩ := compile_of_repeated repeated
    rw [failed] at other
    cases other
  refine ⟨mergeable, ?_⟩
  cases compile_eq_error failed with
  | dangling placed missing => exact ⟨_, placed, depends_of_checkDependencies missing⟩
  | danglingMember prepared missing =>
      rw [expand_empty, checkDependencies_of_closed prepared.closed] at missing
      contradiction

theorem arrange_author (distinct : (merged.map (·.id)).Nodup)
    (placed : arrange merged = .ok arranged) (edge : Depends arranged a b)
    (missing : b ∉ arranged.map (·.id)) :
    ∃ author ∈ merged, Standing author ∧ b ∈ author.dependsOn ∧
      ReflTransGen (TakesOver merged) a author.id := by
  obtain ⟨base, order, division, run⟩ := arrange_run placed
  have rules : ∀ entry ∈ order, entry.1 ∈ merged ∧ InjectedAt entry.1 entry.2 :=
    fun entry listed => (division.mem_pending entry.1 entry.2).mp listed
  obtain ⟨_, ⟨s, inBase, rfl, named⟩, path⟩ :=
    run.author (division.distinctIds distinct) rules edge missing
  obtain ⟨author, member, standing, rfl⟩ := (division.mem_base s).mp inBase
  exact ⟨author, member, standing, named, path⟩

/-- A missing dependency is that of no merged stage. It was written for a stage without a rule; if it
is blamed on another one, this one is placed before the author, or before a stage that is, and so on. -/
theorem compile_blames_author
    (failed : compile template configuration [] = .error (.unknownDependency a b)) :
    b ∉ (mergedStages template configuration).map (·.id) ∧
      ∃ blamed ∈ mergedStages template configuration, blamed.id = a ∧
        (Standing blamed → b ∈ blamed.dependsOn) ∧
        ∃ author ∈ mergedStages template configuration, Standing author ∧ b ∈ author.dependsOn ∧
          ReflTransGen (TakesOver (mergedStages template configuration)) blamed.id author.id := by
  obtain ⟨mergeable, arranged, placed, edge, missing⟩ := exists_arranged_of_unknown failed
  have distinct := mergedStages_distinct mergeable.1 mergeable.2
  obtain ⟨author, member, standing, named, path⟩ := arrange_author distinct placed edge missing
  have ids := arrange_ids placed
  obtain ⟨blamed, listed, rfl⟩ :=
    List.mem_map.mp (ids.mem_iff.mp (Reaches.single edge).source_listed)
  refine ⟨mt ids.mem_iff.mpr missing, blamed, listed, rfl, fun unruled => ?_, author, member,
    standing, named, path⟩
  rcases path.cases_head with same | ⟨_, ⟨s, sListed, same, _, rule, _⟩, _⟩
  · exact List.inj_on_of_nodup_map distinct listed member same ▸ named
  · -- a stage that takes over has a rule
    have equal : s = blamed := List.inj_on_of_nodup_map distinct sListed listed same
    exact absurd rule (not_injectedAt_of_standing (equal ▸ unruled))

/-- A stage that depends on one that is not there, behind a gate and an approval. -/
def ghostTemplate : List Stage :=
  [{ id := "bake" }, { id := "deploy", dependsOn := ["bake", "ghost"] }]

def ghostConfiguration : List Stage :=
  [{ id := "approve", inject? := some (.beforeAll ["gate"]) },
    { id := "gate", inject? := some (.beforeAll ["deploy"]) }]

theorem compile_blames_author_ghost :
    compile ghostTemplate ghostConfiguration [] =
        .error (.unknownDependency "approve" "ghost") ∧
      ∃ author ∈ mergedStages ghostTemplate ghostConfiguration, Standing author ∧
        "ghost" ∈ author.dependsOn ∧
        ReflTransGen (TakesOver (mergedStages ghostTemplate ghostConfiguration))
          "approve" author.id := by
  have failed : compile ghostTemplate ghostConfiguration [] =
      .error (.unknownDependency "approve" "ghost") := by
    rfl
  obtain ⟨_, blamed, _, same, _, author, member, standing, named, path⟩ :=
    compile_blames_author failed
  exact ⟨failed, author, member, standing, named, same ▸ path⟩

/-- The approval is blamed, though nothing is written for it to depend on. -/
theorem compile_blames_placed_stage :
    compile ghostTemplate ghostConfiguration [] =
        .error (.unknownDependency "approve" "ghost") ∧
      ¬∃ s ∈ mergedStages ghostTemplate ghostConfiguration,
        s.id = "approve" ∧ "ghost" ∈ s.dependsOn := by
  exact ⟨rfl, by decide +kernel⟩

end StagePlan.Graph
