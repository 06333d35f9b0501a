import StagePlan.Proofs.Graph.CycleSearch

namespace StagePlan.Graph

open Relation

/-!
What one placement does to dependence. Up to its place in the list, a placement adds one stage with
dependencies of its own and rewires those of the others. No stage loses a path that it had.
-/

/-- What a stage depends on when it has just been placed. -/
def ownDependencies (stages : List Stage) : Placement → List String
  | .first => []
  | .last => leaves stages
  | .before targets => prerequisites targets stages
  | .after targets => targets

/-- What a listed stage depends on when `id` has just been placed. -/
def rewiredDependencies (id : String) : Placement → Stage → List String
  | .first, s => if s.dependsOn.isEmpty then [id] else s.dependsOn
  | .last, s => s.dependsOn
  | .before targets, s => if targets.contains s.id then [id] else s.dependsOn
  | .after targets, s => behindTargets targets id s.dependsOn

variable {stages : List Stage} {stage : Stage} {placement : Placement} {targets : List String}
  {a b id : String}

theorem insertAt_perm (index : Nat) (stage : Stage) (stages : List Stage) :
    (insertAt index stage stages).Perm (stage :: stages) := by
  have moved : (stages.take index ++ stage :: stages.drop index).Perm
      (stage :: (stages.take index ++ stages.drop index)) := List.perm_middle
  rwa [List.take_append_drop] at moved

theorem place_perm (stage : Stage) (placement : Placement) (stages : List Stage) :
    (place stage placement stages).Perm
      ({ stage with inject? := none, dependsOn := ownDependencies stages placement } ::
        stages.map fun s =>
          { s with dependsOn := rewiredDependencies stage.id placement s }) := by
  cases placement with
  | first =>
      have rewired : ∀ s ∈ stages,
          (if s.dependsOn.isEmpty then { s with dependsOn := [stage.id] } else s) =
            { s with dependsOn := rewiredDependencies stage.id .first s } := by
        intro s _
        simp only [rewiredDependencies]
        split <;> rfl
      simp only [place, placeFirst, List.map_congr_left rewired]
      exact .refl _
  | last =>
      simp only [place, placeLast, rewiredDependencies, List.map_id']
      exact List.perm_append_singleton _ _
  | before targets =>
      have rewired : ∀ s ∈ stages,
          (if targets.contains s.id then { s with dependsOn := [stage.id] } else s) =
            { s with dependsOn := rewiredDependencies stage.id (.before targets) s } := by
        intro s _
        simp only [rewiredDependencies]
        split <;> rfl
      simp only [place, placeBefore, List.map_congr_left rewired]
      exact insertAt_perm _ _ _
  | after targets => exact insertAt_perm _ _ _

theorem depends_place :
    Depends (place stage placement stages) a b ↔
      (a = stage.id ∧ b ∈ ownDependencies stages placement) ∨
        ∃ s ∈ stages, s.id = a ∧ b ∈ rewiredDependencies stage.id placement s := by
  have members := fun s => (place_perm stage placement stages).mem_iff (a := s)
  simp only [Depends, members, List.mem_cons, List.mem_map, or_and_right, exists_or,
    exists_eq_left, exists_exists_and_eq_and]
  constructor
  · rintro (⟨rfl, own⟩ | other)
    · exact .inl ⟨rfl, own⟩
    · exact .inr other
  · rintro (⟨rfl, own⟩ | other)
    · exact .inl ⟨rfl, own⟩
    · exact .inr other

theorem mem_prerequisites (distinct : (stages.map (·.id)).Nodup) :
    id ∈ prerequisites targets stages ↔ ∃ target ∈ targets, Depends stages target id := by
  simp only [prerequisites, mem_dedup, List.mem_flatMap]
  refine exists_congr fun target => and_congr_right fun _ => ?_
  constructor
  · intro named
    cases found : stages.find? fun s => s.id = target with
    | none => simp [found] at named
    | some s =>
        have same : s.id = target := by simpa using List.find?_some found
        exact ⟨s, List.mem_of_find?_eq_some found, same, by simpa [found] using named⟩
  · rintro ⟨s, member, rfl, named⟩
    obtain ⟨other, listed, same, found⟩ := find_of_listed (List.mem_map_of_mem member)
    have equal : other = s := List.inj_on_of_nodup_map distinct listed member same
    simpa [found, equal] using named

theorem mem_behindTargets {dependsOn : List String} {new : String} :
    id ∈ behindTargets targets new dependsOn ↔
      (id ∈ dependsOn ∧ id ∉ targets) ∨ (id = new ∧ ∃ target ∈ targets, target ∈ dependsOn) := by
  unfold behindTargets
  split
  · rename_i hit
    obtain ⟨target, named, isTarget⟩ : ∃ target ∈ dependsOn, target ∈ targets := by simpa using hit
    have some_target : ∃ target ∈ targets, target ∈ dependsOn := ⟨target, isTarget, named⟩
    simp only [some_target, and_true]
    split
    · rename_i known
      have kept : new ∈ dependsOn ∧ new ∉ targets := by simpa using known
      constructor
      · intro found
        exact .inl (by simpa using found)
      · rintro (old | rfl)
        · simpa using old
        · simpa using kept
    · simp
  · rename_i miss
    have apart : ∀ target ∈ dependsOn, target ∉ targets := by simpa using miss
    constructor
    · exact fun named => .inl ⟨named, apart id named⟩
    · rintro (⟨named, _⟩ | ⟨_, target, isTarget, named⟩)
      · exact named
      · exact absurd isTarget (apart target named)

theorem reaches_place_of_depends (distinct : (stages.map (·.id)).Nodup)
    (edge : Depends stages a b) : Reaches (place stage placement stages) a b := by
  obtain ⟨s, member, rfl, named⟩ := edge
  have rewired : ∀ next, next ∈ rewiredDependencies stage.id placement s →
      Depends (place stage placement stages) s.id next :=
    fun _ listed => depends_place.mpr (.inr ⟨s, member, rfl, listed⟩)
  have own : ∀ next, next ∈ ownDependencies stages placement →
      Depends (place stage placement stages) stage.id next :=
    fun _ listed => depends_place.mpr (.inl ⟨rfl, listed⟩)
  -- wherever a placement takes an edge away, a path leads through the new stage
  cases placement with
  | first =>
      refine .single (rewired b ?_)
      have full : s.dependsOn ≠ [] := List.ne_nil_of_mem named
      simpa [rewiredDependencies, full] using named
  | last => exact .single (rewired b named)
  | before targets =>
      by_cases isTarget : s.id ∈ targets
      · have toStage := rewired stage.id (by simp [rewiredDependencies, isTarget])
        have onward := own b
          ((mem_prerequisites distinct).mpr ⟨s.id, isTarget, .of_mem member named⟩)
        exact .tail (.single toStage) onward
      · exact .single (rewired b (by simpa [rewiredDependencies, isTarget] using named))
  | after targets =>
      by_cases isTarget : b ∈ targets
      · have toStage := rewired stage.id
          (mem_behindTargets.mpr (.inr ⟨rfl, b, isTarget, named⟩))
        exact .tail (.single toStage) (own b isTarget)
      · exact .single (rewired b (mem_behindTargets.mpr (.inl ⟨named, isTarget⟩)))

theorem reaches_place (distinct : (stages.map (·.id)).Nodup) (path : Reaches stages a b) :
    Reaches (place stage placement stages) a b :=
  path.lift fun _ _ => reaches_place_of_depends distinct

theorem before_reaches_stage (listed : a ∈ stages.map (·.id)) (isTarget : a ∈ targets) :
    Reaches (place stage (.before targets) stages) a stage.id := by
  obtain ⟨s, member, rfl⟩ := List.mem_map.mp listed
  refine .single (depends_place.mpr (.inr ⟨s, member, rfl, ?_⟩))
  simp [rewiredDependencies, isTarget]

theorem before_reaches_prerequisite (distinct : (stages.map (·.id)).Nodup)
    (isTarget : a ∈ targets) (path : Reaches stages a b) :
    Reaches (place stage (.before targets) stages) stage.id b := by
  obtain ⟨next, edge, onward⟩ := TransGen.head'_iff.mp path
  have start : Depends (place stage (.before targets) stages) stage.id next :=
    depends_place.mpr (.inl ⟨rfl, (mem_prerequisites distinct).mpr ⟨a, isTarget, edge⟩⟩)
  exact .head' start (reflTransGen_lift (fun _ _ => reaches_place_of_depends distinct) onward)

theorem after_reaches_target (isTarget : a ∈ targets) :
    Reaches (place stage (.after targets) stages) stage.id a :=
  .single (depends_place.mpr (.inl ⟨rfl, isTarget⟩))

theorem after_reached_by_dependent (distinct : (stages.map (·.id)).Nodup)
    (isTarget : b ∈ targets) (path : Reaches stages a b) :
    Reaches (place stage (.after targets) stages) a stage.id := by
  obtain ⟨last, onward, s, member, same, named⟩ := TransGen.tail'_iff.mp path
  have finish : Depends (place stage (.after targets) stages) last stage.id :=
    depends_place.mpr (.inr ⟨s, member, same, mem_behindTargets.mpr (.inr ⟨rfl, b, isTarget, named⟩)⟩)
  exact .tail' (reflTransGen_lift (fun _ _ => reaches_place_of_depends distinct) onward) finish

theorem last_reaches_listed (distinct : (stages.map (·.id)).Nodup) (acyclic : Acyclic stages)
    (listed : a ∈ stages.map (·.id)) : Reaches (place stage .last stages) stage.id a := by
  obtain ⟨leaf, isLeaf, onward⟩ := acyclic.exists_leaf listed
  have start : Depends (place stage .last stages) stage.id leaf :=
    depends_place.mpr (.inl ⟨rfl, isLeaf⟩)
  exact .head' start (reflTransGen_lift (fun _ _ => reaches_place_of_depends distinct) onward)

theorem first_reached_by_listed (distinct : (stages.map (·.id)).Nodup) (acyclic : Acyclic stages)
    (closed : Closed stages) (listed : a ∈ stages.map (·.id)) :
    Reaches (place stage .first stages) a stage.id := by
  obtain ⟨s, member, rfl⟩ := List.mem_map.mp listed
  obtain ⟨root, rootListed, isRoot, onward⟩ := acyclic.exists_root closed member
  have finish : Depends (place stage .first stages) root.id stage.id :=
    depends_place.mpr (.inr ⟨root, rootListed, rfl, by simp [rewiredDependencies, isRoot]⟩)
  exact .tail' (reflTransGen_lift (fun _ _ => reaches_place_of_depends distinct) onward) finish

theorem ids_place : ((place stage placement stages).map (·.id)).Perm
    (stage.id :: stages.map (·.id)) := by
  have same := (place_perm stage placement stages).map (·.id)
  rw [List.map_cons, List.map_map] at same
  exact same

theorem mem_targets_of_isPlaceable (placeable : isPlaceable stages placement = true)
    (isTarget : a ∈ placement.targets) : a ∈ stages.map (·.id) := by
  have all := List.all_eq_true.mp placeable a isTarget
  simpa using all

theorem ownDependencies_listed (closed : Closed stages) (distinct : (stages.map (·.id)).Nodup)
    (placeable : isPlaceable stages placement = true) (named : a ∈ ownDependencies stages placement) :
    a ∈ stages.map (·.id) := by
  cases placement with
  | first => simp [ownDependencies] at named
  | last => exact (mem_leaves.mp named).1
  | before targets =>
      obtain ⟨_, _, upstream⟩ := (mem_prerequisites distinct).mp named
      exact closed.target_listed (.single upstream)
  | after targets => exact mem_targets_of_isPlaceable placeable named

theorem rewiredDependencies_known (named : a ∈ rewiredDependencies id placement stage) :
    a = id ∨ a ∈ stage.dependsOn := by
  cases placement with
  | last => exact .inr named
  | after targets =>
      rcases mem_behindTargets.mp named with ⟨old, _⟩ | ⟨same, _⟩
      · exact .inr old
      · exact .inl same
  | first | before targets =>
      simp only [rewiredDependencies] at named
      split at named
      · exact .inl (List.mem_singleton.mp named)
      · exact .inr named

theorem closed_place (closed : Closed stages) (distinct : (stages.map (·.id)).Nodup)
    (placeable : isPlaceable stages placement = true) :
    Closed (place stage placement stages) := by
  intro s member b named
  rw [ids_place.mem_iff, List.mem_cons]
  rcases depends_place.mp (.of_mem member named) with ⟨_, own⟩ | ⟨old, listed, _, rewired⟩
  · exact .inr (ownDependencies_listed closed distinct placeable own)
  · rcases rewiredDependencies_known rewired with same | kept
    · exact .inl same
    · exact .inr (closed old listed b kept)

end StagePlan.Graph
