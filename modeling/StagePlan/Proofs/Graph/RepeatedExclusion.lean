import Mathlib.Data.List.Nodup
import StagePlan.Graph.Exclusion
import StagePlan.Proofs.Graph.LeastOrder
import StagePlan.Proofs.Graph.Repetition

namespace StagePlan.Graph

/-!
Excluding stages more than once. Of two exclusions one after the other, the second replaces its
stages in what the stages of the first left behind; the graph is the one that remains if all of them
are excluded at once, down to the order of each list of dependencies.
-/

variable {removed also both dependsOn : List String} {stages waiting rest : List Stage} {stage : Stage}
  {first second joint inherited : Bindings (List String)} {id : String}

/-- What an exclusion puts in the place of a dependency. -/
def standIn (inherited : Bindings (List String)) (id : String) : List String :=
  (inherited.find? id).getD [id]

theorem standIn_bind (inherited : Bindings (List String)) (name id : String)
    (dependsOn : List String) : standIn (inherited.bind name dependsOn) id =
      if name = id then dependsOn else standIn inherited id := by
  rw [standIn, Bindings.find?_bind]
  split <;> rfl

theorem standIn_of_find?_eq_none (unseen : inherited.find? id = none) :
    standIn inherited id = [id] := by
  rw [standIn, unseen]
  rfl

@[simp]
theorem dedup_inherit (inherited : Bindings (List String)) (dependsOn : List String) :
    dedup (inherit inherited dependsOn) = inherit inherited dependsOn :=
  dedup_dedup _

/-- The stages have distinct ids, and none depends on a later one. -/
def LooksBack (stages : List Stage) : Prop :=
  stages.Pairwise fun early late => early.id ≠ late.id ∧ late.id ∉ early.dependsOn

theorem looksBack_of_inOrderAmong (distinct : (stages.map (·.id)).Nodup)
    (ordered : InOrderAmong stages stages) : LooksBack stages := by
  have from_any : ∀ before rest, stages = before ++ rest → LooksBack rest := by
    intro before rest split
    induction rest generalizing before with
    | nil => exact .nil
    | cons stage rest ih =>
        refine List.pairwise_cons.mpr ⟨fun late member => ?_, ih (before ++ [stage]) (by simp [split])⟩
        have listed : late.id ∈ rest.map (·.id) := List.mem_map_of_mem member
        rw [split, List.map_append, List.map_cons] at distinct
        obtain ⟨_, behind, apart⟩ := List.nodup_append.mp distinct
        refine ⟨fun same => (List.nodup_cons.mp behind).1 (same ▸ listed), fun named => ?_⟩
        have whole : late.id ∈ stages.map (·.id) := by
          rw [split, List.map_append, List.map_cons]
          exact List.mem_append_right _ (List.mem_cons_of_mem _ listed)
        have earlier := ordered before stage rest split late.id named whole
        exact apart late.id earlier late.id (List.mem_cons_of_mem _ listed) rfl
  exact from_any [] stages rfl

/-- How two exclusions one after the other and the exclusion of both at once stand when the stages
`rest` are still to come: what the first puts in, changed by the second, is what both put in at
once, apart from copies. -/
structure Agree (first second joint : Bindings (List String)) (rest : List Stage) : Prop where
  composed : ∀ id, dedup (standIn joint id) = dedup ((standIn first id).flatMap (standIn second))
  unseen : ∀ s ∈ rest, first.find? s.id = none
  earlier : ∀ s ∈ rest, ∀ id ≠ s.id, s.id ∉ standIn first id

namespace Agree

/-- The dependencies of the next stage come out the same. -/
theorem inherit_inherit (state : Agree first second joint rest) (dependsOn : List String) :
    inherit second (inherit first dependsOn) = inherit joint dependsOn := by
  calc inherit second (inherit first dependsOn)
      = dedup ((dependsOn.flatMap (standIn first)).flatMap (standIn second)) :=
        dedup_flatMap_dedup _ _
    _ = dedup (dependsOn.flatMap fun id => (standIn first id).flatMap (standIn second)) := by
        rw [List.flatMap_assoc]
    _ = inherit joint dependsOn :=
        dedup_flatMap_congr fun id _ => (state.composed id).symm

theorem tail (state : Agree first second joint (stage :: rest)) : Agree first second joint rest where
  composed := state.composed
  unseen s member := state.unseen s (List.mem_cons_of_mem _ member)
  earlier s member := state.earlier s (List.mem_cons_of_mem _ member)

/-- The first exclusion takes the next stage out. -/
theorem exclude (state : Agree first second joint (stage :: rest))
    (back : LooksBack (stage :: rest)) :
    Agree (first.bind stage.id (inherit first stage.dependsOn)) second
      (joint.bind stage.id (inherit joint stage.dependsOn)) rest where
  composed id := by
    rw [standIn_bind, standIn_bind]
    split
    · calc dedup (inherit joint stage.dependsOn)
          = dedup (inherit second (inherit first stage.dependsOn)) := by
            rw [state.inherit_inherit]
        _ = dedup ((inherit first stage.dependsOn).flatMap (standIn second)) := dedup_inherit _ _
    · exact state.composed id
  unseen s member := by
    have apart := ((List.pairwise_cons.mp back).1 s member).1
    rw [Bindings.find?_bind, if_neg apart]
    exact state.tail.unseen s member
  earlier s member id other := by
    rw [standIn_bind]
    split
    · intro inside
      -- the stage depends on no later one, nor does what was left behind for it
      obtain ⟨d, named, among⟩ := List.mem_flatMap.mp (mem_dedup.mp inside)
      have before : d ≠ s.id := fun same =>
        ((List.pairwise_cons.mp back).1 s member).2 (same ▸ named)
      exact state.tail.earlier s member d before among
    · exact state.tail.earlier s member id other

/-- The first exclusion keeps the next stage, with other dependencies, and the second takes it out. -/
theorem excludeKept (state : Agree first second joint (stage :: rest)) :
    Agree first (second.bind stage.id (inherit second (inherit first stage.dependsOn)))
      (joint.bind stage.id (inherit joint stage.dependsOn)) rest where
  composed id := by
    rw [standIn_bind, state.inherit_inherit]
    split
    · rename_i same
      subst same
      rw [standIn_of_find?_eq_none (state.unseen stage List.mem_cons_self), List.flatMap_singleton,
        standIn_bind, if_pos rfl]
    · rename_i other
      have untouched : ∀ d ∈ standIn first id,
          standIn (second.bind stage.id (inherit joint stage.dependsOn)) d = standIn second d := by
        intro d among
        have apart : stage.id ≠ d := fun same =>
          state.earlier stage List.mem_cons_self id (Ne.symm other) (same ▸ among)
        rw [standIn_bind, if_neg apart]
      rw [List.flatMap_congr untouched]
      exact state.composed id
  unseen := state.tail.unseen
  earlier := state.tail.earlier

end Agree

theorem keepFrom_keepFrom (union : ∀ id, id ∈ both ↔ id ∈ removed ∨ id ∈ also)
    (state : Agree first second joint stages) (back : LooksBack stages) :
    keepFrom also second (keepFrom removed first stages) = keepFrom both joint stages := by
  induction stages generalizing first second joint with
  | nil => rfl
  | cons stage rest ih =>
      have later := (List.pairwise_cons.mp back).2
      by_cases gone : stage.id ∈ removed
      · have either : stage.id ∈ both := (union _).mpr (.inl gone)
        simpa [keepFrom, gone, either] using ih (state.exclude back) later
      · by_cases goes : stage.id ∈ also
        · have either : stage.id ∈ both := (union _).mpr (.inr goes)
          simpa [keepFrom, gone, goes, either] using ih state.excludeKept later
        · have neither : stage.id ∉ both := fun listed => ((union _).mp listed).elim gone goes
          simpa [keepFrom, gone, goes, neither, state.inherit_inherit] using ih state.tail later

theorem Agree.start (stages : List Stage) : Agree [] [] [] stages where
  composed _ := rfl
  unseen _ _ := rfl
  earlier _ _ _ other inside := other (List.mem_singleton.mp inside).symm

theorem withoutStages_withoutStages {graph : StageGraph} (back : LooksBack graph.stages)
    (union : ∀ id, id ∈ both ↔ id ∈ removed ∨ id ∈ also) :
    withoutStages also (withoutStages removed graph) = withoutStages both graph :=
  congrArg StageGraph.mk (keepFrom_keepFrom union (.start _) back)

/-- Only which stages are excluded counts, not how often or in what order they are named. -/
theorem withoutStages_congr (same : ∀ id, id ∈ removed ↔ id ∈ both) (graph : StageGraph) :
    withoutStages removed graph = withoutStages both graph := by
  have from_any : ∀ stages inherited,
      keepFrom removed inherited stages = keepFrom both inherited stages := by
    intro stages
    induction stages with
    | nil => exact fun _ => rfl
    | cons stage rest ih =>
        intro inherited
        have decided : removed.contains stage.id = both.contains stage.id := by
          rw [Bool.eq_iff_iff, List.contains_iff_mem, List.contains_iff_mem]
          exact same stage.id
        rw [keepFrom, keepFrom, decided, ih, ih]
  exact congrArg StageGraph.mk (from_any graph.stages [])

theorem foldl_withoutStages {graph : StageGraph} (back : LooksBack graph.stages)
    (sets : List (List String)) (removed : List String) :
    sets.foldl (fun graph set => withoutStages set graph) (withoutStages removed graph) =
      withoutStages (removed ++ sets.flatten) graph := by
  induction sets generalizing removed with
  | nil => simp
  | cons set rest ih =>
      have both : withoutStages set (withoutStages removed graph) =
          withoutStages (removed ++ set) graph :=
        withoutStages_withoutStages back fun _ => List.mem_append
      rw [List.foldl_cons, both, ih, List.flatten_cons, List.append_assoc]

/-- In a graph whose stages stand behind those on which they depend, excluding stages and then others
is excluding all of them: the same stages stay, in the same order, with the same dependencies in the
same order. So any number of sets can be excluded one after the other, in any order. -/
theorem withoutStages_together {graph : StageGraph} (distinct : (graph.stages.map (·.id)).Nodup)
    (ordered : InOrderAmong graph.stages graph.stages) :
    (∀ removed also both : List String, (∀ id, id ∈ both ↔ id ∈ removed ∨ id ∈ also) →
      withoutStages also (withoutStages removed graph) = withoutStages both graph) ∧
    (∀ sets order : List (List String), order.Perm sets → order ≠ [] →
      order.foldl (fun graph set => withoutStages set graph) graph =
        withoutStages sets.flatten graph) := by
  have back := looksBack_of_inOrderAmong distinct ordered
  refine ⟨fun _ _ _ union => withoutStages_withoutStages back union, ?_⟩
  intro sets order same some
  obtain ⟨set, rest, rfl⟩ := List.exists_cons_of_ne_nil some
  rw [List.foldl_cons, foldl_withoutStages back, ← List.flatten_cons]
  exact withoutStages_congr (fun id => same.flatten.mem_iff) graph

theorem inOrderAmong_iff : InOrderAmong waiting stages ↔
    ∀ place : Fin stages.length, ∀ id ∈ stages[place].dependsOn, id ∈ waiting.map (·.id) →
      id ∈ (stages.take place).map (·.id) := by
  constructor
  · intro ordered place id named waits
    have split : stages = stages.take place ++ stages[place] :: stages.drop (place + 1) := by
      simp
    exact ordered _ _ _ split id named waits
  · rintro ordered before stage after rfl id named waits
    have inside : before.length < (before ++ stage :: after).length := by simp
    have earlier := ordered ⟨before.length, inside⟩ id (by simpa using named) waits
    simpa using earlier

instance : Decidable (InOrderAmong waiting stages) :=
  decidable_of_iff _ inOrderAmong_iff.symm

/-- Stages of two kinds by turns, one of which depends on what is not there. -/
def relay : StageGraph :=
  ⟨[{ id := "seed" }, { id := "a1", dependsOn := ["seed", "ghost"] },
    { id := "b1", dependsOn := ["a1", "seed"] }, { id := "a2", dependsOn := ["b1", "a1"] },
    { id := "b2", dependsOn := ["a2", "ghost", "b1"] },
    { id := "goal", dependsOn := ["b2", "seed", "a2"] }]⟩

theorem withoutStages_together_relay :
    (relay.stages.map (·.id)).Nodup ∧ InOrderAmong relay.stages relay.stages ∧
    withoutStages ["b1", "b2"] (withoutStages ["a1", "a2"] relay) =
      withoutStages ["a1", "a2", "b1", "b2"] relay ∧
    [["b2"], ["a2", "a1"], ["b1"]].foldl (fun graph set => withoutStages set graph) relay =
      ⟨[{ id := "seed" }, { id := "goal", dependsOn := ["seed", "ghost"] }]⟩ := by
  have distinct : (relay.stages.map (·.id)).Nodup := by decide +kernel
  have ordered : InOrderAmong relay.stages relay.stages := by decide +kernel
  obtain ⟨twice, oneByOne⟩ := withoutStages_together distinct ordered
  have order : [["b2"], ["a2", "a1"], ["b1"]].Perm [["a2", "a1"], ["b1"], ["b2"]] := by decide
  exact ⟨distinct, ordered, twice _ _ (["a1", "a2"] ++ ["b1", "b2"]) fun _ => List.mem_append,
    (oneByOne _ _ order (by simp)).trans rfl⟩

end StagePlan.Graph
