import StagePlan.Graph.Compile
import StagePlan.Proofs.Graph.Placement

namespace StagePlan.Graph

/-!
Placing many stages. However many passes it takes, the result comes from placing the stages one by
one in some order, so that what a single placement keeps is kept by all of them.
-/

/-- The last list comes from the first by placing the stages in turn, each at a time when the list
holds all of its targets, and none so that a ring closes. -/
inductive PlacementRun : List Stage → Pending → List Stage → Prop
  | done (stages : List Stage) : PlacementRun stages [] stages
  | next {stages final : List Stage} {stage : Stage} {placement : Placement} {rest : Pending} :
      isPlaceable stages placement = true →
      checkCycles (place stage placement stages) = .ok () →
      PlacementRun (place stage placement stages) rest final →
      PlacementRun stages ((stage, placement) :: rest) final

/-- A stage without what compiling changes: its dependencies and its rule. -/
def bare (stage : Stage) : Stage :=
  { stage with dependsOn := [], inject? := none }

variable {stages middle final : List Stage} {order later pending deferred : Pending}
  {stage : Stage} {placement : Placement} {a b : String}

theorem map_id_bare (stages : List Stage) :
    (stages.map bare).map (·.id) = stages.map (·.id) := by
  rw [List.map_map]
  rfl

theorem ids_of_bare (same : (stages.map bare).Perm (final.map bare)) :
    (stages.map (·.id)).Perm (final.map (·.id)) := by
  have ids := same.map (·.id)
  rwa [map_id_bare, map_id_bare] at ids

theorem bare_place : ((place stage placement stages).map bare).Perm
    ((stage :: stages).map bare) := by
  have same := (place_perm stage placement stages).map bare
  rw [List.map_cons, List.map_map] at same
  exact same

theorem PlacementRun.trans (first : PlacementRun stages order middle)
    (second : PlacementRun middle later final) : PlacementRun stages (order ++ later) final := by
  induction first with
  | done => exact second
  | next placeable checked _ ih => exact .next placeable checked (ih second)

theorem placePass_run (passed : placePass stages pending = .ok (final, deferred)) :
    ∃ order, (order ++ deferred).Perm pending ∧ PlacementRun stages order final := by
  induction pending generalizing stages deferred with
  | nil =>
      cases passed
      exact ⟨[], .refl _, .done _⟩
  | cons entry rest ih =>
      obtain ⟨stage, placement⟩ := entry
      cases placeable : isPlaceable stages placement with
      | true =>
          simp only [placePass, placeable, if_true, bind_eq_ok] at passed
          obtain ⟨_, checked, others⟩ := passed
          obtain ⟨order, whole, run⟩ := ih others
          exact ⟨(stage, placement) :: order, whole.cons _, .next placeable checked run⟩
      | false =>
          simp only [placePass, placeable, Bool.false_eq_true, if_false, bind_eq_ok, pure_eq_ok,
            Prod.mk.injEq] at passed
          obtain ⟨_, others, rfl, rfl⟩ := passed
          obtain ⟨order, whole, run⟩ := ih others
          exact ⟨order, List.perm_middle.trans (whole.cons _), run⟩

theorem placePasses_run {passes : Nat}
    (placed : placePasses passes stages pending = .ok final) :
    ∃ order, order.Perm pending ∧ PlacementRun stages order final := by
  induction passes generalizing stages pending with
  | zero =>
      cases pending with
      | nil =>
          cases placed
          exact ⟨[], .refl _, .done _⟩
      | cons entry rest => simp [placePasses] at placed
  | succ passes ih =>
      cases pending with
      | nil =>
          cases placed
          exact ⟨[], .refl _, .done _⟩
      | cons entry rest =>
          simp only [placePasses, bind_eq_ok] at placed
          obtain ⟨⟨middle, deferred⟩, passed, placed⟩ := placed
          split at placed
          · contradiction
          · obtain ⟨order, whole, run⟩ := placePass_run passed
            obtain ⟨later, wholeLater, runLater⟩ := ih placed
            exact ⟨order ++ later, (wholeLater.append_left order).trans whole,
              run.trans runLater⟩

/-- No stage is lost, added or changed beyond its dependencies and its rule. -/
theorem PlacementRun.bare_perm (run : PlacementRun stages order final) :
    (final.map bare).Perm ((stages ++ order.map (·.1)).map bare) := by
  induction run with
  | done => simp
  | @next stages final stage placement rest _ _ _ ih =>
      have placed : ((place stage placement stages ++ rest.map (·.1)).map bare).Perm
          ((stage :: stages ++ rest.map (·.1)).map bare) := by
        rw [List.map_append, List.map_append]
        exact bare_place.append_right _
      have front : (stage :: stages ++ rest.map (·.1)).Perm
          (stages ++ stage :: rest.map (·.1)) := List.perm_middle.symm
      exact ih.trans (placed.trans (front.map bare))

theorem PlacementRun.ids (run : PlacementRun stages order final) :
    (final.map (·.id)).Perm (stages.map (·.id) ++ order.map (·.1.id)) := by
  have same := ids_of_bare run.bare_perm
  rw [List.map_append, List.map_map] at same
  exact same

/-- Placing takes the rules of the placed stages away and gives none to the others. -/
theorem PlacementRun.inject_none (run : PlacementRun stages order final)
    (clear : ∀ s ∈ stages, s.inject? = none) : ∀ s ∈ final, s.inject? = none := by
  induction run with
  | done => exact clear
  | next _ _ _ ih =>
      refine ih fun s listed => ?_
      rcases List.mem_cons.mp ((place_perm _ _ _).mem_iff.mp listed) with rfl | old
      · rfl
      · obtain ⟨before, among, rfl⟩ := List.mem_map.mp old
        exact clear before among

/-- The ids of the list and of the stages yet to be placed all differ. -/
def DistinctIds (stages : List Stage) (order : Pending) : Prop :=
  ((stages ++ order.map (·.1)).map (·.id)).Nodup

theorem DistinctIds.listed (distinct : DistinctIds stages order) :
    (stages.map (·.id)).Nodup := by
  rw [DistinctIds, List.map_append] at distinct
  exact distinct.of_append_left

theorem DistinctIds.place (distinct : DistinctIds stages ((stage, placement) :: order)) :
    DistinctIds (Graph.place stage placement stages) order := by
  have front : (stage :: stages ++ order.map (·.1)).Perm
      (stages ++ stage :: order.map (·.1)) := List.perm_middle.symm
  have placed : ((Graph.place stage placement stages ++ order.map (·.1)).map (·.id)).Perm
      ((stage :: stages ++ order.map (·.1)).map (·.id)) := by
    rw [List.map_append, List.map_append]
    exact ids_place.append_right _
  exact (placed.trans (front.map _)).nodup_iff.mpr distinct

theorem PlacementRun.reaches (run : PlacementRun stages order final)
    (distinct : DistinctIds stages order) (path : Reaches stages a b) : Reaches final a b := by
  induction run with
  | done => exact path
  | next _ _ _ ih => exact ih distinct.place (reaches_place distinct.listed path)

/-- The list as it stood when a stage of the run was about to be placed, between the list at the
start and the list at the end. -/
structure Milestone (start : List Stage) (stage : Stage) (placement : Placement)
    (current final : List Stage) : Prop where
  distinct : (current.map (·.id)).Nodup
  placeable : isPlaceable current placement = true
  acyclic : Acyclic (place stage placement current)
  listed : start.map (·.id) ⊆ current.map (·.id)
  closed : Closed start → Closed current
  earlier : ∀ a b, Reaches start a b → Reaches current a b
  later : ∀ a b, Reaches (place stage placement current) a b → Reaches final a b

theorem PlacementRun.milestone (run : PlacementRun stages order final)
    (distinct : DistinctIds stages order) (member : (stage, placement) ∈ order) :
    ∃ current, Milestone stages stage placement current final := by
  induction run with
  | done => simp at member
  | @next stages final first how rest placeable checked run ih =>
      have known := distinct.listed
      rcases List.mem_cons.mp member with same | waiting
      · obtain ⟨rfl, rfl⟩ := Prod.mk.inj same
        exact ⟨stages, {
          distinct := known
          placeable
          acyclic := checkCycles_acyclic distinct.place.listed checked
          listed := fun _ h => h
          closed := fun closed => closed
          earlier := fun _ _ path => path
          later := fun _ _ path => run.reaches distinct.place path }⟩
      · obtain ⟨current, reached⟩ := ih distinct.place waiting
        exact ⟨current, {
          distinct := reached.distinct
          placeable := reached.placeable
          acyclic := reached.acyclic
          listed := fun id h =>
            reached.listed (ids_place.mem_iff.mpr (List.mem_cons_of_mem _ h))
          closed := fun closed => reached.closed (closed_place closed known placeable)
          earlier := fun _ _ path => reached.earlier _ _ (reaches_place known path)
          later := reached.later }⟩

namespace Milestone

variable {start current : List Stage}

theorem acyclic_current (at_stage : Milestone start stage placement current final) :
    Acyclic current :=
  at_stage.acyclic.of_lift fun _ _ => reaches_place_of_depends at_stage.distinct

theorem target_listed (at_stage : Milestone start stage placement current final)
    (isTarget : a ∈ placement.targets) : a ∈ current.map (·.id) :=
  mem_targets_of_isPlaceable at_stage.placeable isTarget

end Milestone

end StagePlan.Graph
