import StagePlan.Proofs.Graph.PlacementRun
import StagePlan.Proofs.Graph.Rings

namespace StagePlan.Graph

open Relation

/-!
When a placement closes a ring. It gives dependencies that were not there to no stage but the one
that it places, so that a new ring leads through this stage; and what the stage comes to depend on
is told by the list as it was before.
-/

/-- Whether stages of the list depend on each other, or on `id`, so that placing `id` closes a ring. -/
def ClosesRing (stages : List Stage) (id : String) : Placement → Prop
  | .first => False
  | .last => ∃ s ∈ stages, id ∈ s.dependsOn
  | .before targets | .after targets =>
      ∃ target ∈ targets, Reaches stages target id ∨ ∃ other ∈ targets, Reaches stages target other

variable {stages current : List Stage} {stage : Stage} {placement : Placement}
  {targets : List String} {order later : Pending} {a b : String}

theorem depends_of_place (edge : Depends (place stage placement stages) a b) :
    Depends stages a b ∨ a = stage.id ∨ b = stage.id := by
  rcases depends_place.mp edge with ⟨rfl, _⟩ | ⟨s, member, rfl, named⟩
  · exact .inr (.inl rfl)
  · rcases rewiredDependencies_known named with same | old
    · exact .inr (.inr same)
    · exact .inl (.of_mem member old)

/-- A path between stages is an old one unless it leads through the placed stage. -/
theorem reaches_of_place (path : Reaches (place stage placement stages) a b) :
    Reaches stages a b ∨
      ReflTransGen (Depends (place stage placement stages)) a stage.id ∧
        ReflTransGen (Depends (place stage placement stages)) stage.id b := by
  induction path with
  | single edge =>
      rcases depends_of_place edge with old | rfl | rfl
      · exact .inl (.single old)
      · exact .inr ⟨.refl, .single edge⟩
      · exact .inr ⟨.single edge, .refl⟩
  | tail path edge ih =>
      rcases ih with kept | ⟨before, after⟩
      · rcases depends_of_place edge with old | rfl | rfl
        · exact .inl (kept.tail old)
        · exact .inr ⟨path.to_reflTransGen, .single edge⟩
        · exact .inr ⟨(path.tail edge).to_reflTransGen, .refl⟩
      · exact .inr ⟨before, after.tail edge⟩

theorem acyclic_place_iff (acyclic : Acyclic stages) :
    Acyclic (place stage placement stages) ↔
      ¬ Reaches (place stage placement stages) stage.id stage.id := by
  constructor
  · exact fun placed => placed stage.id
  · intro cut id ring
    rcases reaches_of_place ring with old | ⟨before, after⟩
    · exact acyclic id old
    · exact cut ((ring.trans_right after).trans_left before)

/-- The placed stage does not lead back to itself if what it depends on has a property that
dependencies hand on and that the stage has not. -/
theorem not_reaches_placed (leads : String → Prop) (fresh : stage.id ∉ stages.map (·.id))
    (apart : ¬ leads stage.id) (start : ∀ b ∈ ownDependencies stages placement, leads b)
    (onward : ∀ s ∈ stages, leads s.id → ∀ b ∈ rewiredDependencies stage.id placement s, leads b) :
    ¬ Reaches (place stage placement stages) stage.id stage.id := by
  have all : ∀ b, Reaches (place stage placement stages) stage.id b → leads b := by
    intro b path
    induction path with
    | single edge =>
        rcases depends_place.mp edge with ⟨_, own⟩ | ⟨s, member, same, _⟩
        · exact start _ own
        · exact absurd (same ▸ List.mem_map_of_mem member) fresh
    | tail _ edge ih =>
        rcases depends_place.mp edge with ⟨rfl, _⟩ | ⟨s, member, rfl, named⟩
        · exact absurd ih apart
        · exact onward s member ih _ named
  exact fun ring => apart (all _ ring)

theorem reaches_placed_of_closesRing (distinct : (stages.map (·.id)).Nodup)
    (acyclic : Acyclic stages) (placeable : isPlaceable stages placement = true)
    (closes : ClosesRing stages stage.id placement) :
    Reaches (place stage placement stages) stage.id stage.id := by
  cases placement with
  | first => exact closes.elim
  | last =>
      obtain ⟨s, member, named⟩ := closes
      have toNamer : Reaches (place stage .last stages) stage.id s.id :=
        last_reaches_listed distinct acyclic (List.mem_map_of_mem member)
      exact toNamer.tail (depends_place.mpr (.inr ⟨s, member, rfl, named⟩))
  | before targets =>
      obtain ⟨target, isTarget, back | ⟨other, again, path⟩⟩ := closes
      · exact before_reaches_prerequisite distinct isTarget back
      · have listed := mem_targets_of_isPlaceable placeable again
        exact (before_reaches_prerequisite distinct isTarget path).trans
          (before_reaches_stage listed again)
  | after targets =>
      obtain ⟨target, isTarget, back | ⟨other, again, path⟩⟩ := closes
      · exact (after_reaches_target isTarget).trans (reaches_place distinct back)
      · exact (after_reaches_target isTarget).trans
          (after_reached_by_dependent distinct again path)

theorem not_reaches_placed_before (distinct : (stages.map (·.id)).Nodup)
    (fresh : stage.id ∉ stages.map (·.id))
    (none : ¬ ClosesRing stages stage.id (.before targets)) :
    ¬ Reaches (place stage (.before targets) stages) stage.id stage.id := by
  have unmet : ∀ b, (∃ target ∈ targets, Reaches stages target b) → b ∉ targets := by
    rintro b ⟨target, isTarget, path⟩ again
    exact none ⟨target, isTarget, .inr ⟨b, again, path⟩⟩
  apply not_reaches_placed (fun b => ∃ target ∈ targets, Reaches stages target b) fresh
  · rintro ⟨target, isTarget, back⟩
    exact none ⟨target, isTarget, .inl back⟩
  · intro b own
    obtain ⟨target, isTarget, edge⟩ := (mem_prerequisites distinct).mp own
    exact ⟨target, isTarget, .single edge⟩
  · intro s member upstream b named
    have kept : b ∈ s.dependsOn := by
      simpa [rewiredDependencies, unmet s.id upstream] using named
    obtain ⟨target, isTarget, path⟩ := upstream
    exact ⟨target, isTarget, path.tail (.of_mem member kept)⟩

theorem not_reaches_placed_after (fresh : stage.id ∉ stages.map (·.id))
    (placeable : isPlaceable stages (.after targets) = true)
    (none : ¬ ClosesRing stages stage.id (.after targets)) :
    ¬ Reaches (place stage (.after targets) stages) stage.id stage.id := by
  apply not_reaches_placed
    (fun b => ∃ target ∈ targets, ReflTransGen (Depends stages) target b) fresh
  · rintro ⟨target, isTarget, back⟩
    rcases reflTransGen_iff_eq_or_transGen.mp back with same | path
    · exact fresh (same ▸ mem_targets_of_isPlaceable placeable isTarget)
    · exact none ⟨target, isTarget, .inl path⟩
  · exact fun target isTarget => ⟨target, isTarget, .refl⟩
  · rintro s member ⟨target, isTarget, path⟩ b named
    rcases mem_behindTargets.mp named with ⟨kept, _⟩ | ⟨_, other, again, met⟩
    · exact ⟨target, isTarget, path.tail (.of_mem member kept)⟩
    · have closed : Reaches stages target other := .tail' path (.of_mem member met)
      exact absurd ⟨target, isTarget, .inr ⟨other, again, closed⟩⟩ none

theorem reaches_placed_iff (distinct : (stages.map (·.id)).Nodup) (acyclic : Acyclic stages)
    (fresh : stage.id ∉ stages.map (·.id)) (placeable : isPlaceable stages placement = true) :
    Reaches (place stage placement stages) stage.id stage.id ↔
      ClosesRing stages stage.id placement := by
  refine ⟨fun ring => ?_, reaches_placed_of_closesRing distinct acyclic placeable⟩
  by_contra none
  revert ring
  cases placement with
  | first => apply not_reaches_placed (fun _ => False) <;> simp [fresh, ownDependencies]
  | last =>
      apply not_reaches_placed (· ≠ stage.id) fresh (by simp)
      · intro leaf isLeaf same
        exact fresh (same ▸ (mem_leaves.mp isLeaf).1)
      · intro s member _ b named same
        exact none ⟨s, member, same ▸ named⟩
  | before targets => exact not_reaches_placed_before distinct fresh none
  | after targets => exact not_reaches_placed_after fresh placeable none

theorem PlacementRun.distinct (run : PlacementRun stages order current)
    (distinct : DistinctIds stages (order ++ later)) : DistinctIds current later := by
  induction run with
  | done => exact distinct
  | next _ _ _ ih => exact ih distinct.place

/-- As every placement of a run is followed by a check, no ring is there when the next one comes. -/
theorem PlacementRun.acyclic (run : PlacementRun stages order current)
    (distinct : DistinctIds stages (order ++ later)) (acyclic : Acyclic stages) :
    Acyclic current := by
  induction run with
  | done => exact acyclic
  | next _ checked _ ih =>
      exact ih distinct.place (checkCycles_acyclic distinct.place.listed checked)

theorem DistinctIds.fresh (distinct : DistinctIds stages ((stage, placement) :: later)) :
    stage.id ∉ stages.map (·.id) := by
  simp only [DistinctIds, List.map_append, List.map_cons, List.nodup_middle] at distinct
  exact fun listed => (List.nodup_cons.mp distinct).1 (List.mem_append_left _ listed)

/-- Placing a stage into a list without rings closes one exactly if the list says so: never at the
front, at the end if a listed stage waits for the placed one already, and otherwise if a target
depends on the placed stage or on a target. So it is with the check after every placement of a run. -/
theorem place_closes_ring_iff (acyclic : Acyclic stages) (distinct : (stages.map (·.id)).Nodup) :
    (∀ stage placement, stage.id ∉ stages.map (·.id) → isPlaceable stages placement = true →
      (Acyclic (place stage placement stages) ↔ ¬ ClosesRing stages stage.id placement)) ∧
    ∀ order current stage placement, PlacementRun stages order current →
      DistinctIds stages (order ++ [(stage, placement)]) → isPlaceable current placement = true →
      ((∃ ring, checkCycles (place stage placement current) = .error (.cycle ring)) ↔
        ClosesRing current stage.id placement) := by
  constructor
  · intro stage placement fresh placeable
    rw [acyclic_place_iff acyclic, reaches_placed_iff distinct acyclic fresh placeable]
  · intro order current stage placement run apart placeable
    have distinctNow := run.distinct apart
    have acyclicNow := run.acyclic apart acyclic
    rw [checkCycles_eq_cycle_iff distinctNow.place.listed, acyclic_place_iff acyclicNow, not_not,
      reaches_placed_iff distinctNow.listed acyclicNow distinctNow.fresh placeable]

/-- A release with an audit that waits for a gate which is not there yet. -/
def review : List Stage :=
  [{ id := "bake" }, { id := "deploy", dependsOn := ["bake"] }, { id := "audit", dependsOn := ["gate"] }]

theorem place_closes_ring_iff_review :
    Acyclic review ∧ (review.map (·.id)).Nodup ∧
      Acyclic (place { id := "gate" } (.before ["bake"]) review) ∧
      ¬ Acyclic (place { id := "gate" } .last review) ∧
      ∃ ring, checkCycles (place { id := "gate" } (.after ["bake", "deploy"])
        (place { id := "scan" } (.before ["deploy"]) review)) = .error (.cycle ring) := by
  have distinct : (review.map (·.id)).Nodup := by decide
  have acyclic : Acyclic review := checkCycles_acyclic distinct (by decide +kernel)
  obtain ⟨once, inRun⟩ := place_closes_ring_iff acyclic distinct
  refine ⟨acyclic, distinct, ?before, ?last, ?after⟩
  case before =>
    apply (once { id := "gate" } (.before ["bake"]) (by decide) (by decide)).mpr
    have root : ∀ id, ¬ Reaches review "bake" id := by
      intro id path
      obtain ⟨_, edge, _⟩ := TransGen.head'_iff.mp path
      simp [Depends, review] at edge
    simp [ClosesRing, root]
  case last =>
    rw [once { id := "gate" } .last (by decide) (by decide), not_not]
    exact ⟨{ id := "audit", dependsOn := ["gate"] }, by simp [review], by simp⟩
  case after =>
    have run : PlacementRun review [({ id := "scan" }, .before ["deploy"])]
        (place { id := "scan" } (.before ["deploy"]) review) :=
      .next (by decide) (by decide +kernel) (.done _)
    have apart : (["bake", "deploy", "audit", "scan", "gate"] : List String).Nodup := by decide
    apply (inRun _ _ { id := "gate" } (.after ["bake", "deploy"]) run apart (by decide)).mpr
    have path : Reaches review "deploy" "bake" :=
      .single ⟨{ id := "deploy", dependsOn := ["bake"] }, by simp [review], rfl, by simp⟩
    exact ⟨"deploy", by simp, .inr ⟨"bake", by simp, reaches_place distinct path⟩⟩

end StagePlan.Graph
