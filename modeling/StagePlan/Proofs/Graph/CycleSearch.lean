import StagePlan.Graph.Cycle
import StagePlan.Proofs.Graph.Reachability
import StagePlan.Proofs.Success

namespace StagePlan.Graph

open Relation

/-!
What the depth-first search has shown when it finds no ring. Every id that it has finished was
finished after all listed ids on which it depends, so dependencies lead down the list of finished
ids and cannot come back.
-/

/-- Each id of the list depends only on unlisted stages and on ids further down. -/
def Settled (stages : List Stage) : List String → Prop
  | [] => True
  | id :: rest =>
      (∀ dependency, Depends stages id dependency →
        dependency ∈ stages.map (·.id) → dependency ∈ rest) ∧ Settled stages rest

def follow (stages : List Stage) (fuel : Nat) (path finished : List String) (id : String) :
    Except (List String) (List String) :=
  if finished.contains id then .ok finished
  else if path.contains id then .error (ringFrom path id)
  else
    match stages.find? fun s => s.id = id with
    | some next => visit stages fuel path finished next
    | none => .ok finished

variable {stages : List Stage}

theorem visit_succ (fuel : Nat) (path finished : List String) (stage : Stage) :
    visit stages (fuel + 1) path finished stage =
      (stage.dependsOn.foldlM (follow stages fuel (path ++ [stage.id])) finished).map
        (stage.id :: ·) := rfl

/-- What one step of the search adds to the finished ids: `id`, if it is listed. -/
structure Finishes (stages : List Stage) (finished : List String) (id : String)
    (after : List String) : Prop where
  settled : Settled stages after
  kept : finished ⊆ after
  reached : id ∈ stages.map (·.id) → id ∈ after

theorem foldlM_finishes {α : Type} (name : α → String)
    {step : List String → α → Except (List String) (List String)} {items : List α}
    (each : ∀ item ∈ items, ∀ finished after, Settled stages finished →
      step finished item = .ok after → Finishes stages finished (name item) after)
    {finished after : List String} (settled : Settled stages finished)
    (searched : items.foldlM step finished = .ok after) :
    Settled stages after ∧ finished ⊆ after ∧
      ∀ item ∈ items, name item ∈ stages.map (·.id) → name item ∈ after := by
  induction items generalizing finished with
  | nil =>
      cases searched
      exact ⟨settled, fun _ known => known, by simp⟩
  | cons item rest ih =>
      obtain ⟨next, first, others⟩ := foldlM_cons_eq_ok.mp searched
      have done := each item (by simp) finished next settled first
      obtain ⟨allSettled, kept, reached⟩ :=
        ih (fun other listed => each other (by simp [listed])) done.settled others
      refine ⟨allSettled, fun _ known => kept (done.kept known), ?_⟩
      intro other listed known
      rcases List.mem_cons.mp listed with rfl | later
      · exact kept (done.reached known)
      · exact reached other later known

theorem find_of_listed {id : String} (listed : id ∈ stages.map (·.id)) :
    ∃ stage ∈ stages, stage.id = id ∧ (stages.find? fun s => s.id = id) = some stage := by
  obtain ⟨stage, member, same⟩ := List.mem_map.mp listed
  cases found : stages.find? fun s => s.id = id with
  | none => exact absurd same (by simpa using List.find?_eq_none.mp found stage member)
  | some other =>
      exact ⟨other, List.mem_of_find?_eq_some found, by simpa using List.find?_some found, rfl⟩

theorem depends_iff (distinct : (stages.map (·.id)).Nodup) {stage : Stage}
    (member : stage ∈ stages) {id : String} :
    Depends stages stage.id id ↔ id ∈ stage.dependsOn := by
  constructor
  · rintro ⟨other, listed, same, named⟩
    exact List.inj_on_of_nodup_map distinct listed member same ▸ named
  · exact .of_mem member

theorem follow_finishes {fuel : Nat} {path finished after : List String} {id : String}
    (deeper : ∀ next ∈ stages, next.id ∉ path →
      visit stages fuel path finished next = .ok after → Finishes stages finished next.id after)
    (settled : Settled stages finished) (followed : follow stages fuel path finished id = .ok after) :
    Finishes stages finished id after := by
  unfold follow at followed
  split at followed
  · rename_i done
    cases followed
    exact ⟨settled, fun _ h => h, fun _ => by simpa using done⟩
  · split at followed
    · contradiction
    · rename_i fresh
      split at followed
      · rename_i next found
        have named : next.id = id := by simpa using List.find?_some found
        subst named
        exact deeper next (List.mem_of_find?_eq_some found) (by simpa using fresh) followed
      · rename_i missing
        cases followed
        refine ⟨settled, fun _ h => h, fun listed => ?_⟩
        obtain ⟨_, _, _, found⟩ := find_of_listed listed
        rw [found] at missing
        contradiction

theorem visit_finishes (distinct : (stages.map (·.id)).Nodup) {fuel : Nat}
    {path finished after : List String} {stage : Stage} (member : stage ∈ stages)
    (simple : (path ++ [stage.id]).Nodup) (known : path ⊆ stages.map (·.id))
    (enough : stages.length < fuel + path.length) (settled : Settled stages finished)
    (searched : visit stages fuel path finished stage = .ok after) :
    Finishes stages finished stage.id after := by
  induction fuel generalizing path finished after stage with
  | zero =>
      -- the path holds distinct listed ids, so that the fuel outlasts it
      have short : path.length ≤ (stages.map (·.id)).length :=
        (List.Nodup.of_append_left simple).subperm known |>.length_le
      simp only [List.length_map] at short
      omega
  | succ fuel ih =>
      obtain ⟨below, upstream, rfl⟩ := map_eq_ok.mp (visit_succ fuel path finished stage ▸ searched)
      have knownNext : path ++ [stage.id] ⊆ stages.map (·.id) := by
        refine List.append_subset.mpr ⟨known, ?_⟩
        simpa using ⟨stage, member, rfl⟩
      have each : ∀ id ∈ stage.dependsOn, ∀ finished after, Settled stages finished →
          follow stages fuel (path ++ [stage.id]) finished id = .ok after →
          Finishes stages finished id after := by
        intro id _ finished after settled followed
        refine follow_finishes (fun next listed fresh visited => ?_) settled followed
        refine ih listed ?_ knownNext ?_ settled visited
        · exact simple.append (List.nodup_singleton _) (by simpa using fresh)
        · simp only [List.length_append, List.length_singleton]
          omega
      obtain ⟨belowSettled, kept, reached⟩ := foldlM_finishes (fun id => id) each settled upstream
      refine ⟨⟨?_, belowSettled⟩, fun id h => List.mem_cons_of_mem _ (kept h), by simp⟩
      intro dependency edge listed
      exact reached dependency ((depends_iff distinct member).mp edge) listed

theorem Settled.accessible {finished : List String} (settled : Settled stages finished)
    {id : String} (member : id ∈ finished) : Acc (fun a b => Depends stages b a) id := by
  induction finished generalizing id with
  | nil => simp at member
  | cons head rest ih =>
      rcases List.mem_cons.mp member with rfl | later
      · refine Acc.intro id fun dependency edge => ?_
        by_cases listed : dependency ∈ stages.map (·.id)
        · exact ih settled.2 (settled.1 dependency edge listed)
        · exact Acc.intro dependency fun other next =>
            absurd (Reaches.single next).source_listed listed
      · exact ih settled.2 later

/-- The search finds a ring wherever there is one. -/
theorem acyclic_of_findRing? (distinct : (stages.map (·.id)).Nodup)
    (searched : findRing? stages = none) : Acyclic stages := by
  simp only [findRing?] at searched
  split at searched
  case h_2 => contradiction
  case h_1 finished complete =>
    have each : ∀ stage ∈ stages, ∀ finished after, Settled stages finished →
        (if finished.contains stage.id then Except.ok finished
          else visit stages (stages.length + 1) [] finished stage) = .ok after →
        Finishes stages finished stage.id after := by
      intro stage member finished after settled visited
      split at visited
      · rename_i done
        cases visited
        exact ⟨settled, fun _ h => h, fun _ => by simpa using done⟩
      · exact visit_finishes distinct member (by simp) (by simp) (by simp) settled visited
    have empty : Settled stages [] := trivial
    obtain ⟨settled, _, reached⟩ := foldlM_finishes Stage.id each empty complete
    refine acyclic_of_wellFounded ⟨fun id => ?_⟩
    by_cases listed : id ∈ stages.map (·.id)
    · obtain ⟨stage, member, rfl⟩ := List.mem_map.mp listed
      exact settled.accessible (reached stage member listed)
    · exact Acc.intro id fun other next => absurd (Reaches.single next).source_listed listed

theorem checkCycles_acyclic (distinct : (stages.map (·.id)).Nodup)
    (checked : checkCycles stages = .ok ()) : Acyclic stages := by
  unfold checkCycles at checked
  split at checked
  · contradiction
  · rename_i searched
    exact acyclic_of_findRing? distinct searched

theorem checkDependencies_closed (checked : checkDependencies stages = .ok ()) :
    Closed stages := by
  unfold checkDependencies at checked
  split at checked
  · contradiction
  · rename_i none
    intro stage member id named
    have absent := List.findSome?_eq_none_iff.mp none stage member
    simp only [Option.map_eq_none_iff, List.find?_eq_none] at absent
    simpa using absent id named

theorem checkDependencies_of_closed (closed : Closed stages) :
    checkDependencies stages = .ok () := by
  have none : danglingDependency? stages = none := by
    refine List.findSome?_eq_none_iff.mpr fun stage member => ?_
    simp only [Option.map_eq_none_iff, List.find?_eq_none]
    intro id named
    simpa using closed stage member id named
  rw [checkDependencies, none]

end StagePlan.Graph
