import StagePlan.Graph.Order

namespace StagePlan.Graph

/-!
The order of a graph by counting. Each stage has a counter of the dependencies that it still waits
for; taking a stage counts down the stages that name it, and those that come to zero are ready. A
counter holds no negative number, so that counting down from zero is a failure.
-/

/-- Counters of all stages, and the places of the stages that are ready, in ascending order. -/
structure Countdown where
  pending : List Nat
  ready : List Nat

/-- Puts a place among others in ascending order, unless it is there already. -/
def insertPlace (place : Nat) : List Nat → List Nat
  | [] => [place]
  | other :: rest =>
      if place < other then place :: other :: rest
      else if place = other then other :: rest
      else other :: insertPlace place rest

/-- Places of the stages that depend on an id, as often as they name it. -/
def dependents (stages : List Stage) (id : String) : List Nat :=
  stages.zipIdx.flatMap fun (stage, place) => List.replicate (stage.dependsOn.count id) place

/-- How many dependencies of a stage name waiting stages, each as often as it is written. -/
def waitsFor (waiting : List Stage) (stage : Stage) : Nat :=
  stage.dependsOn.countP (waiting.map (·.id)).contains

namespace Countdown

/-- At the start all stages wait. -/
def start (stages : List Stage) : Countdown :=
  let pending := stages.map (waitsFor stages)
  { pending, ready := (List.range stages.length).filter fun place => pending[place]? = some 0 }

/-- Counts a stage down by one. -/
def release? (count : Countdown) (place : Nat) : Option Countdown :=
  match count.pending[place]? with
  | some (n + 1) =>
      some {
        pending := count.pending.set place n
        ready := if n = 0 then insertPlace place count.ready else count.ready }
  | _ => none

/-- The places of the stages in the order in which they are taken, always the first that is ready.
Nothing comes of it if a counter fails or more stages become ready than there are steps. -/
def places? (stages : List Stage) : Nat → Countdown → Option (List Nat)
  | _, ⟨_, []⟩ => some []
  | 0, _ => none
  | steps + 1, ⟨pending, place :: ready⟩ => do
      let taken ← stages[place]?
      let count ← (dependents stages taken.id).foldlM release? ⟨pending, ready⟩
      let others ← places? stages steps count
      pure (place :: others)

/-- The stages in the order in which they are taken. -/
def order? (stages : List Stage) : Option (List Stage) :=
  (places? stages stages.length (start stages)).map fun places =>
    places.filterMap fun place => stages[place]?

end Countdown

end StagePlan.Graph
