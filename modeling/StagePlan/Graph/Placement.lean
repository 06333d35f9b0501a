import StagePlan.Graph.Cycle

namespace StagePlan.Graph

/-!
Placing a stage relative to others. The list is kept in placement order; a placement changes the
dependencies of its neighbours so that the new stage stands between them.
-/

/-- The place of a stage in a list. -/
def position? (stages : List Stage) (id : String) : Option Nat :=
  stages.findIdx? fun s => s.id = id

/-- The last place at which a target stands. -/
def lastPosition (stages : List Stage) (targets : List String) : Nat :=
  (targets.filterMap (position? stages)).foldl max 0

def insertAt (index : Nat) (stage : Stage) (stages : List Stage) : List Stage :=
  stages.take index ++ stage :: stages.drop index

/-- The list without later copies of its members. -/
def dedup (ids : List String) : List String :=
  ids.foldl (fun found id => if found.contains id then found else found ++ [id]) []

theorem mem_noted {found : List String} {next id : String} :
    id ∈ (if found.contains next then found else found ++ [next]) ↔ id ∈ found ∨ id = next := by
  split
  · rename_i known
    have listed : next ∈ found := by simpa using known
    exact ⟨.inl, fun
      | .inl old => old
      | .inr same => same ▸ listed⟩
  · rw [List.mem_append, List.mem_singleton]

theorem mem_dedup {ids : List String} {id : String} : id ∈ dedup ids ↔ id ∈ ids := by
  have from_any : ∀ found : List String,
      id ∈ ids.foldl (fun found id => if found.contains id then found else found ++ [id]) found ↔
        id ∈ found ∨ id ∈ ids := by
    induction ids with
    | nil => simp
    | cons next rest ih =>
        intro found
        rw [List.foldl_cons, ih, mem_noted, List.mem_cons, or_assoc]
  simpa [dedup] using from_any []

/-- Puts the stage ahead of every stage that depends on none. -/
def placeFirst (stage : Stage) (stages : List Stage) : List Stage :=
  { stage with dependsOn := [] } :: stages.map fun s =>
    if s.dependsOn.isEmpty then { s with dependsOn := [stage.id] } else s

/-- Ids of the stages on which none depends. -/
def leaves (stages : List Stage) : List String :=
  (stages.filter fun s => !stages.any fun other => other.dependsOn.contains s.id).map (·.id)

/-- Puts the stage after every stage on which none depends. -/
def placeLast (stage : Stage) (stages : List Stage) : List Stage :=
  stages ++ [{ stage with dependsOn := leaves stages }]

/-- Everything on which one of the targets depends, target by target. -/
def prerequisites (targets : List String) (stages : List Stage) : List String :=
  dedup (targets.flatMap fun target =>
    ((stages.find? fun s => s.id = target).map (·.dependsOn)).getD [])

/-- Puts the stage between its targets and all on which they depended. -/
def placeBefore (targets : List String) (stage : Stage) (stages : List Stage) : List Stage :=
  let rewired := stages.map fun s =>
    if targets.contains s.id then { s with dependsOn := [stage.id] } else s
  insertAt (lastPosition stages targets) { stage with dependsOn := prerequisites targets stages } rewired

/-- The dependencies of a stage when `id` has come between it and the targets. -/
def behindTargets (targets : List String) (id : String) (dependsOn : List String) : List String :=
  if dependsOn.any targets.contains then
    let kept := dependsOn.filter fun d => !targets.contains d
    if kept.contains id then kept else kept ++ [id]
  else dependsOn

/-- Puts the stage between its targets and all that depended on them. -/
def placeAfter (targets : List String) (stage : Stage) (stages : List Stage) : List Stage :=
  let rewired := stages.map fun s =>
    { s with dependsOn := behindTargets targets stage.id s.dependsOn }
  let index := if targets.isEmpty then 0 else lastPosition stages targets + 1
  insertAt index { stage with dependsOn := targets } rewired

/-- Places a stage into a list that holds all of its targets. -/
def place (stage : Stage) (placement : Placement) (stages : List Stage) : List Stage :=
  let stage := { stage with inject? := none }
  match placement with
  | .first => placeFirst stage stages
  | .last => placeLast stage stages
  | .before targets => placeBefore targets stage stages
  | .after targets => placeAfter targets stage stages

/-- Stages that wait to be placed, with their placements. -/
abbrev Pending := List (Stage × Placement)

/-- The list holds every target of the placement. -/
def isPlaceable (stages : List Stage) (placement : Placement) : Bool :=
  placement.targets.all fun target => (stages.map (·.id)).contains target

/-- Places every stage whose targets are there when its turn comes, and gives those that are left. No
placement may close a ring. -/
def placePass (stages : List Stage) : Pending → Except CompileError (List Stage × Pending)
  | [] => .ok (stages, [])
  | (stage, placement) :: rest =>
      if isPlaceable stages placement then do
        let placed := place stage placement stages
        checkCycles placed
        placePass placed rest
      else do
        let (stages, deferred) ← placePass stages rest
        pure (stages, (stage, placement) :: deferred)

/-- Why none of the waiting stages can be placed: they wait for each other. -/
def unplaceable (pending : Pending) : CompileError :=
  let waiting := pending.map fun (stage, placement) =>
    ({ id := stage.id, dependsOn := placement.targets } : Stage)
  match findRing? waiting with
  | some ring => .cycle ring
  | none => .cycle (pending.map fun (stage, _) => stage.id)

/-- Places all waiting stages in as many passes as it takes; each pass that places any makes fewer
of them wait, so their number bounds the passes. -/
def placePasses : Nat → List Stage → Pending → Except CompileError (List Stage)
  | _, stages, [] => .ok stages
  | 0, _, pending => .error (unplaceable pending)
  | passes + 1, stages, pending => do
      let (placed, deferred) ← placePass stages pending
      if deferred.length = pending.length then .error (unplaceable deferred)
      else placePasses passes placed deferred

def placeAll (stages : List Stage) (pending : Pending) : Except CompileError (List Stage) :=
  placePasses pending.length stages pending

end StagePlan.Graph
