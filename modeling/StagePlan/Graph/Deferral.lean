import StagePlan.Graph.Placement

namespace StagePlan.Graph

/-!
The passes over the waiting stages, one after the other for as long as any wait, with no bound on
their number. A stage whose targets are missing is deferred to the next pass.
-/

/-- The list so far, and the stages that are still to be placed. -/
structure Deferral where
  stages : List Stage
  pending : Pending

/-- What a pass leads to. -/
inductive Turn where
  | goOn (next : Deferral)
  | placed (stages : List Stage)
  | failed (e : CompileError)
  /-- The pass has deferred every stage, so that none will ever be placed. -/
  | stuck (deferred : Pending)

/-- What is reported when the passes end. -/
def Turn.result? : Turn → Option (Except CompileError (List Stage))
  | .goOn _ => none
  | .placed stages => some (.ok stages)
  | .failed e => some (.error e)
  | .stuck deferred => some (.error (unplaceable deferred))

def Deferral.turn (loop : Deferral) : Turn :=
  if loop.pending.isEmpty then .placed loop.stages
  else
    match placePass loop.stages loop.pending with
    | .error e => .failed e
    | .ok (stages, deferred) =>
        if deferred.length = loop.pending.length then .stuck deferred
        else .goOn { stages, pending := deferred }

end StagePlan.Graph
