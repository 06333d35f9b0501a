import StagePlan.Model.Stage

namespace StagePlan.Graph

/-!
The order of a graph: again and again the first stage of the list is taken whose dependencies have
all been taken. Dependencies on stages that are not listed hold nothing back.
-/

/-- Whether everything on which a stage depends among `waiting` has gone. -/
def isReady (waiting : List Stage) (stage : Stage) : Bool :=
  stage.dependsOn.all fun id => !(waiting.map (·.id)).contains id

/-- Takes the first stage that nothing holds back out of the waiting ones. -/
def takeReady? (waiting : List Stage) : List Stage → Option (Stage × List Stage)
  | [] => none
  | stage :: rest =>
      if isReady waiting stage then some (stage, rest)
      else (takeReady? waiting rest).map fun (ready, others) => (ready, stage :: others)

/-- The waiting stages in order; those that never become ready are left out. -/
def orderFrom : Nat → List Stage → List Stage
  | 0, _ => []
  | fuel + 1, waiting =>
      match takeReady? waiting waiting with
      | some (ready, others) => ready :: orderFrom fuel others
      | none => []

def topologicalOrder (stages : List Stage) : List Stage :=
  orderFrom stages.length stages

end StagePlan.Graph
