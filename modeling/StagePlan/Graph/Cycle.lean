import StagePlan.Graph.Failure
import StagePlan.Model.Stage

namespace StagePlan.Graph

/-!
Dependencies among listed stages: that all of them exist, and that they do not lead in a ring. The
search goes depth first, through stages and their dependencies in the order of the list, and the
first ring that it closes is reported.
-/

/-- The first dependency on a stage that is not listed. -/
def danglingDependency? (stages : List Stage) : Option (String × String) :=
  stages.findSome? fun stage =>
    (stage.dependsOn.find? fun id => !(stages.map (·.id)).contains id).map fun id =>
      (stage.id, id)

def checkDependencies (stages : List Stage) : Except CompileError Unit :=
  match danglingDependency? stages with
  | some (stage, dependency) => .error (.unknownDependency stage dependency)
  | none => .ok ()

/-- The part of a path from `id` on, with `id` again at its end. -/
def ringFrom (path : List String) (id : String) : List String :=
  path.dropWhile (· ≠ id) ++ [id]

/-- Follows the dependencies of a stage, `path` leading to it from where the search began. Gives the
stages from which no ring can be reached, or the ring that was found. `fuel` bounds the length of
the path. -/
def visit (stages : List Stage) :
    Nat → List String → List String → Stage → Except (List String) (List String)
  | 0, _, finished, _ => .ok finished
  | fuel + 1, path, finished, stage =>
      let path := path ++ [stage.id]
      let follow (finished : List String) (id : String) : Except (List String) (List String) :=
        if finished.contains id then .ok finished
        else if path.contains id then .error (ringFrom path id)
        else
          match stages.find? fun s => s.id = id with
          | some next => visit stages fuel path finished next
          | none => .ok finished
      (stage.dependsOn.foldlM follow finished).map (stage.id :: ·)

/-- The first ring of dependencies that the search closes. -/
def findRing? (stages : List Stage) : Option (List String) :=
  let start (finished : List String) (stage : Stage) : Except (List String) (List String) :=
    if finished.contains stage.id then .ok finished
    else visit stages (stages.length + 1) [] finished stage
  match stages.foldlM start [] with
  | .ok _ => none
  | .error ring => some ring

def checkCycles (stages : List Stage) : Except CompileError Unit :=
  match findRing? stages with
  | some ring => .error (.cycle ring)
  | none => .ok ()

end StagePlan.Graph
