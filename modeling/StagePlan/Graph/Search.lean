import StagePlan.Bindings
import StagePlan.Graph.Cycle

namespace StagePlan.Graph

/-!
The search for a ring with the path of the search on a stack of its own, so that the length of a
path is bounded by nothing but memory. Every stage on the path carries a count of its dependencies
that have been followed, and ids are marked when their stages come onto the path and leave it.
-/

/-- What the search knows of an id that it has come to. -/
inductive Mark where
  /-- Its stage is on the path. -/
  | visiting
  /-- All that its stage depends on has been followed. -/
  | visited
  deriving DecidableEq

/-- A stage on the path, with the number of its dependencies that have been followed. -/
structure Frame where
  stage : Stage
  followed : Nat := 0

structure Search where
  /-- The stages from which the search may still begin. -/
  roots : List Stage
  /-- The path, the stage that was reached last in front. -/
  frames : List Frame := []
  marks : Bindings Mark := []

/-- What one step of the search leads to. -/
inductive Move where
  | goOn (search : Search)
  | ring (ids : List String)
  | done

namespace Search

/-- The ids on the path, from where the search began. -/
def path (search : Search) : List String :=
  (search.frames.map (·.stage.id)).reverse

/-- Puts a stage on the path. -/
def enter (search : Search) (stage : Stage) : Search :=
  { search with
    frames := { stage } :: search.frames
    marks := search.marks.bind stage.id .visiting }

/-- One step of the search: it begins from the next root, leaves the stage at the end of the path,
or follows the next dependency of that stage. -/
def move (stages : List Stage) (search : Search) : Move :=
  match search.frames with
  | [] =>
      match search.roots with
      | [] => .done
      | root :: roots =>
          if search.marks.has root.id then .goOn { search with roots }
          else .goOn ({ search with roots }.enter root)
  | frame :: below =>
      match frame.stage.dependsOn[frame.followed]? with
      | none =>
          .goOn { search with
            frames := below
            marks := search.marks.bind frame.stage.id .visited }
      | some id =>
          let onward :=
            { search with frames := { frame with followed := frame.followed + 1 } :: below }
          match search.marks.find? id with
          | some .visited => .goOn onward
          | some .visiting => .ring (ringFrom search.path id)
          | none =>
              match stages.find? fun s => s.id = id with
              | some next => .goOn (onward.enter next)
              | none => .goOn onward

end Search

end StagePlan.Graph
