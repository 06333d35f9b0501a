import StagePlan.Bindings
import StagePlan.Graph.Placement
import StagePlan.Model.Template

namespace StagePlan.Graph

/-!
Excluding stages from a graph. What depended on an excluded stage takes over its dependencies.
-/

/-- The dependencies with every excluded stage replaced by what it depended on. -/
def inherit (inherited : Bindings (List String)) (dependsOn : List String) : List String :=
  dedup (dependsOn.flatMap fun id => (inherited.find? id).getD [id])

/-- The stages that stay, given what the stages excluded so far depended on. -/
def keepFrom (removed : List String) : Bindings (List String) → List Stage → List Stage
  | _, [] => []
  | inherited, stage :: rest =>
      let dependsOn := inherit inherited stage.dependsOn
      if removed.contains stage.id then
        keepFrom removed (inherited.bind stage.id dependsOn) rest
      else { stage with dependsOn } :: keepFrom removed inherited rest

/-- The graph without the stages of the given ids. -/
def withoutStages (removed : List String) (graph : StageGraph) : StageGraph :=
  ⟨keepFrom removed [] graph.stages⟩

end StagePlan.Graph
