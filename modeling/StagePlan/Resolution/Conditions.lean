import StagePlan.Graph.Exclusion
import StagePlan.Text.Blank
import StagePlan.Value.Basic

namespace StagePlan

/-!
Conditions of stages. A stage stays in a graph if all of its conditions hold.
-/

/-- Whether a text is the word `false`, in letters of either case. -/
def isFalseWord (text : String) : Bool :=
  (Text.trim text.toList).map Char.toLower = "false".toList

/-- A condition holds if it counts as true; a text that says `false` does not. -/
def conditionHolds (condition : Value) : Bool :=
  match condition with
  | .string text => !isFalseWord text && condition.isTruthy
  | v => v.isTruthy

namespace StageGraph

/-- The stages that have a condition that does not hold. -/
def excluded (graph : StageGraph) : List String :=
  (graph.stages.filter fun stage => !stage.conditions.all conditionHolds).map (·.id)

/-- The graph without the stages that have a condition that does not hold. The conditions of the
others are dropped. -/
def applyConditions (graph : StageGraph) : StageGraph :=
  let kept :=
    if graph.excluded.isEmpty then graph else Graph.withoutStages graph.excluded graph
  ⟨kept.stages.map fun stage => { stage with conditions := [] }⟩

end StageGraph

end StagePlan
