import StagePlan.Graph.Expansion
import StagePlan.Graph.Merge
import StagePlan.Graph.Order
import StagePlan.Model.Template

namespace StagePlan.Graph

/-!
Compiling stages into a graph: the stages of template and configuration are merged, those with a
placement rule are placed among the others, placeholders are expanded into their groups, and the
result is put in order. On the way every reference is checked.
-/

structure Compilation where
  graph : StageGraph
  diagnostics : List Diagnostic

/-- A merged stage is placed by its rule, or else stands where it is. -/
inductive Role where
  | base (stage : Stage)
  | injected (stage : Stage) (placement : Placement)

/-- The role of a stage, whose rule must not ask for more than one placement. -/
def Role.ofStage (stage : Stage) : Except CompileError Role :=
  match (stage.injection?.map InjectionRule.placements).getD [] with
  | [] => .ok (.base { stage with inject? := none })
  | [placement] => .ok (.injected stage placement)
  | _ => .error (.ambiguousInjection stage.id)

def baseStages (roles : List Role) : List Stage :=
  roles.filterMap fun role =>
    match role with
    | .base stage => some stage
    | .injected .. => none

def injectedStages (roles : List Role) : Pending :=
  roles.filterMap fun role =>
    match role with
    | .base _ => none
    | .injected stage placement => some (stage, placement)

/-- Every target of a placement must be one of the merged stages. -/
def checkTargets (known : List String) (pending : Pending) : Except CompileError Unit :=
  let unknown := pending.findSome? fun (stage, placement) =>
    (placement.targets.find? fun target => !known.contains target).map fun target =>
      (stage.id, target)
  match unknown with
  | some (stage, target) => .error (.unknownTarget stage target)
  | none => .ok ()

/-- The merged stages with all placement rules carried out. -/
def arrange (merged : List Stage) : Except CompileError (List Stage) := do
  let roles ← merged.mapM Role.ofStage
  let pending := injectedStages roles
  checkTargets (merged.map (·.id)) pending
  placeAll (baseStages roles) pending

/-- Every dependency exists and none leads in a ring. -/
def checkEdges (stages : List Stage) : Except CompileError Unit := do
  checkDependencies stages
  checkCycles stages

/-- The graph of a template's and a configuration's stages, placeholders expanded. -/
def compile (template configuration : List Stage) (groups : Groups) :
    Except CompileError Compilation := do
  let merged ← merge template configuration
  let arranged ← arrange merged.stages
  checkEdges arranged
  let expanded := expand groups arranged
  checkUnique expanded
  checkEdges expanded
  pure ⟨⟨topologicalOrder expanded⟩, merged.warnings⟩

end StagePlan.Graph
