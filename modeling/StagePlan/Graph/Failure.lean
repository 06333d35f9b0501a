namespace StagePlan

/-!
Why stages do not form a graph.
-/

inductive CompileError where
  /-- Stages that depend on each other in a ring; the first id is repeated at the end. -/
  | cycle (ids : List String)
  /-- A stage is placed relative to one that does not exist. -/
  | unknownTarget (stage target : String)
  | unknownDependency (stage dependency : String)
  /-- A stage asks for more than one placement. -/
  | ambiguousInjection (stage : String)
  | duplicateStage (id : String)
  deriving DecidableEq, Repr

def CompileError.message : CompileError → String
  | .cycle ids => "cycle detected in stage graph: " ++ " -> ".intercalate ids
  | .unknownTarget stage target =>
      "could not inject '" ++ stage ++ "' stage: unknown target stage id '" ++ target ++ "'"
  | .unknownDependency stage dependency =>
      "stage '" ++ stage ++ "' depends on unknown stage '" ++ dependency ++ "'"
  | .ambiguousInjection stage => "stage '" ++ stage ++ "' has more than one inject rule"
  | .duplicateStage id => "duplicate stage id '" ++ id ++ "'"

end StagePlan
