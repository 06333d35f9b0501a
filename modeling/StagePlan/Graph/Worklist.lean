import StagePlan.Graph.Expansion

namespace StagePlan.Graph

/-!
Following replacements on a stack, one id after the other for as long as any waits, with no bound on
their number. Replacements go onto the stack in reverse, so that the first of them comes off first.
-/

structure Worklist where
  /-- The ids that wait, the next one at the end. -/
  pending : List String
  /-- The ids whose replacements have gone onto the stack. -/
  seen : List String := []
  /-- The ids without replacements, in the order in which they came off. -/
  found : List String := []

namespace Worklist

def start (dependsOn : List String) : Worklist :=
  { pending := dependsOn.reverse }

/-- Takes the next id off the stack, if one waits. -/
def turn? (replaced : Bindings (List String)) (work : Worklist) : Option Worklist :=
  work.pending.getLast?.map fun id =>
    let rest := work.pending.dropLast
    match replaced.find? id with
    | some targets =>
        if work.seen.contains id then { work with pending := rest }
        else { work with pending := rest ++ targets.reverse, seen := id :: work.seen }
    | none =>
        { work with
          pending := rest
          found := if work.found.contains id then work.found else work.found ++ [id] }

end Worklist

end StagePlan.Graph
