import StagePlan.Bindings
import StagePlan.Graph.Placement

namespace StagePlan.Graph

/-!
Expanding placeholders into their groups. The roots of a group take over the dependencies of its
placeholder, and what depended on the placeholder depends on the leaves of the group; an empty group
passes the dependencies of its placeholder on.
-/

/-- The members of each placeholder, by its id. -/
abbrev Groups := Bindings (List Stage)

/-- What stands for a placeholder among dependencies: the leaves of its group, or what the
placeholder itself depends on if the group is empty. -/
def standIns (placeholder : Stage) (group : List Stage) : List String :=
  if group.isEmpty then placeholder.dependsOn else leaves group

/-- The members of a group, its roots behind the placeholder's dependencies. -/
def membersOf (placeholder : Stage) (group : List Stage) : List Stage :=
  group.map fun member =>
    if member.dependsOn.isEmpty then { member with dependsOn := placeholder.dependsOn } else member

/-- Follows replacements from the pending ids, each of them at most once. `steps` bounds the ids
that can become pending. -/
def rewireFrom (replaced : Bindings (List String)) :
    Nat → List String → List String → List String → List String
  | _, _, found, [] => found
  | 0, _, found, _ :: _ => found
  | steps + 1, seen, found, id :: pending =>
      match replaced.find? id with
      | some targets =>
          if seen.contains id then rewireFrom replaced steps seen found pending
          else rewireFrom replaced steps (id :: seen) found (targets ++ pending)
      | none =>
          rewireFrom replaced steps seen (if found.contains id then found else found ++ [id])
            pending

/-- The dependencies with every replaced id written out, as far as that leads, without repetition. -/
def rewire (replaced : Bindings (List String)) (dependsOn : List String) : List String :=
  let steps := dependsOn.length + (replaced.flatMap fun entry => entry.2).length
  rewireFrom replaced steps [] [] dependsOn

/-- The list with every placeholder's group in its place. -/
def expand (groups : Groups) (stages : List Stage) : List Stage :=
  if !stages.any fun s => groups.has s.id then stages
  else
    let replaced := stages.filterMap fun s =>
      (groups.find? s.id).map fun group => (s.id, standIns s group)
    let expanded := stages.flatMap fun s =>
      match groups.find? s.id with
      | some group => membersOf s group
      | none => [s]
    expanded.map fun s => { s with dependsOn := rewire replaced s.dependsOn }

end StagePlan.Graph
