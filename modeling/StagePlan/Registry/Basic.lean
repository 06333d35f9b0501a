import StagePlan.Bindings
import StagePlan.Text.Quoted
import StagePlan.Value.Basic

namespace StagePlan

/-!
Registries: named functions that expressions may use. Filters turn a value into another, predicates
answer yes or no about their arguments; both may fail with a message.
-/

abbrev Filter := Value → List Value → Except String Value

abbrev Predicate := List Value → Except String Bool

/-- Functions by name. Registering a name again replaces the function. -/
abbrev Registry (α : Type) := Bindings α

abbrev FilterRegistry := Registry Filter

abbrev PredicateRegistry := Registry Predicate

namespace Registry

variable {α : Type}

def register (name : String) (function : α) (registry : Registry α) : Registry α :=
  Bindings.bind name function registry

def insertName (name : String) : List String → List String
  | [] => [name]
  | other :: rest => if name ≤ other then name :: other :: rest else other :: insertName name rest

/-- The registered names in order. -/
def sortedNames (registry : Registry α) : List String :=
  registry.names.foldr insertName []

/-- A registry as messages show it: what it is, and its names. -/
def shown (title field : String) (registry : Registry α) : String :=
  title ++ " \x7b " ++ field ++ ": " ++ Text.quotedList registry.sortedNames ++ " \x7d"

end Registry

end StagePlan
