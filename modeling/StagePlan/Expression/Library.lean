import StagePlan.Expression.Condition
import StagePlan.Expression.Conversion
import StagePlan.Expression.ListFilter
import StagePlan.Registry.Basic

namespace StagePlan.Expression

/-!
What expressions may call: the filters and tests of the language, and the registered filters and
predicates, which come before filters of the same name.
-/

structure Library where
  filters : FilterRegistry := []
  predicates : PredicateRegistry := []

namespace Library

open Arguments

/-- The filter that carries a value out of an expression as a document. -/
def documentFilter : String := "__typed__"

def toDocument (v : Dynamic) : Except Fault Dynamic :=
  match v.toValue with
  | .ok value => .ok (.text value.document)
  | .error fault => .error fault

/-- Applies a registered filter, whose input and arguments have to be values of documents. -/
def applyRegistered (name : String) (filter : Filter) (input : Dynamic) (given : List Dynamic) :
    Except Fault Dynamic := do
  let value ← input.toValue
  let arguments ← given.mapM Dynamic.toValue
  match filter value arguments with
  | .ok result => .ok (.ofValue result)
  | .error message => .error (.filter name message)

def applyPredicate (name : String) (predicate : Predicate) (given : List Dynamic) :
    Except Fault Dynamic := do
  let arguments ← given.mapM Dynamic.toValue
  match predicate arguments with
  | .ok answer => .ok (.bool answer)
  | .error message => .error (.predicate name message)

/-- The filters that look only at their input and arguments. -/
def plainFilter? (library : Library) (name : String) : Option TextFilter.Applied :=
  if name = documentFilter then some (TextFilter.single asAny toDocument)
  else
    match Bindings.find? name library.filters with
    | some filter => some (applyRegistered name filter)
    | none => (TextFilter.find? name).or (ListFilter.find? name)

/-- The filters that apply tests or other filters to the items of their input. -/
def itemFilters : List String :=
  ["map", "select", "reject", "selectattr", "rejectattr"]

def hasFilter (library : Library) (name : String) : Bool :=
  (library.plainFilter? name).isSome || itemFilters.contains name

def test? (library : Library) (name : String) : Option Condition.Applied :=
  Condition.find? library.hasFilter name

/-- Keeps the items for which a test says `keep`; without a test they are taken by whether they
count as true. -/
def choose (library : Library) (keep byAttribute : Bool) : TextFilter.Applied := fun input given =>
  take (do
    let v ← required asAny
    let path? ← if byAttribute then some <$> required asText else pure none
    let name? ← optional asText
    let arguments ← rest
    let test? ←
      match name? with
      | none => pure none
      | some name =>
          match library.test? name with
          | some test => pure (some test)
          | none => throw (.unknownForItems .test)
    let result := do
      let items ← v.iterate
      items.filterM fun (item : Dynamic) => do
        let viewed ←
          match path? with
          | none => Except.ok item
          | some path => item.follow path
        let passed ←
          match test? with
          | none => Except.ok viewed.isTruthy
          | some test => test viewed arguments
        Except.ok (passed == keep)
    match result with
    | .ok items => pure (.list items)
    | .error fault => throw fault)
    (input :: given)

/-- Applies a filter by name. The filter `map` applies the one that its first argument names, with
the arguments behind it, so `fuel` above the number of arguments never runs out. -/
def applyFilter (library : Library) : Nat → String → Dynamic → List Dynamic → Except Fault Dynamic
  | 0, _, _, _ => .error .operation
  | fuel + 1, name, input, given =>
      match library.plainFilter? name with
      | some filter => filter input given
      | none =>
          match name with
          | "select" => library.choose true false input given
          | "reject" => library.choose false false input given
          | "selectattr" => library.choose true true input given
          | "rejectattr" => library.choose false true input given
          | "map" => do
              let (plain, named) := splitNamed given
              match ← Arguments.named "attribute" asAny named with
              | some path =>
                  if plain.isEmpty then ListFilter.mapAttribute named path input
                  else .error .operation
              | none =>
                  match plain with
                  | .string filter _ :: arguments =>
                      if library.hasFilter filter then
                        let items ← input.iterate
                        let results ← items.mapM fun (item : Dynamic) =>
                          library.applyFilter fuel filter item arguments
                        .ok (.list results)
                      else .error (.unknownForItems .filter)
                  | _ => .error .operation
          | name => .error (.unknown .filter name)

/-- Applies a filter to a value. -/
def filter (library : Library) (name : String) (input : Dynamic) (given : List Dynamic) :
    Except Fault Dynamic :=
  match library.applyFilter (given.length + 1) name input given with
  | .ok v => v.valid
  | .error fault => .error fault

def test (library : Library) (name : String) (input : Dynamic) (given : List Dynamic) :
    Except Fault Bool :=
  match library.test? name with
  | some test => test input given
  | none => .error (.unknown .test name)

end Library

end StagePlan.Expression
