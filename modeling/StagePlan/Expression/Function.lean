import StagePlan.Expression.Arguments

namespace StagePlan.Expression.Function

/-!
Functions of the language that look only at their arguments.
-/

open Arguments

/-- The largest number of elements a range may have. -/
def rangeLimit : Nat := 100000

/-- The numbers from one bound up to another, which is left out. -/
def range (given : List Dynamic) : Except Fault Dynamic :=
  take (do
    let first ← required (asWhole 0 (Nat.pow 2 32 - 1 : Int))
    let stop? ← optional (asWhole 0 (Nat.pow 2 32 - 1 : Int))
    let step? ← optional (asWhole 0 (Nat.pow 2 32 - 1 : Int))
    let (low, high) :=
      match stop? with
      | some stop => (first.toNat, stop.toNat)
      | none => (0, first.toNat)
    let step := (step?.getD 1).toNat
    if step = 0 then throw .operation
    let count := (high - low + step - 1) / step
    if rangeLimit < count then throw .operation
    pure (.stream ((List.range count).map fun (index : Nat) => .int (low + index * step : Nat))))
    given

/-- A map with the entries of another and the named arguments. -/
def dict (given : List Dynamic) : Except Fault Dynamic := do
  let (plain, named) := splitNamed given
  let base ← take (optional fun v =>
    match v with
    | .map _ entries _ => Except.ok entries
    | _ => Except.error Fault.operation) plain
  .ok (Dynamic.mapOf (base.getD [] ++ named))

/-- The arguments, spread over lines. -/
def debug (given : List Dynamic) : Except Fault Dynamic :=
  match given with
  | [v] => .ok (.text v.spreadText)
  | given => .ok (.text (Dynamic.list given).spreadText)

/-- The entries that a namespace starts with: those of a map that lie under a name. -/
def namespaceEntries (given : List Dynamic) : Except Fault (List (String × Dynamic)) := do
  let defaults? ← take (optional asAny) given
  match defaults? with
  | none => .ok []
  | some (.map _ entries _) =>
      .ok (entries.filterMap fun entry => entry.1.string?.map fun name => (name, entry.2))
  | some _ => .error .operation

/-- The functions by name. -/
def find? (name : String) : Option (List Dynamic → Except Fault Dynamic) :=
  match name with
  | "range" => some range
  | "dict" => some dict
  | "debug" => some debug
  | _ => none

end StagePlan.Expression.Function
