import StagePlan.Registry.Basic
import StagePlan.Value.Equality

namespace StagePlan.Predicates

/-!
The predicates that every registry starts with: equality of values, and what a list or map holds.
-/

/-- Why a predicate fails. -/
inductive Fault where
  | arguments (expected count : Nat)
  /-- An argument is not what is expected. -/
  | unexpected (expected typeName : String)
  deriving DecidableEq, Repr

def Fault.message : Fault → String
  | .arguments expected count =>
      "expects " ++ toString expected ++ " arguments, got " ++ toString count
  | .unexpected expected typeName => "expects " ++ expected ++ ", got " ++ typeName

/-- Whether a list has the value as an item, or a map under one of its keys. -/
def contains (collection needle : Value) : Except Fault Bool :=
  match collection with
  | .list items => .ok (items.any fun item => item.equals needle)
  | .map entries => .ok (entries.any fun entry => entry.2.equals needle)
  | other => .error (.unexpected "a list or map" other.typeName)

def containsKey (collection key : Value) : Except Fault Bool :=
  match collection, key with
  | .map entries, .string name => .ok (Bindings.has name entries)
  | .map _, other => .error (.unexpected "a string key" other.typeName)
  | other, _ => .error (.unexpected "a map" other.typeName)

/-- A predicate of two arguments. -/
def binary (predicate : Value → Value → Except Fault Bool) : Predicate := fun arguments =>
  let answer :=
    match arguments with
    | [a, b] => predicate a b
    | _ => .error (.arguments 2 arguments.length)
  match answer with
  | .ok result => .ok result
  | .error fault => .error fault.message

def builtins : PredicateRegistry :=
  [("isEqual", binary fun a b => .ok (a.equals b)),
    ("isNotEqual", binary fun a b => .ok (!a.equals b)),
    ("contains", binary contains), ("containsKey", binary containsKey)]

end StagePlan.Predicates
