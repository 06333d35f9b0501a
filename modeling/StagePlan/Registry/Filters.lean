import StagePlan.Registry.Basic
import StagePlan.Text.Base64
import StagePlan.Text.Blank
import StagePlan.Value.Written

namespace StagePlan.Filters

/-!
The filters that every registry starts with: the canonical document of a value, its Base64 form, and
the smallest and largest element of a list of numbers.
-/

/-- Why a filter fails. -/
inductive Fault where
  | arguments (count : Nat)
  | notList (typeName : String)
  | emptyList
  /-- The element at the index is no number; `shown` is its quoted text or the name of its kind. -/
  | notNumeric (index : Nat) (shown : String)
  | notFinite (index : Nat)
  /-- The value holds a number that no document can hold. -/
  | noText (x : Binary64)
  | noDocument (value : Value) (x : Binary64)

def Fault.message : Fault → String
  | .arguments count => "expects no arguments, got " ++ toString count
  | .notList typeName => "expects a list, got " ++ typeName
  | .emptyList => "requires a non-empty list"
  | .notNumeric index shown => "element " ++ toString index ++ " is not numeric: " ++ shown
  | .notFinite index => "element " ++ toString index ++ " is not a finite number"
  | .noText x => Value.nonFiniteMessage x
  | .noDocument value x => "cannot encode " ++ value.inspected ++ ": " ++ Value.nonFiniteMessage x

def json (value : Value) : Except Fault Value :=
  match value.canonical with
  | .ok text => .ok (.string text)
  | .error x => .error (.noDocument value x)

def base64 (value : Value) : Except Fault Value :=
  match value.text with
  | .ok text => .ok (.string (Text.base64 text))
  | .error x => .error (.noText x)

/-- The number that a text holds, blanks around it left out, and whether it has no fractional
part. -/
def numberOfText? (text : String) : Option (Binary64 × Bool) :=
  let chars := Text.trim text.toList
  match wholeOfChars? chars with
  | some n =>
      if fitsInt64 n then some (Binary64.ofInt n, true)
      else
        let x := Binary64.ofInt n
        some (x, x.isIntegral)
  | none => (Binary64.ofChars? chars).map fun x => (x, x.isIntegral)

/-- The number that an element of a list stands for, and whether it has no fractional part. -/
def coerce (index : Nat) (item : Value) : Except Fault (Binary64 × Bool) :=
  let number : Except Fault (Binary64 × Bool) :=
    match item with
    | .number (.integer n) => .ok (Binary64.ofInt n.toInt, true)
    | .number (.float x) => .ok (x, x.isIntegral)
    | .string text =>
        match numberOfText? text with
        | some number => .ok number
        | none => .error (.notNumeric index ("'" ++ text ++ "'"))
    | other => .error (.notNumeric index other.typeName)
  match number with
  | .ok (x, integral) => if x.isFinite then .ok (x, integral) else .error (.notFinite index)
  | .error fault => .error fault

def coerceFrom : Nat → List Value → Except Fault (List (Binary64 × Bool))
  | _, [] => .ok []
  | index, item :: rest =>
      match coerce index item with
      | .error fault => .error fault
      | .ok number =>
          match coerceFrom (index + 1) rest with
          | .error fault => .error fault
          | .ok numbers => .ok (number :: numbers)

inductive Extremum where
  | smallest
  | largest
  deriving DecidableEq

/-- Of two finite numbers the one asked for; of two equal ones the first. -/
def Extremum.pick : Extremum → Binary64 → Binary64 → Binary64
  | .smallest, x, y => if y.below x then y else x
  | .largest, x, y => if x.below y then y else x

/-- Whether a number lies between the least 64-bit integer and two to the 63rd, which is the double
nearest to the greatest. -/
def inIntegerRange (x : Binary64) : Bool :=
  decide (-(Nat.pow 2 63 * Binary64.one : Int) ≤ x.signedUnits) &&
    decide (x.signedUnits ≤ (Nat.pow 2 63 * Binary64.one : Int))

/-- The 64-bit integer next to a number. -/
def nearestInteger (x : Binary64) : Int64 :=
  Int64.ofInt (max (-(Nat.pow 2 63 : Int)) (min (Nat.pow 2 63 - 1 : Int) x.truncate))

/-- The smallest or largest element of a list: an integer when every element is integral and the
result is in range, a decimal otherwise. -/
def extremum (which : Extremum) (value : Value) : Except Fault Value := do
  match value.list? with
  | none => .error (.notList value.typeName)
  | some items =>
      match ← coerceFrom 0 items with
      | [] => .error .emptyList
      | first :: rest =>
          let best := rest.foldl (fun best number => which.pick best number.1) first.1
          if (first :: rest).all (·.2) && inIntegerRange best then
            pure (.number (.integer (nearestInteger best)))
          else pure (.float best)

/-- A filter without arguments. -/
def plain (filter : Value → Except Fault Value) : Filter := fun value arguments =>
  if !arguments.isEmpty then .error (Fault.arguments arguments.length).message
  else
    match filter value with
    | .ok result => .ok result
    | .error fault => .error fault.message

def builtins : FilterRegistry :=
  [("base64", plain base64), ("json", plain json), ("min", plain (extremum .smallest)),
    ("max", plain (extremum .largest))]

end StagePlan.Filters
