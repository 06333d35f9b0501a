import StagePlan.Bindings
import StagePlan.Number.Basic

namespace StagePlan

/-!
Values: trees of null, booleans, numbers, strings, lists and maps. The entries of a map stand in
the order in which they were written. Maps that come from a document or a rendering have distinct
keys, which `Value.WellFormed` states.
-/

inductive Value where
  | null
  | bool (b : Bool)
  | number (n : Number)
  | string (text : String)
  | list (items : List Value)
  | map (entries : List (String × Value))
  deriving Inhabited

namespace Value

def ofInt (n : Int) : Value :=
  .number (.ofInt n)

def float (x : Binary64) : Value :=
  .number (.float x)

def emptyMap : Value := .map []

/-- A list of texts. -/
def strings (texts : List String) : Value :=
  .list (texts.map .string)

/-- The name of a value's kind, as messages give it. -/
def typeName : Value → String
  | .null => "null"
  | .bool _ => "boolean"
  | .number (.integer _) => "integer"
  | .number (.float _) => "float"
  | .string _ => "string"
  | .list _ => "list"
  | .map _ => "map"

def isNull : Value → Bool
  | .null => true
  | _ => false

def string? : Value → Option String
  | .string text => some text
  | _ => none

def bool? : Value → Option Bool
  | .bool b => some b
  | _ => none

def number? : Value → Option Number
  | .number n => some n
  | _ => none

def list? : Value → Option (List Value)
  | .list items => some items
  | _ => none

def map? : Value → Option (Bindings Value)
  | .map entries => some entries
  | _ => none

/-- The entry of a map under a key. -/
def get? (v : Value) (key : String) : Option Value :=
  v.map?.bind (Bindings.find? key)

/-- Null, false, zero and what is empty count as false, and all else as true. -/
def isTruthy : Value → Bool
  | .null => false
  | .bool b => b
  | .number n => !n.toBinary64.equals Binary64.zero
  | .string text => !text.isEmpty
  | .list items => !items.isEmpty
  | .map entries => !entries.isEmpty

mutual

/-- Every map of the tree has distinct keys. -/
def WellFormed : Value → Prop
  | .list items => WellFormedItems items
  | .map entries => Bindings.Distinct entries ∧ WellFormedEntries entries
  | _ => True

def WellFormedItems : List Value → Prop
  | [] => True
  | item :: rest => WellFormed item ∧ WellFormedItems rest

def WellFormedEntries : List (String × Value) → Prop
  | [] => True
  | (_, value) :: rest => WellFormed value ∧ WellFormedEntries rest

end

end Value

end StagePlan
