import StagePlan.Value.Basic

namespace StagePlan

/-!
Declared types of variables and the values that they accept.
-/

inductive VariableType where
  | string
  | int
  | float
  | boolean
  | list
  | object
  deriving DecidableEq, Repr

namespace VariableType

/-- The type that a declaration names. An empty name declares an object. -/
def ofName? : String → Option VariableType
  | "string" => some .string
  | "int" => some .int
  | "integer" => some .int
  | "float" => some .float
  | "boolean" => some .boolean
  | "bool" => some .boolean
  | "list" => some .list
  | "" => some .object
  | "object" => some .object
  | _ => none

def name : VariableType → String
  | .string => "string"
  | .int => "int"
  | .float => "float"
  | .boolean => "boolean"
  | .list => "list"
  | .object => "object"

@[simp]
theorem ofName?_name (type : VariableType) : ofName? type.name = some type := by
  cases type <;> rfl

/-- Whether a value may be bound to a variable of the type. An object may be anything. -/
def accepts : VariableType → Value → Bool
  | .string, .string _ => true
  | .int, .number n => n.isIntegral
  | .float, .number _ => true
  | .boolean, .bool _ => true
  | .list, .list _ => true
  | .object, _ => true
  | _, _ => false

end VariableType

end StagePlan
