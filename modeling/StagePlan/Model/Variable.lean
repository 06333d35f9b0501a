import StagePlan.Model.VariableType

namespace StagePlan

/-!
Declared inputs of templates, modules and partials.
-/

structure Variable where
  name : String
  /-- The type name as declared, which need not be that of a type. -/
  typeName : String := ""
  default? : Option Value := none
  description? : Option String := none
  deriving Inhabited

namespace Variable

def type? (v : Variable) : Option VariableType :=
  VariableType.ofName? v.typeName

/-- A variable without a default must be given a value. -/
def isRequired (v : Variable) : Bool :=
  v.default?.isNone

end Variable

/-- The values that a list of declared variables takes: the argument of the name where there is
one, the default otherwise. -/
def Variable.valueIn? (arguments : Bindings Value) (v : Variable) : Option Value :=
  (arguments.find? v.name).or v.default?

/-- How far a list of declared variables has been bound: the scope so far, and the names of those
that have no value. -/
structure Declaration where
  scope : Bindings Value
  missing : List String := []

namespace Declaration

/-- Binds one more variable, or notes its name if it has neither an argument nor a default. -/
def declare (arguments : Bindings Value) (d : Declaration) (v : Variable) : Declaration :=
  match v.valueIn? arguments with
  | some value => { d with scope := d.scope.bind v.name value }
  | none => { d with missing := d.missing ++ [v.name] }

def result (d : Declaration) : Except (List String) (Bindings Value) :=
  if d.missing.isEmpty then .ok d.scope else .error d.missing

end Declaration

/-- The outer scope with every declared variable bound to its value, or the names of those that have
no value. -/
def Variable.bindAll (declared : List Variable) (arguments outer : Bindings Value) :
    Except (List String) (Bindings Value) :=
  (declared.foldl (Declaration.declare arguments) { scope := outer }).result

end StagePlan
