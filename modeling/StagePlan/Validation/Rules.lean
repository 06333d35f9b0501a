import StagePlan.Markup.Marker
import StagePlan.Model.Template
import StagePlan.Validation.Context

namespace StagePlan.Validation

/-!
The rules for single elements. What is wrong with an element by itself is a list of messages; the
rules place these where the context stands.
-/

/-- The message for a value that its declared type does not accept. -/
def typeMismatch (what : String) (type : VariableType) (value : Value) : String :=
  what ++ " does not match declared type '" ++ type.name ++ "' (got " ++ value.typeName ++ ")"

/-- A message where a condition holds. -/
def complain (condition : Bool) (message : String) : List String :=
  if condition then [message] else []

/-- What is wrong with the configuration of a stage. A string with markers may render to a map, and
a stage that stands for a partial needs no configuration. -/
def configFaults (stage : Stage) : List String :=
  match stage.config? with
  | none => complain stage.partialId?.isNone "Stage configuration is unset"
  | some (.map _) => []
  | some (.string source) =>
      complain (!Markup.hasMarkers source) "Stage configuration must be a map"
  | some _ => ["Stage configuration must be a map"]

def placementFaults (stage : Stage) : List String :=
  match stage.injection? with
  | none => []
  | some rule =>
      if !stage.dependsOn.isEmpty then
        ["A stage may only define dependsOn or an inject rule, not both"]
      else complain (1 < rule.placements.length) "A stage may only define one inject rule"

def stageFaults (stage : Stage) : List String :=
  complain stage.id.isEmpty "Stage ID is unset"
    ++ complain stage.type.isEmpty "Stage is missing type"
    ++ configFaults stage ++ placementFaults stage
    ++ complain (stage.loopWith?.isSome && stage.partialId?.isSome)
      "A partial placeholder cannot define loopWith"

def variableFaults (v : Variable) : List String :=
  complain v.name.isEmpty "Variable name is unset"
    ++
      match v.type?, v.default? with
      | none, _ => ["Unknown variable type '" ++ v.typeName ++ "'"]
      | some type, some value =>
          complain (!type.accepts value) (typeMismatch "Default value" type value)
      | some _, none => []

def validateStage (stage : Stage) : Rule :=
  Context.errors (stageFaults stage)

def validateVariable (v : Variable) : Rule :=
  Context.errors (variableFaults v)

/-- The rules for a list of elements, whose names must differ: each is looked at in its own place, and
one with the name of an earlier one is reported there as well. -/
def validateNamed {α : Type} (collection duplicate : String) (name : α → String) (rule : α → Rule)
    (items : List α) : Rule :=
  eachNamed name
    (fun index repeated item =>
      Context.within (component collection (name item) index) fun ctx =>
        (rule item ctx).errors (complain repeated (duplicate ++ " '" ++ name item ++ "'")))
    items

def validateVariables (declared : List Variable) : Rule :=
  validateNamed "variables" "Duplicate variable name" Variable.name validateVariable declared

def validateStages (stages : List Stage) : Rule :=
  validateNamed "stages" "Duplicate stage ID" Stage.id validateStage stages

def validateModule (m : Module) : Rule := fun ctx =>
  validateVariables m.declared (ctx.errors (complain m.id.isEmpty "Module ID is unset"))

/-- What a stage may not do inside a partial. -/
def memberFaults (p : Partial) (stage : Stage) : List String :=
  complain stage.injection?.isSome "Partial stages cannot use inject rules"
    ++ complain stage.loopWith?.isSome "Partial stages cannot define loopWith"
    ++ complain stage.partialId?.isSome "Partial stages cannot reference other partials"
    ++ (stage.dependsOn.filter fun id => !(p.stages.map (·.id)).contains id).map fun id =>
      "Dependency '" ++ id ++ "' is not a stage of partial '" ++ p.id ++ "'"

def validatePartial (p : Partial) : Rule := fun ctx =>
  let ctx := ctx.errors (complain p.id.isEmpty "Partial ID is unset")
  let ctx := validateStages p.stages (validateVariables p.declared ctx)
  each
    (fun index stage => Context.within (stageComponent stage index)
      (Context.errors (memberFaults p stage)))
    p.stages ctx

def validateModules (modules : List Module) : Rule :=
  validateNamed "modules" "Duplicate module ID" Module.id validateModule modules

def validatePartials (partials : List Partial) : Rule :=
  validateNamed "partials" "Duplicate partial ID" Partial.id validatePartial partials

end StagePlan.Validation
