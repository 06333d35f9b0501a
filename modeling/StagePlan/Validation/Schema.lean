import StagePlan.Validation.Rules

namespace StagePlan.Validation

/-!
The rules for whole templates and configurations. Every rule runs, and the findings stand in the
order in which they were made.
-/

def findings (source : String) (rule : Rule) : List Diagnostic :=
  (rule { source }).diagnostics

def checkSchemaVersion (expected actual : String) : Rule := fun ctx =>
  if actual = expected then ctx
  else
    ctx.within "schemaVersion" (Context.error
      ("Unsupported schema version: expected '" ++ expected ++ "', got '" ++ actual ++ "'"))

/-- Every stage that stands for a partial must name one of the template. -/
def checkPartialReferences (stages : List Stage) (template : Template) : Rule :=
  each
    (fun index stage ctx =>
      match stage.partialId? with
      | some id =>
          if (template.partial? id).isSome then ctx
          else
            ctx.within (stageComponent stage index)
              (Context.error ("Unknown partial '" ++ id ++ "'"))
      | none => ctx)
    stages

def templateRule (schemaVersion : String) (t : Template) : Rule := fun ctx =>
  let ctx := checkSchemaVersion schemaVersion t.schemaVersion ctx
  let ctx := if t.id.isEmpty then ctx.within "id" (Context.error "Template ID is unset") else ctx
  let ctx := validateVariables t.declared ctx
  let ctx := validateStages t.stages ctx
  let ctx := checkPartialReferences t.stages t ctx
  let ctx := validatePartials t.partials ctx
  validateModules t.modules ctx

/-- A stage of the configuration that neither replaces one of the template nor is placed. -/
def isLoose (templateStageIds : List String) (stage : Stage) : Bool :=
  !templateStageIds.contains stage.id && stage.dependsOn.isEmpty && stage.injection?.isNone

def configurationRule (schemaVersion : String) (templateStageIds : List String)
    (c : Configuration) : Rule := fun ctx =>
  let ctx := checkSchemaVersion schemaVersion c.schemaVersion ctx
  let ctx :=
    if c.application.isEmpty then
      ctx.within "pipeline.application" (Context.error "Pipeline application is unset")
    else ctx
  let ctx := validateStages c.stages ctx
  each
    (fun index stage ctx =>
      if isLoose templateStageIds stage then
        ctx.within (stageComponent stage index) (Context.warn
          "Stage should have either dependsOn or an inject rule defined")
      else ctx)
    c.stages ctx

/-- What is wrong with the value that a configuration gives to a declared variable. -/
def valueFaults (c : Configuration) (v : Variable) : List String :=
  match c.variableValues.find? v.name, v.type? with
  | none, _ =>
      complain v.isRequired ("Missing value for required variable '" ++ v.name ++ "'")
  | some value, some type =>
      complain (!type.accepts value) (typeMismatch "Variable value" type value)
  | some _, none => []

def variableValuesRule (c : Configuration) (t : Template) : Rule :=
  each
    (fun _ v => Context.within ("variableValues." ++ v.name) (Context.errors (valueFaults c v)))
    t.declared

/-- The findings on a template by itself. -/
def validateTemplate (schemaVersion : String) (t : Template) : List Diagnostic :=
  findings templateSource (templateRule schemaVersion t)

/-- The findings on a configuration, given the ids of the stages that it may replace. -/
def validateStructure (schemaVersion : String) (templateStageIds : List String)
    (c : Configuration) : List Diagnostic :=
  findings configurationSource (configurationRule schemaVersion templateStageIds c)

/-- The findings on the values that a configuration gives to the variables of a template. -/
def validateVariableValues (c : Configuration) (t : Template) : List Diagnostic :=
  findings configurationSource (variableValuesRule c t)

/-- The findings on the partials that the stages of a configuration name. -/
def validatePartialReferences (c : Configuration) (t : Template) : List Diagnostic :=
  findings configurationSource (checkPartialReferences c.stages t)

/-- All findings on a configuration laid over a template. -/
def validateConfiguration (schemaVersion : String) (c : Configuration) (t : Template) :
    List Diagnostic :=
  validateStructure schemaVersion t.stageIds c ++ validateVariableValues c t
    ++ validatePartialReferences c t

end StagePlan.Validation
