import StagePlan.Document
import StagePlan.Diagnostic
import StagePlan.Model.Template

namespace StagePlan

/-!
Models read from documents. Field names are those of the notation; a field that is left out takes
its default, and one without a default must be there.
-/

open Document (text? bool? value? option? list? bindings? oneOrMany? fields? choice?)
open Document.Fields (required? optional?)

def Variable.ofDocument? (d : Document) : Option Variable := do
  let fields ← fields? ["name", "type", "defaultValue", "description"] d
  let name ← required? fields "name" text?
  let typeName ← optional? fields "type" "" text?
  let default? ← optional? fields "defaultValue" none (option? value?)
  let description? ← optional? fields "description" none (option? text?)
  pure { name, typeName, default?, description? }

def InjectionRule.ofDocument? (d : Document) : Option InjectionRule := do
  let fields ← fields? ["first", "last", "before", "after"] d
  let first ← optional? fields "first" false bool?
  let last ← optional? fields "last" false bool?
  let before ← optional? fields "before" [] oneOrMany?
  let after ← optional? fields "after" [] oneOrMany?
  pure { first, last, before, after }

def Stage.ofDocument? (d : Document) : Option Stage := do
  let fields ←
    fields? ["id", "type", "name", "config", "dependsOn", "inject", "when", "loopWith"] d
  let id ← optional? fields "id" "" text?
  let type ← optional? fields "type" "" text?
  let name? ← optional? fields "name" none (option? text?)
  let config? ← optional? fields "config" none (option? value?)
  let dependsOn ← optional? fields "dependsOn" [] (list? text?)
  let inject? ← optional? fields "inject" none (option? InjectionRule.ofDocument?)
  let conditions ← optional? fields "when" [] (list? value?)
  let loopWith? ← optional? fields "loopWith" none (option? value?)
  pure { id, type, name?, config?, dependsOn, inject?, conditions, loopWith? }

def Module.ofDocument? (d : Document) : Option Module := do
  let fields ← fields? ["id", "variables", "definition"] d
  let id ← required? fields "id" text?
  let declared ← optional? fields "variables" [] (list? Variable.ofDocument?)
  let definition ← optional? fields "definition" .null value?
  pure { id, declared, definition }

def Partial.ofDocument? (d : Document) : Option Partial := do
  let fields ← fields? ["id", "usage", "variables", "stages"] d
  let id ← required? fields "id" text?
  let usage? ← optional? fields "usage" none (option? text?)
  let declared ← optional? fields "variables" [] (list? Variable.ofDocument?)
  let stages ← optional? fields "stages" [] (list? Stage.ofDocument?)
  pure { id, usage?, declared, stages }

def Template.ofDocument? (d : Document) : Option Template := do
  let fields ← fields? ["schemaVersion", "id", "variables", "stages", "modules", "partials"] d
  let schemaVersion ← optional? fields "schemaVersion" "" text?
  let id ← optional? fields "id" "" text?
  let declared ← optional? fields "variables" [] (list? Variable.ofDocument?)
  let stages ← optional? fields "stages" [] (list? Stage.ofDocument?)
  let modules ← optional? fields "modules" [] (list? Module.ofDocument?)
  let partials ← optional? fields "partials" [] (list? Partial.ofDocument?)
  pure { schemaVersion, id, declared, stages, modules, partials }

def Pipeline.ofDocument? (d : Document) : Option Pipeline := do
  let fields ← fields? ["application", "name", "pipelineConfigId"] d
  let application? ← optional? fields "application" none (option? text?)
  let name? ← optional? fields "name" none (option? text?)
  let configId? ← optional? fields "pipelineConfigId" none (option? text?)
  pure { application?, name?, configId? }

def Configuration.ofDocument? (d : Document) : Option Configuration := do
  let fields ← fields? ["schemaVersion", "pipeline", "variableValues", "stages"] d
  let schemaVersion ← optional? fields "schemaVersion" "" text?
  let pipeline ← optional? fields "pipeline" {} Pipeline.ofDocument?
  let variableValues ← optional? fields "variableValues" [] bindings?
  let stages ← optional? fields "stages" [] (list? Stage.ofDocument?)
  pure { schemaVersion, pipeline, variableValues, stages }

def StageGraph.ofDocument? (d : Document) : Option StageGraph := do
  let fields ← fields? ["stages"] d
  let stages ← required? fields "stages" (list? Stage.ofDocument?)
  pure { stages }

def Settings.ofDocument? (d : Document) : Option Settings := do
  let fields ← fields? ["schemaVersion", "maxModuleDepth"] d
  let schemaVersion ← optional? fields "schemaVersion" ({} : Settings).schemaVersion text?
  let maxModuleDepth ← optional? fields "maxModuleDepth" ({} : Settings).maxModuleDepth
    Document.count?
  pure { schemaVersion, maxModuleDepth }

def Diagnostic.ofDocument? (d : Document) : Option Diagnostic := do
  let fields ← fields? ["message", "location", "severity"] d
  let message ← required? fields "message" text?
  let location ← required? fields "location" text?
  let severity ← required? fields "severity" fun d => (choice? d).bind Severity.ofName?
  pure { message, location, severity }

/-- A declared type under the one name that is written for it. -/
def VariableType.ofDocument? (d : Document) : Option VariableType := do
  let name ← choice? d
  let type ← VariableType.ofName? name
  if type.name = name then pure type else none

end StagePlan
