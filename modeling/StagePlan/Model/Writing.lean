import StagePlan.Diagnostic
import StagePlan.Model.Template
import StagePlan.Value.Written

namespace StagePlan

/-!
Models as values, fields in a fixed order. What is empty or left out is not written, except where a
reader needs the field.
-/

/-- One entry where there is something to write, and none otherwise. -/
def entryOf? (name : String) : Option Value → Bindings Value
  | some value => [(name, value)]
  | none => []

def entryOfText? (name : String) (text? : Option String) : Bindings Value :=
  entryOf? name (text?.map .string)

/-- A list entry, left out when the list is empty. -/
def entryOfList (name : String) (items : List Value) : Bindings Value :=
  if items.isEmpty then [] else [(name, .list items)]

def Variable.entries (v : Variable) : Bindings Value :=
  ("name", .string v.name)
    :: (if v.typeName.isEmpty then [] else [("type", .string v.typeName)])
    ++ entryOf? "defaultValue" v.default? ++ entryOfText? "description" v.description?

def Variable.toValue (v : Variable) : Value :=
  .map v.entries

def InjectionRule.entries (rule : InjectionRule) : Bindings Value :=
  (if rule.first then [("first", .bool true)] else [])
    ++ (if rule.last then [("last", .bool true)] else [])
    ++ entryOfList "before" (rule.before.map .string)
    ++ entryOfList "after" (rule.after.map .string)

def InjectionRule.toValue (rule : InjectionRule) : Value :=
  .map rule.entries

def Stage.entries (s : Stage) : Bindings Value :=
  ("id", .string s.id) :: ("type", .string s.type)
    :: entryOfText? "name" s.name? ++ entryOf? "config" s.config?
    ++ entryOfList "dependsOn" (s.dependsOn.map .string)
    ++ entryOf? "inject" (s.inject?.map InjectionRule.toValue)
    ++ entryOfList "when" s.conditions ++ entryOf? "loopWith" s.loopWith?

def Stage.toValue (s : Stage) : Value :=
  .map s.entries

def Module.entries (m : Module) : Bindings Value :=
  ("id", .string m.id) :: entryOfList "variables" (m.declared.map Variable.toValue)
    ++ [("definition", m.definition)]

def Module.toValue (m : Module) : Value :=
  .map m.entries

def Partial.entries (p : Partial) : Bindings Value :=
  ("id", .string p.id) :: entryOfText? "usage" p.usage?
    ++ entryOfList "variables" (p.declared.map Variable.toValue)
    ++ [("stages", .list (p.stages.map Stage.toValue))]

def Partial.toValue (p : Partial) : Value :=
  .map p.entries

def Template.entries (t : Template) : Bindings Value :=
  ("schemaVersion", .string t.schemaVersion) :: ("id", .string t.id)
    :: entryOfList "variables" (t.declared.map Variable.toValue)
    ++ ("stages", .list (t.stages.map Stage.toValue))
    :: entryOfList "modules" (t.modules.map Module.toValue)
    ++ entryOfList "partials" (t.partials.map Partial.toValue)

def Template.toValue (t : Template) : Value :=
  .map t.entries

def Pipeline.entries (p : Pipeline) : Bindings Value :=
  entryOfText? "application" p.application? ++ entryOfText? "name" p.name?
    ++ entryOfText? "pipelineConfigId" p.configId?

def Pipeline.toValue (p : Pipeline) : Value :=
  .map p.entries

def Configuration.entries (c : Configuration) : Bindings Value :=
  ("schemaVersion", .string c.schemaVersion) :: ("pipeline", c.pipeline.toValue)
    :: (if c.variableValues.isEmpty then [] else [("variableValues", .map c.variableValues)])
    ++ entryOfList "stages" (c.stages.map Stage.toValue)

def Configuration.toValue (c : Configuration) : Value :=
  .map c.entries

def StageGraph.toValue (g : StageGraph) : Value :=
  .map [("stages", .list (g.stages.map Stage.toValue))]

/-- Settings as a document, the depth with all its digits. -/
def Settings.document (s : Settings) : String :=
  "\x7b\"schemaVersion\":" ++ (Value.string s.schemaVersion).document
    ++ ",\"maxModuleDepth\":" ++ toString s.maxModuleDepth ++ "\x7d"

def Diagnostic.toValue (d : Diagnostic) : Value :=
  .map [("message", .string d.message), ("location", .string d.location),
    ("severity", .string d.severity.name)]

end StagePlan
