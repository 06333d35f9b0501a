import StagePlan.Proofs.Model.Fields

namespace StagePlan

/-!
Templates and configurations read back from their documents. All fields come back as they were, but
that a value which may be left out is left out where it was null.
-/

open Json (contents)

variable {depth : Nat}

namespace Variable

variable {v : Variable}

/-- The values that stand in the document as they are. -/
def values (v : Variable) : List Value :=
  v.default?.toList

/-- The variable as it is read back. -/
def withoutNulls (v : Variable) : Variable :=
  { v with default? := dropNull v.default? }

theorem ordered (v : Variable) :
    v.entries.names.Sublist ["name", "type", "defaultValue", "description"] := by
  simp only [entries, entryOf?_ite_not, entryOfText?_eq, Bindings.names_append,
    Bindings.names_cons]
  exact ((names_entryOf?.cons_cons _).append names_entryOf?).append names_entryOf?

theorem faithful_toValue : v.toValue.Faithful ↔ ∀ w ∈ v.values, w.Faithful := by
  rw [toValue, faithful_record v.ordered (by decide)]
  simp [entries, Value.faithful_string, values]

theorem ofDocument?_contents (legible : v.toValue.Legible depth) :
    ofDocument? (contents depth v.toValue) = some v.withoutNulls := by
  obtain ⟨fields, read, record⟩ := exists_fields legible v.ordered
  have name : fields.required? "name" Document.text? = some v.name :=
    record.required_text (by simp [entries])
  have typeName : fields.optional? "type" "" Document.text? = some v.typeName := by
    apply record.optional_text
    by_cases untyped : v.typeName = "" <;> simp [entries, untyped]
  have default : fields.optional? "defaultValue" none (Document.option? Document.value?) =
      some (dropNull v.default?) :=
    record.value? (by simp [entries])
  have description : fields.optional? "description" none (Document.option? Document.text?) =
      some v.description? :=
    record.text? (by simp [entries])
  simp [ofDocument?, toValue, read, name, typeName, default, description, withoutNulls]

end Variable

namespace InjectionRule

variable {rule : InjectionRule}

theorem ordered (rule : InjectionRule) :
    rule.entries.names.Sublist ["first", "last", "before", "after"] := by
  simp only [entries, entryOf?_ite, entryOfList_eq, Bindings.names_append]
  exact ((names_entryOf?.append names_entryOf?).append names_entryOf?).append names_entryOf?

theorem faithful_toValue (rule : InjectionRule) : rule.toValue.Faithful := by
  rw [toValue, faithful_record rule.ordered (by decide)]
  simp [entries, Value.faithful_string, Value.faithful_bool]

theorem ofDocument?_contents (legible : rule.toValue.Legible depth) :
    ofDocument? (contents depth rule.toValue) = some rule := by
  obtain ⟨fields, read, record⟩ := exists_fields legible rule.ordered
  have first : fields.optional? "first" false Document.bool? = some rule.first :=
    record.bool (by simp [entries])
  have last : fields.optional? "last" false Document.bool? = some rule.last :=
    record.bool (by simp [entries])
  have before : fields.optional? "before" [] Document.oneOrMany? = some rule.before :=
    record.oneOrMany (by simp [entries])
  have after : fields.optional? "after" [] Document.oneOrMany? = some rule.after :=
    record.oneOrMany (by simp [entries])
  simp [ofDocument?, toValue, read, first, last, before, after]

end InjectionRule

namespace Stage

variable {s : Stage}

def values (s : Stage) : List Value :=
  s.config?.toList ++ s.conditions ++ s.loopWith?.toList

def withoutNulls (s : Stage) : Stage :=
  { s with config? := dropNull s.config?, loopWith? := dropNull s.loopWith? }

theorem ordered (s : Stage) :
    s.entries.names.Sublist
      ["id", "type", "name", "config", "dependsOn", "inject", "when", "loopWith"] := by
  simp only [entries, entryOfText?_eq, entryOfList_eq, Bindings.names_append, Bindings.names_cons]
  exact (((((((names_entryOf?.cons_cons _).cons_cons _).append names_entryOf?).append
    names_entryOf?).append names_entryOf?).append names_entryOf?).append names_entryOf?)

theorem faithful_toValue : s.toValue.Faithful ↔ ∀ w ∈ s.values, w.Faithful := by
  rw [toValue, faithful_record s.ordered (by decide)]
  simp [entries, Value.faithful_string, InjectionRule.faithful_toValue, values, or_imp, forall_and]

theorem ofDocument?_contents (legible : s.toValue.Legible depth) :
    ofDocument? (contents depth s.toValue) = some s.withoutNulls := by
  obtain ⟨fields, read, record⟩ := exists_fields legible s.ordered
  have id_ : fields.optional? "id" "" Document.text? = some s.id :=
    record.optional_text (by simp [entries])
  have type : fields.optional? "type" "" Document.text? = some s.type :=
    record.optional_text (by simp [entries])
  have name : fields.optional? "name" none (Document.option? Document.text?) = some s.name? :=
    record.text? (by simp [entries])
  have config : fields.optional? "config" none (Document.option? Document.value?) =
      some (dropNull s.config?) :=
    record.value? (by simp [entries])
  have dependsOn : fields.optional? "dependsOn" [] (Document.list? Document.text?) =
      some s.dependsOn :=
    record.texts (by simp [entries])
  have inject : fields.optional? "inject" none
      (Document.option? InjectionRule.ofDocument?) = some s.inject? :=
    record.record? (by simp [entries]) (fun _ => rfl)
      fun _ legible => InjectionRule.ofDocument?_contents legible
  have conditions : fields.optional? "when" [] (Document.list? Document.value?) =
      some s.conditions :=
    record.values (by simp [entries])
  have loopWith : fields.optional? "loopWith" none (Document.option? Document.value?) =
      some (dropNull s.loopWith?) :=
    record.value? (by simp [entries])
  simp [ofDocument?, toValue, read, id_, type, name, config, dependsOn, inject, conditions,
    loopWith, withoutNulls]

end Stage

namespace Module

variable {m : Module}

def values (m : Module) : List Value :=
  m.declared.flatMap Variable.values ++ [m.definition]

def withoutNulls (m : Module) : Module :=
  { m with declared := m.declared.map Variable.withoutNulls }

theorem ordered (m : Module) : m.entries.names.Sublist ["id", "variables", "definition"] := by
  simp only [entries, entryOfList_eq, Bindings.names_append, Bindings.names_cons]
  exact (names_entryOf?.cons_cons _).append (List.Sublist.refl _)

theorem faithful_toValue : m.toValue.Faithful ↔ ∀ w ∈ m.values, w.Faithful := by
  rw [toValue, faithful_record m.ordered (by decide)]
  simp only [values, List.forall_mem_append, List.forall_mem_flatMap, List.forall_mem_singleton]
  simp [entries, Value.faithful_string, Variable.faithful_toValue]

theorem ofDocument?_contents (legible : m.toValue.Legible depth) :
    ofDocument? (contents depth m.toValue) = some m.withoutNulls := by
  obtain ⟨fields, read, record⟩ := exists_fields legible m.ordered
  have id : fields.required? "id" Document.text? = some m.id :=
    record.required_text (by simp [entries])
  have declared : fields.optional? "variables" [] (Document.list? Variable.ofDocument?) =
      some (m.declared.map Variable.withoutNulls) :=
    record.list (by simp [entries]) fun _ _ legible => Variable.ofDocument?_contents legible
  have definition : fields.optional? "definition" .null Document.value? = some m.definition :=
    record.value (by simp [entries])
  simp [ofDocument?, toValue, read, id, declared, definition, withoutNulls]

end Module

namespace Partial

variable {p : Partial}

def values (p : Partial) : List Value :=
  p.declared.flatMap Variable.values ++ p.stages.flatMap Stage.values

def withoutNulls (p : Partial) : Partial :=
  { p with
    declared := p.declared.map Variable.withoutNulls
    stages := p.stages.map Stage.withoutNulls }

theorem ordered (p : Partial) :
    p.entries.names.Sublist ["id", "usage", "variables", "stages"] := by
  simp only [entries, entryOfText?_eq, entryOfList_eq, Bindings.names_append, Bindings.names_cons]
  exact ((names_entryOf?.cons_cons _).append names_entryOf?).append (List.Sublist.refl _)

theorem faithful_toValue : p.toValue.Faithful ↔ ∀ w ∈ p.values, w.Faithful := by
  rw [toValue, faithful_record p.ordered (by decide)]
  simp only [values, List.forall_mem_append, List.forall_mem_flatMap]
  simp [entries, Value.faithful_string, Value.faithful_list, Variable.faithful_toValue,
    Stage.faithful_toValue]

theorem ofDocument?_contents (legible : p.toValue.Legible depth) :
    ofDocument? (contents depth p.toValue) = some p.withoutNulls := by
  obtain ⟨fields, read, record⟩ := exists_fields legible p.ordered
  have id : fields.required? "id" Document.text? = some p.id :=
    record.required_text (by simp [entries])
  have usage : fields.optional? "usage" none (Document.option? Document.text?) = some p.usage? :=
    record.text? (by simp [entries])
  have declared : fields.optional? "variables" [] (Document.list? Variable.ofDocument?) =
      some (p.declared.map Variable.withoutNulls) :=
    record.list (by simp [entries]) fun _ _ legible => Variable.ofDocument?_contents legible
  have stages : fields.optional? "stages" [] (Document.list? Stage.ofDocument?) =
      some (p.stages.map Stage.withoutNulls) :=
    record.list (by simp [entries]) fun _ _ legible => Stage.ofDocument?_contents legible
  simp [ofDocument?, toValue, read, id, usage, declared, stages, withoutNulls]

end Partial

namespace Template

variable {t : Template}

def values (t : Template) : List Value :=
  t.declared.flatMap Variable.values ++ t.stages.flatMap Stage.values
    ++ t.modules.flatMap Module.values ++ t.partials.flatMap Partial.values

def withoutNulls (t : Template) : Template :=
  { t with
    declared := t.declared.map Variable.withoutNulls
    stages := t.stages.map Stage.withoutNulls
    modules := t.modules.map Module.withoutNulls
    partials := t.partials.map Partial.withoutNulls }

theorem ordered (t : Template) :
    t.entries.names.Sublist
      ["schemaVersion", "id", "variables", "stages", "modules", "partials"] := by
  simp only [entries, entryOfList_eq, Bindings.names_append, Bindings.names_cons]
  exact (((names_entryOf?.cons_cons _).cons_cons _).append
    (names_entryOf?.cons_cons _)).append names_entryOf?

theorem faithful_toValue : t.toValue.Faithful ↔ ∀ w ∈ t.values, w.Faithful := by
  rw [toValue, faithful_record t.ordered (by decide)]
  simp only [values, List.forall_mem_append, List.forall_mem_flatMap]
  simp [entries, Value.faithful_string, Value.faithful_list, Variable.faithful_toValue,
    Stage.faithful_toValue, Module.faithful_toValue, Partial.faithful_toValue, and_assoc]

theorem ofDocument?_contents (legible : t.toValue.Legible depth) :
    ofDocument? (contents depth t.toValue) = some t.withoutNulls := by
  obtain ⟨fields, read, record⟩ := exists_fields legible t.ordered
  have schemaVersion : fields.optional? "schemaVersion" "" Document.text? =
      some t.schemaVersion :=
    record.optional_text (by simp [entries])
  have id : fields.optional? "id" "" Document.text? = some t.id :=
    record.optional_text (by simp [entries])
  have declared : fields.optional? "variables" [] (Document.list? Variable.ofDocument?) =
      some (t.declared.map Variable.withoutNulls) :=
    record.list (by simp [entries]) fun _ _ legible => Variable.ofDocument?_contents legible
  have stages : fields.optional? "stages" [] (Document.list? Stage.ofDocument?) =
      some (t.stages.map Stage.withoutNulls) :=
    record.list (by simp [entries]) fun _ _ legible => Stage.ofDocument?_contents legible
  have modules : fields.optional? "modules" [] (Document.list? Module.ofDocument?) =
      some (t.modules.map Module.withoutNulls) :=
    record.list (by simp [entries]) fun _ _ legible => Module.ofDocument?_contents legible
  have partials : fields.optional? "partials" [] (Document.list? Partial.ofDocument?) =
      some (t.partials.map Partial.withoutNulls) :=
    record.list (by simp [entries]) fun _ _ legible => Partial.ofDocument?_contents legible
  simp [ofDocument?, toValue, read, schemaVersion, id, declared, stages, modules, partials,
    withoutNulls]

end Template

namespace Pipeline

variable {p : Pipeline}

theorem ordered (p : Pipeline) :
    p.entries.names.Sublist ["application", "name", "pipelineConfigId"] := by
  simp only [entries, entryOfText?_eq, Bindings.names_append]
  exact (names_entryOf?.append names_entryOf?).append names_entryOf?

theorem faithful_toValue (p : Pipeline) : p.toValue.Faithful := by
  rw [toValue, faithful_record p.ordered (by decide)]
  simp [entries, Value.faithful_string]

theorem ofDocument?_contents (legible : p.toValue.Legible depth) :
    ofDocument? (contents depth p.toValue) = some p := by
  obtain ⟨fields, read, record⟩ := exists_fields legible p.ordered
  have application : fields.optional? "application" none (Document.option? Document.text?) =
      some p.application? :=
    record.text? (by simp [entries])
  have name : fields.optional? "name" none (Document.option? Document.text?) = some p.name? :=
    record.text? (by simp [entries])
  have configId : fields.optional? "pipelineConfigId" none
      (Document.option? Document.text?) = some p.configId? :=
    record.text? (by simp [entries])
  simp [ofDocument?, toValue, read, application, name, configId]

end Pipeline

namespace Configuration

variable {c : Configuration}

def values (c : Configuration) : List Value :=
  c.variableValues.map (·.2) ++ c.stages.flatMap Stage.values

def withoutNulls (c : Configuration) : Configuration :=
  { c with stages := c.stages.map Stage.withoutNulls }

theorem ordered (c : Configuration) :
    c.entries.names.Sublist ["schemaVersion", "pipeline", "variableValues", "stages"] := by
  simp only [entries, entryOf?_ite_not, entryOfList_eq, Bindings.names_append,
    Bindings.names_cons]
  exact ((names_entryOf?.cons_cons _).cons_cons _).append names_entryOf?

theorem faithful_toValue (distinct : c.variableValues.Distinct) :
    c.toValue.Faithful ↔ ∀ w ∈ c.values, w.Faithful := by
  rw [toValue, faithful_record c.ordered (by decide)]
  simp only [values, List.forall_mem_append, List.forall_mem_flatMap, List.forall_mem_map]
  by_cases unset : c.variableValues = [] <;>
    simp [entries, unset, Value.faithful_string, Value.faithful_map, distinct,
      Pipeline.faithful_toValue, Stage.faithful_toValue]

theorem ofDocument?_contents (legible : c.toValue.Legible depth) :
    ofDocument? (contents depth c.toValue) = some c.withoutNulls := by
  obtain ⟨fields, read, record⟩ := exists_fields legible c.ordered
  have schemaVersion : fields.optional? "schemaVersion" "" Document.text? =
      some c.schemaVersion :=
    record.optional_text (by simp [entries])
  have isPipeline : c.entries.find? "pipeline" = some c.pipeline.toValue := by simp [entries]
  have pipeline : fields.optional? "pipeline" {} Pipeline.ofDocument? = some c.pipeline := by
    rw [record.optional_some isPipeline]
    exact Pipeline.ofDocument?_contents (record.legible_of_find? isPipeline)
  have variableValues : fields.optional? "variableValues" [] Document.bindings? =
      some c.variableValues := by
    apply record.bindings
    by_cases unset : c.variableValues = [] <;> simp [entries, unset]
  have stages : fields.optional? "stages" [] (Document.list? Stage.ofDocument?) =
      some (c.stages.map Stage.withoutNulls) :=
    record.list (by simp [entries]) fun _ _ legible => Stage.ofDocument?_contents legible
  simp [ofDocument?, toValue, read, schemaVersion, pipeline, variableValues, stages, withoutNulls]

end Configuration

/-- A template comes back from its document as it was, but for null where a value may be left out,
and so does a configuration. What is nested too deep is not read. -/
theorem models_read_back :
    (∀ t : Template, (∀ v ∈ t.values, v.Faithful) → t.toValue.nesting ≤ Json.depthLimit →
      (Json.document? t.toValue.document).bind Template.ofDocument? = some t.withoutNulls) ∧
    ∀ c : Configuration, c.variableValues.Distinct → (∀ v ∈ c.values, v.Faithful) →
      c.toValue.nesting ≤ Json.depthLimit →
      (Json.document? c.toValue.document).bind Configuration.ofDocument? =
        some c.withoutNulls := by
  constructor
  · intro t each shallow
    have faithful := Template.faithful_toValue.mpr each
    rw [Json.document?_document faithful.back, Option.bind_some]
    exact Template.ofDocument?_contents ⟨faithful, by omega⟩
  · intro c distinct each shallow
    have faithful := (Configuration.faithful_toValue distinct).mpr each
    rw [Json.document?_document faithful.back, Option.bind_some]
    exact Configuration.ofDocument?_contents ⟨faithful, by omega⟩

/-- A template with null where a value may be left out, and where it may not. -/
def leftOut : Template where
  schemaVersion := "1"
  id := "left-out"
  declared := [{ name := "size", typeName := "int", default? := some .null }]
  stages := [
    { id := "bake", type := "bake"
      config? := some (.map [("z", .ofInt 3), ("a", .float (.ofRatio false 3 1))])
      inject? := some { first := true, before := ["copy"] } },
    { id := "copy", type := "copy", config? := some .null, dependsOn := ["bake"], inject? := some {}
      conditions := [.null], loopWith? := some .null }]
  modules := [{ id := "empty" }]
  partials := [{ id := "checks", usage? := some "none", stages := [{ loopWith? := some .null }] }]

def leftOutConfiguration : Configuration where
  schemaVersion := "1"
  pipeline := { name? := some "nightly" }
  variableValues := [("zone", .null), ("area", .list [])]
  stages := [{ id := "gate", type := "manual", config? := some .null }]

theorem models_read_back_left_out :
    (Json.document? leftOut.toValue.document).bind Template.ofDocument? =
        some leftOut.withoutNulls ∧
      leftOut.withoutNulls.stages.map (fun s => (s.config?.isSome, s.loopWith?.isSome)) =
        [(true, false), (false, false)] ∧
      (Json.document? leftOutConfiguration.toValue.document).bind Configuration.ofDocument? =
        some leftOutConfiguration.withoutNulls := by
  have null : Value.null.Faithful := ⟨trivial, trivial, rfl⟩
  have empty : (Value.list []).Faithful := Value.faithful_list.mpr (List.forall_mem_nil _)
  have three : (Value.float (.ofRatio false 3 1)).Faithful :=
    ⟨trivial, fun _ => by decide +kernel, by decide +kernel⟩
  have sizes : (Value.map [("z", .ofInt 3), ("a", .float (.ofRatio false 3 1))]).Faithful :=
    Value.faithful_map.mpr ⟨by unfold Bindings.Distinct; decide,
      List.forall_mem_cons.mpr ⟨⟨trivial, trivial, rfl⟩, List.forall_mem_singleton.mpr three⟩⟩
  have distinct : leftOutConfiguration.variableValues.Distinct := by
    unfold Bindings.Distinct
    decide
  have written : ∀ v ∈ leftOut.values, v.Faithful := by
    simp [leftOut, Template.values, Variable.values, Stage.values, Module.values, Partial.values,
      null, sizes]
  have given : ∀ v ∈ leftOutConfiguration.values, v.Faithful := by
    simp [leftOutConfiguration, Configuration.values, Stage.values, null, empty]
  obtain ⟨templates, configurations⟩ := models_read_back
  exact ⟨templates leftOut written (by decide +kernel), rfl,
    configurations leftOutConfiguration distinct given (by decide +kernel)⟩

end StagePlan
