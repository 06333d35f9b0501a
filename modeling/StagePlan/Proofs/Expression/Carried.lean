import StagePlan.Expression.Execution
import StagePlan.Proofs.Expression.Crossing

namespace StagePlan

/-!
Values that pass through an evaluation under a name. They are still the same when they leave the
evaluation as documents.
-/

namespace Expression

namespace Store

mutual

theorem hasObject_ofValueAt (place : Identity) :
    ∀ v : Value, hasObject (Dynamic.ofValueAt place v) = false
  | .null | .bool _ | .string _ | .number (.float _) | .number (.integer _) => by
      simp only [Dynamic.ofValueAt, hasObject]
  | .list items => by
      rw [Dynamic.ofValueAt, hasObject, hasObjectItem_ofItems place 0 items]
  | .map entries => by
      rw [Dynamic.ofValueAt, hasObject, hasObjectEntry_ofEntries place 0 entries]

theorem hasObjectItem_ofItems (place : Identity) (position : Nat) :
    ∀ items : List Value, hasObjectItem (Dynamic.ofItems place position items) = false
  | [] => rfl
  | item :: rest => by
      rw [Dynamic.ofItems, hasObjectItem, hasObject_ofValueAt _ item,
        hasObjectItem_ofItems place (position + 1) rest]
      rfl

theorem hasObjectEntry_ofEntries (place : Identity) (position : Nat) :
    ∀ entries : List (String × Value),
      hasObjectEntry (Dynamic.ofEntries place position entries) = false
  | [] => rfl
  | (key, value) :: rest => by
      rw [Dynamic.ofEntries, hasObjectEntry, hasObject_ofValueAt _ value,
        hasObjectEntry_ofEntries place (position + 1) rest]
      rfl

end

/-- There are no objects in a document's value. -/
theorem plain_of_hasObject {v : Dynamic} (without : hasObject v = false) (store : Store) :
    store.plain v = v := by
  rw [plain, viewLimit, viewedTimes, without]
  rfl

theorem find?_ofScope (scope : Bindings Value) (name : String) :
    (ofScope scope).find? name = (scope.find? name).map (Dynamic.ofValueAt (.scope name [])) := by
  simp only [find?, ofScope, findIn, Ground.find?, Bindings.find?, Option.or_none]

end Store

namespace Library

theorem plainFilter?_documentFilter (library : Library) :
    library.plainFilter? documentFilter = some (TextFilter.single Arguments.asAny toDocument) :=
  if_pos rfl

/-- No library has another filter by this name. -/
theorem filter_documentFilter (library : Library) {input : Expression.Dynamic} {v : Value}
    (carried : input.toValue = .ok v) :
    library.filter documentFilter input [] = .ok (.text v.document) := by
  have written : toDocument input = .ok (.text v.document) := by
    rw [toDocument, carried]
  have applied : TextFilter.single Arguments.asAny toDocument input [] = toDocument input := by
    rw [written]
    change Arguments.take (do toDocument input) [] = _
    rw [written]
    rfl
  unfold filter applyFilter
  simp only [library.plainFilter?_documentFilter, applied, written]
  rfl

end Library

section Evaluation

variable (scene : Scene) (place inner : Place) {store : Store} {name : String}
  {v : Expression.Dynamic}

theorem evaluate_variable (found : store.find? name = some v) :
    ((Expr.variable place name).evaluate scene).run store = .done (v, store) := by
  have looked : (lookUp scene name).run store = .done (some v, store) := by
    simp only [lookUp, StateT.run_bind, StateT.run_get]
    change StateT.run _ store = _
    simp only [found]
    rfl
  rw [Expr.evaluate, StateT.run_bind, looked]
  rfl

theorem evaluate_documentFilter {value : Value} (found : store.find? name = some v)
    (plain : store.plain v = v) (carried : v.toValue = .ok value) :
    ((Expr.filter place Library.documentFilter (.variable inner name) []).evaluate scene).run
        store =
      .done (.text value.document, store) := by
  rw [Expr.evaluate, StateT.run_bind, evaluate_variable scene inner found]
  change (Eval.lift place
    (scene.library.filter Library.documentFilter (store.plain v) [])).run store = _
  rw [plain, scene.library.filter_documentFilter carried]
  rfl

end Evaluation

/-- Under a scope that binds the name, the document of what it is bound to is written, and no module
is asked for. -/
theorem writeTemplate_documentFilter (library : Library) {scope : Bindings Value} {name : String}
    {v : Value} (bound : scope.find? name = some v) (formed : v.WellFormed)
    (place filtered inner : Place) :
    writeTemplate library scope
        [.emit place (.filter filtered Library.documentFilter (.variable inner name) [])] =
      .done v.document := by
  have found : (Store.ofScope scope).find? name = some (.ofValueAt (.scope name []) v) := by
    rw [Store.find?_ofScope, bound]
    rfl
  have emitted (scene : Scene) :
      (Statement.executeAll scene
          [.emit place (.filter filtered Library.documentFilter (.variable inner name) [])]).run
        (Store.ofScope scope) = .done (v.document, Store.ofScope scope) := by
    rw [Statement.executeAll, Statement.execute, StateT.run_bind, StateT.run_bind,
      evaluate_documentFilter scene filtered inner found
        (Store.plain_of_hasObject (Store.hasObject_ofValueAt _ v) _)
        (Dynamic.toValue_ofValueAt _ v formed)]
    exact congrArg (fun text => Script.done (text, _)) String.append_empty
  rw [writeTemplate, emitted]
  rfl

end Expression

end StagePlan
