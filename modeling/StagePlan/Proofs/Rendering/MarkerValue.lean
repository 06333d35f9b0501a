import StagePlan.Proofs.Expression.Carried
import StagePlan.Proofs.Expression.Evaluations
import StagePlan.Proofs.Success
import StagePlan.Rendering.Renderer

namespace StagePlan

open Expression

/-!
What a template with a single output comes to. The output is an expression, which has a value as a
document has, and either the text of that value or its document is written.
-/

namespace Expression

variable {scope : Bindings Value} {scene : Scene}

/-- Over a scope alone there is nothing that could be evaluated again. -/
theorem settled_reenter (library : Library) (fuel : Nat) :
    Scene.Settled { library, again := reenter library fuel [] } scope := by
  have refused : Eval.Alike scope (Eval.refuse : Eval Dynamic) Eval.refuse :=
    fun _ _ => .fail .operation none none
  intro entry
  cases fuel with
  | zero => exact refused
  | succ fuel =>
      cases entry with
      | callable index given =>
          refine .get_bind fun store based => ?_
          rw [based.macros]
          exact refused
      | block name => exact refused
      | loop items =>
          refine .get_bind fun store based => ?_
          rw [based.currentLoop?]
          exact refused

/-- The value that an expression comes to. -/
def Expr.comesTo (scene : Scene) (place : Place) (e : Expr Place) : Eval Value := do
  let v ← e.evaluate scene
  Eval.lift place (← Eval.plain v).toValue

/-- The marks of an expression make no difference to its value. -/
theorem Expr.comesTo_of_bare (settled : scene.Settled scope) {e other : Expr Place}
    (same : e.bare = other.bare) (place elsewhere : Place) :
    Eval.Alike scope (e.comesTo scene place) (other.comesTo scene elsewhere) :=
  .bind (evaluate_of_bare settled same) fun v => .bind (.plain v) fun _ => .lift place elsewhere _

/-- Writes a value into a text. -/
def writtenValue (place : Place) (value : Value) : Eval String :=
  match value.text with
  | .ok text => pure text
  | .error x => Eval.fail (.noText x) place

theorem execute_emit (place : Place) (e : Expr Place) :
    Statement.execute scene (.emit place e) = e.comesTo scene place >>= writtenValue place := by
  rw [Statement.execute, Expr.comesTo, bind_assoc]
  refine bind_congr fun v => ?_
  rw [bind_assoc]
  rfl

namespace Library

/-- The filter refuses exactly the values that no document has. -/
theorem filter_documentFilter_eq (library : Library) (input : Dynamic) :
    library.filter documentFilter input [] = input.toValue.map fun v => .text v.document := by
  cases carried : input.toValue with
  | ok v => exact library.filter_documentFilter carried
  | error fault =>
      have refused : toDocument input = .error fault := by rw [toDocument, carried]
      have applied : TextFilter.single Arguments.asAny toDocument input [] = .error fault := by
        change Arguments.take (do toDocument input) [] = _
        rw [refused]
        rfl
      unfold filter applyFilter
      simp only [library.plainFilter?_documentFilter, applied]
      rfl

end Library

/-- Behind the filter that carries a value out as a document, an output writes this document. -/
theorem execute_emit_documentFilter (place inner : Place) (e : Expr Place) :
    Statement.execute scene (.emit place (.filter inner Library.documentFilter e [])) =
      Value.document <$> e.comesTo scene inner := by
  have documented (v : Dynamic) :
      (do
        let filtered ← Eval.lift inner (scene.library.filter Library.documentFilter v [])
        writtenText place filtered) =
      Value.document <$> Eval.lift inner v.toValue := by
    rw [Library.filter_documentFilter_eq]
    cases v.toValue with
    | ok value => rfl
    | error fault => rfl
  rw [Statement.execute, Expr.evaluate, Expr.comesTo, bind_assoc, map_bind]
  refine bind_congr fun v => ?_
  rw [map_bind]
  funext store
  exact congrFun (documented (store.plain v)) store

/-- The text of a body that has nothing else. -/
def plainText? : Body → Option String
  | [] => some ""
  | .text chars :: rest => (plainText? rest).map (String.ofList chars ++ ·)
  | _ => none

theorem executeAll_append (first second : Body) :
    Statement.executeAll scene (first ++ second) =
      (do
        let text ← Statement.executeAll scene first
        let more ← Statement.executeAll scene second
        pure (text ++ more)) := by
  induction first with
  | nil => simp only [List.nil_append, Statement.executeAll, pure_bind, String.empty_append, bind_pure]
  | cons statement rest ih =>
      simp only [List.cons_append, Statement.executeAll, ih, bind_assoc, pure_bind,
        String.append_assoc]

theorem executeAll_of_plainText? {text : String} :
    ∀ {body : Body}, plainText? body = some text → Statement.executeAll scene body = pure text
  | [], plain => by
      cases plain
      rfl
  | .text chars :: rest, plain => by
      obtain ⟨others, also, rfl⟩ := Option.map_eq_some_iff.mp plain
      rw [Statement.executeAll, Statement.execute, executeAll_of_plainText? also]
      rfl

theorem allBlocks_append {μ : Type} (first second : List (Statement μ)) :
    Statement.allBlocks (first ++ second) =
      Statement.allBlocks first ++ Statement.allBlocks second := by
  induction first with
  | nil => rfl
  | cons statement rest ih => simp only [List.cons_append, Statement.allBlocks, ih,
      List.append_assoc]

theorem allBlocks_of_plainText? {text : String} :
    ∀ {body : Body}, plainText? body = some text → Statement.allBlocks body = []
  | [], _ => rfl
  | .text chars :: rest, plain => by
      obtain ⟨others, also, -⟩ := Option.map_eq_some_iff.mp plain
      rw [Statement.allBlocks, Statement.blocks, allBlocks_of_plainText? also]
      · rfl
      all_goals nofun

end Expression

namespace Rendering

variable (library : Library) (invoke : Invoke) (visible : Bindings Value) (path : List String)
  (source : List Char) (whole? : Option (List Char))

/-- What a script of a template comes to. -/
def scriptResult {α : Type} (script : Script α) : Except RenderError α :=
  script.run (fun id arguments => (invoke id arguments).mapError (RenderError.orAt path))
    fun fault place? => ⟨causeOf source whole? fault place?, path⟩

/-- What an expression of a template comes to. -/
def valueIn (place : Place) (e : Expr Place) : Except RenderError Value :=
  let scene : Scene := { library, again := reenter library (Store.depthLimit + 100) [] }
  (scriptResult invoke path source whole?
    ((e.comesTo scene place).run (Store.ofScope visible))).map Prod.fst

theorem scriptResult_bind {α β : Type} (script : Script α) (next : α → Script β) :
    scriptResult invoke path source whole? (script >>= next) =
      scriptResult invoke path source whole? script >>=
        fun result => scriptResult invoke path source whole? (next result) := by
  refine (Script.run_bind _ _ script next).trans ?_
  rw [scriptResult]
  cases script.run _ _ <;> rfl

theorem scriptResult_lift {α : Type} (place : Place) (result : Except Fault α) (store : Store) :
    scriptResult invoke path source whole? ((Eval.lift place result).run store) =
      (result.mapError fun fault => ⟨causeOf source whole? fault (some place), path⟩).map (·, store) := by
  cases result <;> rfl

theorem scriptResult_module (id : String) (arguments : Bindings Value) (store : Store) :
    scriptResult invoke path source whole? ((Eval.module id arguments).run store) =
      ((invoke id arguments).mapError (RenderError.orAt path)).map (·, store) := by
  change Script.run _ _ (Script.invoke id arguments fun value => .done (value, store)) = _
  rw [Script.run]
  cases invoke id arguments <;> rfl

variable {library invoke visible path source whole?} {place inner : Place} {e : Expr Place}
  {before after : Body} {front back : String}

/-- An output in a longer text writes the text of its value. -/
theorem renderTemplate_of_emit
    (read : readBody source = .ok (before ++ .emit place e :: after))
    (first : plainText? before = some front) (last : plainText? after = some back) :
    renderTemplate library invoke visible path source whole? =
      (do
        let value ← valueIn library invoke visible path source whole? place e
        let text ← textAt path value
        pure (front ++ text ++ back)) := by
  have blocks : Statement.allBlocks (before ++ .emit place e :: after) = [] := by
    rw [allBlocks_append, allBlocks_of_plainText? first, Statement.allBlocks,
      allBlocks_of_plainText? last]
    rfl
  have executed (scene : Scene) :
      Statement.executeAll scene (before ++ .emit place e :: after) =
        (do
          let value ← e.comesTo scene place
          let text ← writtenValue place value
          pure (front ++ text ++ back)) := by
    rw [executeAll_append, executeAll_of_plainText? first, Statement.executeAll, execute_emit,
      executeAll_of_plainText? last]
    simp only [bind_assoc, pure_bind, String.append_assoc]
  rw [renderTemplate, read]
  dsimp only
  rw [writeTemplate, blocks, executed, valueIn]
  dsimp only
  change scriptResult invoke path source whole? _ = _
  rw [StateT.run_bind, bind_assoc, scriptResult_bind]
  cases scriptResult invoke path source whole? (StateT.run (e.comesTo _ place) _) with
  | error e => rfl
  | ok result =>
      obtain ⟨value, store⟩ := result
      dsimp only [bind, Except.bind, Except.map]
      rw [writtenValue, textAt]
      cases value.text <;> rfl

/-- Behind the filter for documents, the document of its value is written. -/
theorem renderTemplate_of_document
    (read : readBody source =
      .ok [.emit place (.filter inner Library.documentFilter e [])]) :
    renderTemplate library invoke visible path source whole? =
      (valueIn library invoke visible path source whole? inner e).map Value.document := by
  have blocks : Statement.allBlocks
      [.emit place (.filter inner Library.documentFilter e [])] = [] := rfl
  have executed (scene : Scene) :
      Statement.executeAll scene [.emit place (.filter inner Library.documentFilter e [])] =
        Value.document <$> e.comesTo scene inner := by
    rw [Statement.executeAll, execute_emit_documentFilter, Statement.executeAll]
    simp only [pure_bind, String.append_empty, bind_pure]
  rw [renderTemplate, read]
  dsimp only
  rw [writeTemplate, blocks, executed, valueIn]
  dsimp only
  change scriptResult invoke path source whole? _ = _
  rw [← bind_pure_comp, StateT.run_bind, bind_assoc, scriptResult_bind]
  cases scriptResult invoke path source whole? (StateT.run (e.comesTo _ inner) _) <;> rfl

/-- What the cause of a fault in a source is. -/
def faultCause : SourceFault → RenderCause
  | .malformed => .malformed .expression
  | .escape => .evaluation .escape

theorem renderTemplate_of_fault {fault : SourceFault} (faulty : readBody source = .error fault) :
    renderTemplate library invoke visible path source whole? = .error ⟨faultCause fault, path⟩ := by
  rw [renderTemplate, faulty]
  cases fault <;> rfl

/-- What an expression comes to is well formed: it has left an evaluation. -/
theorem wellFormed_of_valueIn {w : Value}
    (value : valueIn library invoke visible path source whole? place e = .ok w) : w.WellFormed := by
  obtain ⟨⟨_, after⟩, done, rfl⟩ := map_eq_ok.mp value
  rw [Expr.comesTo, StateT.run_bind, scriptResult_bind, bind_eq_ok] at done
  obtain ⟨⟨v, store⟩, -, carried⟩ := done
  change scriptResult invoke path source whole? ((Eval.lift place (store.plain v).toValue).run store) =
    _ at carried
  rw [scriptResult_lift] at carried
  obtain ⟨w, converted, same⟩ := map_eq_ok.mp carried
  cases same
  cases known : (after.plain v).toValue with
  | error fault =>
      rw [known] at converted
      cases converted
  | ok other =>
      rw [known] at converted
      cases converted
      exact Dynamic.wellFormed_of_toValue known

/-- A value as it comes back from its document. -/
def readBack (path : List String) (value : Value) : Except RenderError Value :=
  match Json.value? value.document with
  | some v => .ok v
  | none => .error ⟨.encoding .unreadable, path⟩

theorem value?_of_readBack {v w : Value} (back : readBack path w = .ok v) :
    Json.value? w.document = some v := by
  rw [readBack] at back
  split at back
  · rename_i known
    cases back
    exact known
  · cases back

section Strings

variable {text : String} {expanded expression : List Char}

theorem renderString_of_document (marked : Markup.hasMarkers text = true)
    (tags : Markup.expandTags text.toList = .ok expanded)
    (whole : Markup.wholeExpression? expanded = some expression)
    (read : readBody (documentTemplate expression) =
      .ok [.emit place (.filter inner Library.documentFilter e [])]) :
    renderString library invoke visible path text =
      valueIn library invoke visible path (documentTemplate expression) (some expression) inner e
        >>= readBack path := by
  rw [renderString, marked, tags]
  simp only [Bool.not_true, Bool.false_eq_true, if_false, whole, renderTemplate_of_document read]
  cases valueIn library invoke visible path (documentTemplate expression) (some expression) inner e
    with
  | error e => rfl
  | ok value => rfl

theorem renderString_of_emit (marked : Markup.hasMarkers text = true)
    (tags : Markup.expandTags text.toList = .ok expanded)
    (longer : Markup.wholeExpression? expanded = none)
    (read : readBody expanded = .ok (before ++ .emit place e :: after))
    (first : plainText? before = some front) (last : plainText? after = some back) :
    renderString library invoke visible path text =
      (do
        let value ← valueIn library invoke visible path expanded none place e
        let shown ← textAt path value
        pure (.string (front ++ shown ++ back))) := by
  rw [renderString, marked, tags]
  simp only [Bool.not_true, Bool.false_eq_true, if_false, longer,
    renderTemplate_of_emit read first last]
  cases valueIn library invoke visible path expanded none place e with
  | error e => rfl
  | ok value =>
      dsimp only [bind, Except.bind]
      cases textAt path value <;> rfl

end Strings

/-- Expressions that differ in their marks alone come to the same value, or fail for the same
reason. -/
theorem valueIn_of_bare {other : Expr Place} {elsewhere : Place} {source' : List Char}
    {whole?' : Option (List Char)} (same : e.bare = other.bare) :
    (∃ value, valueIn library invoke visible path source whole? place e = .ok value ∧
        valueIn library invoke visible path source' whole?' elsewhere other = .ok value) ∨
      (∃ fault place? place?',
        valueIn library invoke visible path source whole? place e =
          .error ⟨causeOf source whole? fault place?, path⟩ ∧
        valueIn library invoke visible path source' whole?' elsewhere other =
          .error ⟨causeOf source' whole?' fault place?', path⟩) ∨
      ∃ failure, valueIn library invoke visible path source whole? place e = .error failure ∧
        valueIn library invoke visible path source' whole?' elsewhere other = .error failure := by
  have alike : Script.Alike _ _ _ := Expr.comesTo_of_bare
    (settled_reenter library (Store.depthLimit + 100)) same place elsewhere
    (Store.ofScope visible) (Store.over_ofScope visible)
  rcases alike.run_cases (fun id arguments => (invoke id arguments).mapError (RenderError.orAt path))
    (fun fault place? => ⟨causeOf source whole? fault place?, path⟩)
    (fun fault place? => ⟨causeOf source' whole?' fault place?, path⟩) with
    ⟨⟨value, store⟩, _, ⟨rfl, -⟩, one, another⟩ | ⟨fault, place?, place?', one, another⟩ |
      ⟨failure, one, another⟩
  · exact .inl ⟨value, congrArg (Except.map Prod.fst) one, congrArg (Except.map Prod.fst) another⟩
  · exact .inr (.inl ⟨fault, place?, place?', congrArg (Except.map Prod.fst) one,
      congrArg (Except.map Prod.fst) another⟩)
  · exact .inr (.inr ⟨failure, congrArg (Except.map Prod.fst) one,
      congrArg (Except.map Prod.fst) another⟩)

end Rendering

end StagePlan
