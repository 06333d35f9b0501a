import Mathlib.Data.List.Basic
import StagePlan.Proofs.Rendering.Calls
import StagePlan.Proofs.Rendering.MarkerValue
import StagePlan.Value.Equality

namespace StagePlan

open Expression Rendering

/-!
What the result of a module depends on. A module is rendered under its own variables for a caller
that it knows by identity and chain alone, so that nothing else of its caller's scope has a part in
the result. This holds of a module that is asked for directly, and of one that a marker calls.
-/

/-- The values of declared variables depend on the arguments of their names alone. -/
theorem Variable.bindAll_congr {declared : List Variable} {given other : Bindings Value}
    (agree : ∀ v ∈ declared, given.find? v.name = other.find? v.name) (outer : Bindings Value) :
    bindAll declared given outer = bindAll declared other outer := by
  have declared_alike (d : Declaration) (v : Variable) (listed : v ∈ declared) :
      d.declare given v = d.declare other v := by
    rw [Declaration.declare, Declaration.declare, valueIn?, valueIn?, agree v listed]
  rw [bindAll, bindAll, List.foldl_ext _ _ _ declared_alike]

namespace Renderer

variable {r : Renderer} {id : String} {given other : Bindings Value}

/-- What a module is expanded to depends on the arguments of its variables alone. -/
theorem expandModule_congr
    (agree : ∀ m, r.module? id = some m → ∀ v ∈ m.declared, given.find? v.name = other.find? v.name)
    (caller : Caller) : r.expandModule caller id given = r.expandModule caller id other := by
  have entered : r.enter caller id given = r.enter caller id other := by
    unfold enter
    split
    · rfl
    · rename_i m known
      rw [Module.scopeFor, Module.scopeFor, Variable.bindAll_congr (agree m known)]
  rw [expandModule_eq, expandModule_eq, entered]

end Renderer

/-! Calls of modules in expressions. -/

namespace Expression

/-- Named arguments as values of documents. -/
def namedValues (named : List (Dynamic × Dynamic)) : Except Fault (Bindings Value) :=
  named.foldlM
    (fun arguments entry =>
      match entry.1.string? with
      | none => pure arguments
      | some name => do pure (arguments.bind name (← entry.2.toValue)))
    []

/-- The module that is called with the given arguments, and what it gets. -/
def request (given : List Dynamic) : Except Fault (String × Bindings Value) :=
  let (positional, named) := Arguments.splitNamed given
  match positional with
  | [id] =>
      match id.string? with
      | none => .error .moduleName
      | some id => (namedValues named).map (id, ·)
  | _ => .error .operation

theorem Eval.lift_bind {α β : Type} (place : Place) (result : Except Fault α)
    (next : α → Except Fault β) :
    Eval.lift place (result >>= next) = Eval.lift place result >>= fun a => Eval.lift place (next a) := by
  cases result <;> rfl

theorem Eval.lift_foldlM {α β : Type} (place : Place) (step : β → α → Except Fault β) :
    ∀ (items : List α) (start : β), Eval.lift place (items.foldlM step start) =
      items.foldlM (fun before item => Eval.lift place (step before item)) start
  | [], start => rfl
  | item :: rest, start => by
      rw [List.foldlM_cons, List.foldlM_cons, Eval.lift_bind]
      exact bind_congr fun next => Eval.lift_foldlM place step rest next

/-- The value of a module that is asked for. -/
def Eval.answer (asked : String × Bindings Value) : Eval Dynamic := do
  pure (.ofValue (← Eval.module asked.1 asked.2))

theorem callModule_eq (place : Place) (given : List Dynamic) :
    callModule place given = Eval.lift place (request given) >>= Eval.answer := by
  unfold callModule request
  generalize Arguments.splitNamed given = parts
  obtain ⟨positional, named⟩ := parts
  have values : Eval.lift place (namedValues named) =
      named.foldlM
        (fun (arguments : Bindings Value) (entry : Dynamic × Dynamic) => do
          match entry.1.string? with
          | none => pure arguments
          | some name => pure (arguments.bind name (← Eval.lift place entry.2.toValue)))
        [] := by
    rw [namedValues, Eval.lift_foldlM]
    congr 1
    funext arguments entry
    cases entry.1.string? with
    | none => rfl
    | some name => exact Eval.lift_bind place entry.2.toValue _
  match positional with
  | [] | _ :: _ :: _ => rfl
  | [name] =>
      cases textual : name.string? with
      | none =>
          simp only [textual]
          rfl
      | some id =>
          simp only [textual]
          refine (congrArg (· >>= fun arguments => Eval.answer (id, arguments)) values.symm).trans ?_
          cases namedValues named <;> rfl

/-- What a call of a module asks for, with the arguments as they are written. -/
def Expr.asksFor (scene : Scene) (place : Place) (arguments : List (ArgumentKind × Expr Place)) :
    Eval (String × Bindings Value) := do
  let written ← Expr.evaluateArguments scene arguments
  let given ← assembled place written
  Eval.lift place (request (← given.mapM Eval.plain))

section Calls

variable {scope : Bindings Value} {scene : Scene}

/-- Over a scope, what follows an evaluation may be looked at over the scope as well. -/
theorem Eval.Alike.bind_congr {α β : Type} {first other : Eval α} (alike : Alike scope first other)
    {next after : α → Eval β}
    (same : ∀ result, ∀ store : Store, store.Over scope →
      (next result).run store = (after result).run store)
    {store : Store} (based : store.Over scope) :
    (first >>= next).run store = (first >>= after).run store := by
  refine (alike store based).bind_congr ?_
  rintro ⟨result, store'⟩ _ ⟨-, based'⟩
  exact same result store' based'

/-- Where the scope does not bind the name, a call of it is the call of a module. -/
theorem run_callName_module (place : Place) (given : List Dynamic)
    (free : Bindings.find? moduleFunction scope = none) {store : Store} (based : store.Over scope) :
    (callName scene place moduleFunction given).run store =
      (given.mapM Eval.plain >>= callModule place).run store := by
  have found : (lookUp scene moduleFunction).run store =
      .done (some (.function moduleFunction), store) := by
    rw [lookUp, StateT.run_bind, StateT.run_get, pure_bind]
    simp only [based.find?, free]
    rfl
  unfold callName
  rw [if_neg (by decide), if_neg (by decide), StateT.run_bind, found]
  rfl

theorem run_evaluate_call (settled : scene.Settled scope)
    (free : Bindings.find? moduleFunction scope = none) (place : Place)
    (arguments : List (ArgumentKind × Expr Place)) {store : Store} (based : store.Over scope) :
    ((Expr.call place (.function moduleFunction) arguments).evaluate scene).run store =
      (Expr.asksFor scene place arguments >>= Eval.answer).run store := by
  have evaluated : (Expr.call place (.function moduleFunction) arguments).evaluate scene =
      (Expr.evaluateArguments scene arguments >>= fun written =>
        assembled place written >>= callName scene place moduleFunction) := by
    rw [Expr.evaluate, Expr.evaluateCallee]
    rfl
  have asked : Expr.asksFor scene place arguments >>= Eval.answer =
      Expr.evaluateArguments scene arguments >>= fun written =>
        assembled place written >>= fun given => given.mapM Eval.plain >>= callModule place := by
    simp only [Expr.asksFor, bind_assoc, funext (callModule_eq place)]
  rw [evaluated, asked]
  refine (Expr.evaluateArguments_bare settled arguments).bind_congr (fun written store based => ?_) based
  refine (alike_assembled place place written).bind_congr (fun given store based => ?_) based
  exact run_callName_module place given free based

/-- The value of a call is the value of the module. -/
theorem run_comesTo_call (settled : scene.Settled scope)
    (free : Bindings.find? moduleFunction scope = none) (place elsewhere : Place)
    (arguments : List (ArgumentKind × Expr Place)) {store : Store} (based : store.Over scope) :
    ((Expr.call place (.function moduleFunction) arguments).comesTo scene elsewhere).run store =
      (do
        let asked ← Expr.asksFor scene place arguments
        let value ← Eval.module asked.1 asked.2
        Eval.lift elsewhere (Dynamic.ofValue value).toValue).run store := by
  have plain (value : Value) : Eval.plain (.ofValue value) = pure (Dynamic.ofValue value) := by
    funext store
    exact congrArg (fun v => Script.done (v, store))
      (Store.plain_of_hasObject (Store.hasObject_ofValueAt _ value) store)
  have answered : ((Expr.call place (.function moduleFunction) arguments).comesTo scene
      elsewhere).run store =
        (Expr.asksFor scene place arguments >>= Eval.answer >>= fun v => do
          Eval.lift elsewhere (← Eval.plain v).toValue).run store := by
    rw [Expr.comesTo, StateT.run_bind, run_evaluate_call settled free place arguments based]
    rfl
  rw [answered]
  simp only [Eval.answer, bind_assoc, pure_bind, plain]

end Calls

/-- What a script comes to, if nothing fails. -/
def Script.result? {α ε : Type} (modules : String → Bindings Value → Except ε Value) :
    Script α → Option α
  | .done result => some result
  | .fail .. => none
  | .invoke id arguments next =>
      match modules id arguments with
      | .ok value => (next value).result? modules
      | .error _ => none

theorem Script.run_of_result? {α ε ε' : Type} {modules : String → Bindings Value → Except ε Value}
    {place : ε → ε'} {failed : Fault → Option Place → ε'} {result : α} {script : Script α}
    (known : script.result? modules = some result) :
    script.run (fun id arguments => (modules id arguments).mapError place) failed = .ok result := by
  induction script with
  | done other => exact congrArg Except.ok (Option.some.inj known)
  | fail fault place? => cases known
  | invoke id arguments next ih =>
      rw [Script.result?] at known
      rw [Script.run]
      cases answer : modules id arguments with
      | error e => simp only [answer, reduceCtorEq] at known
      | ok value =>
          simp only [answer] at known
          exact ih value known

/-- The arguments of an expression that is a call of a module, and where it stands. -/
def Expr.moduleCall? : Expr Place → Option (Place × List (ArgumentKind × Expr Place))
  | .call place (.function name) arguments =>
      if name = moduleFunction then some (place, arguments) else none
  | _ => none

/-- The expression of the one output of a body, text around it. -/
def onlyOutput? : Body → Option (Expr Place)
  | .text _ :: rest => onlyOutput? rest
  | .emit _ e :: rest => if (plainText? rest).isSome then some e else none
  | _ => none

/-- The expression of a body that writes its document. -/
def documentOutput? : Body → Option (Expr Place)
  | [.emit _ (.filter _ name e [])] => if name = Library.documentFilter then some e else none
  | _ => none

theorem exists_of_onlyOutput? {e : Expr Place} :
    ∀ {body : Body}, onlyOutput? body = some e → ∃ before place after front back,
      body = before ++ .emit place e :: after ∧
        plainText? before = some front ∧ plainText? after = some back
  | .text chars :: rest, known => by
      obtain ⟨before, place, after, front, back, whole, first, last⟩ :=
        exists_of_onlyOutput? (show onlyOutput? rest = some e from known)
      subst whole
      exact ⟨.text chars :: before, place, after, String.ofList chars ++ front, back, rfl,
        congrArg (Option.map _) first, last⟩
  | .emit place e' :: rest, known => by
      rw [onlyOutput?] at known
      split at known
      · rename_i plain
        obtain ⟨back, last⟩ := Option.isSome_iff_exists.mp plain
        cases known
        exact ⟨[], place, rest, "", back, rfl, rfl, last⟩
      · cases known

theorem exists_of_documentOutput? {e : Expr Place} {body : Body}
    (known : documentOutput? body = some e) :
    ∃ place inner, body = [.emit place (.filter inner Library.documentFilter e [])] := by
  unfold documentOutput? at known
  split at known
  · split at known
    · rename_i same
      cases known
      exact ⟨_, _, by rw [same]⟩
    · cases known
  · cases known

end Expression

/-! Markers that call modules. -/

namespace Rendering

/-- The call of a module that a string is the marker of, perhaps with text around it. -/
def markedCall? (text : String) : Option (Place × List (ArgumentKind × Expr Place)) :=
  if Markup.hasMarkers text then
    match Markup.expandTags text.toList with
    | .error _ => none
    | .ok expanded =>
        let output? :=
          match Markup.wholeExpression? expanded with
          | some expression =>
              (readBody (documentTemplate expression)).toOption.bind documentOutput?
          | none => (readBody expanded).toOption.bind onlyOutput?
        output?.bind Expr.moduleCall?
  else none

theorem eq_call_of_moduleCall? {e : Expr Place} {place : Place}
    {arguments : List (ArgumentKind × Expr Place)} (called : e.moduleCall? = some (place, arguments)) :
    e = .call place (.function moduleFunction) arguments := by
  unfold Expr.moduleCall? at called
  split at called
  · split at called
    · rename_i same
      cases called
      rw [same]
    · cases called
  · cases called

section Calls

variable {library : Library} {invoke : Invoke} {visible given : Bindings Value} {path : List String}
  {place : Place} {arguments : List (ArgumentKind × Expr Place)} {id : String} {after : Store}

/-- The value of a call in a template, where the arguments come to those of the module. -/
theorem valueIn_call (free : Bindings.find? moduleFunction visible = none)
    (asked : ((Expr.asksFor { library, again := reenter library (Store.depthLimit + 100) [] } place
      arguments).run (Store.ofScope visible)).result? invoke = some ((id, given), after))
    (source : List Char) (whole? : Option (List Char)) (elsewhere : Place) :
    valueIn library invoke visible path source whole? elsewhere
        (.call place (.function moduleFunction) arguments) =
      (invoke id given).mapError (RenderError.orAt path) >>= fun value =>
        (Dynamic.ofValue value).toValue.mapError fun fault =>
          ⟨causeOf source whole? fault (some elsewhere), path⟩ := by
  rw [valueIn, run_comesTo_call (settled_reenter library _) free place elsewhere arguments
    (Store.over_ofScope visible), StateT.run_bind, scriptResult_bind]
  have made : scriptResult invoke path source whole?
      ((Expr.asksFor { library, again := reenter library (Store.depthLimit + 100) [] } place
        arguments).run (Store.ofScope visible)) = .ok ((id, given), after) :=
    Script.run_of_result? asked
  rw [made]
  change Except.map Prod.fst (scriptResult invoke path source whole?
    ((Eval.module id given >>= fun value =>
      Eval.lift elsewhere (Dynamic.ofValue value).toValue).run after)) = _
  rw [StateT.run_bind, scriptResult_bind, scriptResult_module]
  cases invoke id given with
  | error e => rfl
  | ok value =>
      change Except.map Prod.fst (scriptResult invoke path source whole?
        ((Eval.lift elsewhere (Dynamic.ofValue value).toValue).run after)) =
          (Dynamic.ofValue value).toValue.mapError _
      rw [scriptResult_lift]
      cases (Dynamic.ofValue value).toValue <;> rfl

end Calls

end Rendering

namespace Renderer

/-- The module that the marker in a string asks for in a frame, and the values of its arguments. -/
def asked? (r : Renderer) (frame : Bindings Value) (text : String) :
    Option (String × Bindings Value) := do
  let (place, arguments) ← markedCall? text
  let scene : Scene :=
    { library := r.library, again := reenter r.library (Store.depthLimit + 100) [] }
  let (asked, _) ← ((Expr.asksFor scene place arguments).run (Store.ofScope frame)).result?
    (r.expandModule (.ofFrame frame))
  some asked

variable {r : Renderer} {id : String} {given other : Bindings Value}

/-- What a marker of a call becomes is made of what the module is expanded to, and of nothing else of
the frame. -/
theorem renderIn_of_asked? (r : Renderer) (path : List String) (text : String) :
    ∃ present : Except RenderError Value → Except RenderError Value,
      ∀ frame id given, frame.find? moduleFunction = none →
        r.asked? frame text = some (id, given) →
        r.renderIn frame path (.string text) = present (r.expandModule (.ofFrame frame) id given) := by
  cases marked : markedCall? text with
  | none =>
      refine ⟨fun result => result, fun frame id given free asked => ?_⟩
      simp [asked?, marked] at asked
  | some found =>
      obtain ⟨place, arguments⟩ := found
      have scripts {frame : Bindings Value} {id : String} {given : Bindings Value}
          (asked : r.asked? frame text = some (id, given)) :
          ∃ after, ((Expr.asksFor
            { library := r.library, again := reenter r.library (Store.depthLimit + 100) [] } place
            arguments).run (Store.ofScope frame)).result? (r.expandModule (.ofFrame frame)) =
              some ((id, given), after) := by
        simp only [asked?, marked, Option.bind_eq_bind, Option.bind_some,
          Option.bind_eq_some_iff] at asked
        obtain ⟨⟨found, after⟩, known, same⟩ := asked
        cases same
        exact ⟨after, known⟩
      unfold markedCall? at marked
      split at marked
      case isFalse => cases marked
      case isTrue markers =>
        cases tags : Markup.expandTags text.toList with
        | error fault => simp [tags] at marked
        | ok expanded =>
            simp only [tags] at marked
            obtain ⟨e, output, called⟩ := Option.bind_eq_some_iff.mp marked
            obtain rfl := eq_call_of_moduleCall? called
            cases whole : Markup.wholeExpression? expanded with
            | some expression =>
                simp only [whole, Option.bind_eq_some_iff] at output
                obtain ⟨body, read, shown⟩ := output
                obtain ⟨outer, inner, rfl⟩ := exists_of_documentOutput? shown
                refine ⟨fun result => result.mapError (RenderError.orAt path) >>= fun value =>
                  ((Dynamic.ofValue value).toValue.mapError fun fault =>
                    ⟨causeOf (documentTemplate expression) (some expression) fault (some inner),
                      path⟩) >>= readBack path, fun frame id given free asked => ?_⟩
                obtain ⟨after, known⟩ := scripts asked
                rw [renderIn, renderTree, renderString_of_document markers tags whole
                  (eq_ok_of_toOption read), valueIn_call free known, bind_assoc]
            | none =>
                simp only [whole, Option.bind_eq_some_iff] at output
                obtain ⟨body, read, shown⟩ := output
                obtain ⟨before, outer, behind, front, back, rfl, first, last⟩ :=
                  exists_of_onlyOutput? shown
                refine ⟨fun result => result.mapError (RenderError.orAt path) >>= fun value =>
                  ((Dynamic.ofValue value).toValue.mapError fun fault =>
                    ⟨causeOf expanded none fault (some outer), path⟩) >>= fun value => do
                      let shown ← textAt path value
                      pure (.string (front ++ shown ++ back)), fun frame id given free asked => ?_⟩
                obtain ⟨after, known⟩ := scripts asked
                rw [renderIn, renderTree, renderString_of_emit markers tags whole
                  (eq_ok_of_toOption read) first last, valueIn_call free known, bind_assoc]

/-- A name that is neither bound by the scope nor one of those that every frame has is not bound. -/
theorem find?_frame_module {ctx : RenderContext}
    (free : ctx.scope.find? moduleFunction = none) (chain : List String) :
    (ctx.frame chain).find? moduleFunction = none := by
  have stays {name text : String} {scope : Bindings Value} (other : name ≠ moduleFunction)
      (free : scope.find? moduleFunction = none) :
      (RenderContext.bindMissing name text scope).find? moduleFunction = none := by
    unfold RenderContext.bindMissing
    split
    · exact free
    · rw [Bindings.find?_bind, if_neg other, free]
  rw [ctx.find?_frame, if_neg (by decide), if_neg (by decide), if_neg (by decide)]
  exact stays (by decide) (stays (by decide) free)

/-- The result of a module is the same for callers of one identity, whatever their scopes bind. For
markers, the name of calls has to be left to the calls. -/
theorem module_ignores_scope_of_caller {first second : RenderContext}
    (application : first.application = second.application)
    (templateRef : first.templateRef = second.templateRef)
    (agree : ∀ m, r.module? id = some m →
      ∀ v ∈ m.declared, given.find? v.name = other.find? v.name) :
    r.invokeModule first id given = r.invokeModule second id other ∧
      ∀ chain path text,
        first.scope.find? moduleFunction = none → second.scope.find? moduleFunction = none →
        r.asked? (first.frame chain) text = some (id, given) →
        r.asked? (second.frame chain) text = some (id, other) →
        r.renderIn (first.frame chain) path (.string text) =
          r.renderIn (second.frame chain) path (.string text) := by
  have caller (chain : List String) : first.caller chain = second.caller chain := by
    rw [RenderContext.caller, RenderContext.caller, application, templateRef]
  constructor
  · rw [invokeModule, invokeModule, caller]
    exact expandModule_congr agree _
  · intro chain path text free free' asked asked'
    obtain ⟨present, presented⟩ := r.renderIn_of_asked? path text
    calc r.renderIn (first.frame chain) path (.string text)
      _ = present (r.expandModule (.ofFrame (first.frame chain)) id given) :=
        presented _ _ _ (find?_frame_module free chain) asked
      _ = present (r.expandModule (.ofFrame (second.frame chain)) id other) := by
        rw [Caller.ofFrame_frame, Caller.ofFrame_frame, caller, expandModule_congr agree]
      _ = r.renderIn (second.frame chain) path (.string text) :=
        (presented _ _ _ (find?_frame_module free' chain) asked').symm

/-- A module that reads its own variable and the identity of its caller. -/
def greet : Module where
  id := "greet"
  declared := [{ name := "who" }]
  definition := .string "\x7b\x7b who \x7d\x7d of \x7b\x7b application \x7d\x7d"

def greeter : Renderer where
  modules := [greet]

def greeting : String :=
  "Say: \x7b\x7b module('greet', who=region, note=who) \x7d\x7d!"

/-- The scopes bind the variable of the module, the identity and a slot, and the arguments differ in
one that the module does not declare. -/
theorem module_ignores_scope_of_caller_greeting :
    let first : RenderContext :=
      { application := "shop", scope := [("who", .string "stray"), ("region", .string "eu"),
        ("$modules", .list [.string "greet"])] }
    let second : RenderContext :=
      { application := "shop", scope := [("application", .string "other"),
        ("region", .string "eu"), ("who", .null)] }
    greeter.asked? (first.frame ["outer"]) greeting =
        some ("greet", [("who", .string "eu"), ("note", .string "stray")]) ∧
      greeter.asked? (second.frame ["outer"]) greeting =
        some ("greet", [("who", .string "eu"), ("note", .null)]) ∧
      greeter.renderIn (first.frame ["outer"]) ["config"] (.string greeting) =
        greeter.renderIn (second.frame ["outer"]) ["config"] (.string greeting) := by
  intro first second
  have asked : greeter.asked? (first.frame ["outer"]) greeting =
      some ("greet", [("who", .string "eu"), ("note", .string "stray")]) := by
    decide +kernel
  have asked' : greeter.asked? (second.frame ["outer"]) greeting =
      some ("greet", [("who", .string "eu"), ("note", .null)]) := by
    decide +kernel
  have agree : ∀ m, greeter.module? "greet" = some m → ∀ v ∈ m.declared,
      Bindings.find? v.name [("who", Value.string "eu"), ("note", .string "stray")] =
        Bindings.find? v.name [("who", .string "eu"), ("note", .null)] := by
    intro m known v listed
    obtain rfl : greet = m := by simpa [module?, greeter, greet] using known
    obtain rfl : v = { name := "who" } := List.mem_singleton.mp listed
    decide +kernel
  have application : first.application = second.application := rfl
  have templateRef : first.templateRef = second.templateRef := rfl
  have free : first.scope.find? moduleFunction = none := by decide +kernel
  have free' : second.scope.find? moduleFunction = none := by decide +kernel
  obtain ⟨-, marked⟩ := module_ignores_scope_of_caller application templateRef agree
  exact ⟨asked, asked', marked ["outer"] ["config"] greeting free free' asked asked'⟩

/-- A scope that binds the name of calls keeps a marker from being a call, and the marker fails. -/
theorem marker_fails_where_calls_are_bound :
    let bound : RenderContext :=
      { application := "shop", scope := [("region", .string "eu"), (moduleFunction, .bool true)] }
    let free : RenderContext := { application := "shop", scope := [("region", .string "eu")] }
    let marker := "\x7b\x7b module('greet', who=region) \x7d\x7d"
    greeter.asked? (bound.frame []) marker = some ("greet", [("who", .string "eu")]) ∧
      greeter.asked? (free.frame []) marker = some ("greet", [("who", .string "eu")]) ∧
      FailsFor (greeter.renderAt bound ["config"] (.string marker)) (.evaluation .operation) ∧
      (greeter.renderAt free ["config"] (.string marker)).toOption = some (.string "eu of shop") := by
  decide +kernel

end Renderer

end StagePlan
