import StagePlan.Expression.Evaluation

namespace StagePlan.Expression

/-!
Execution of statements. A statement gives the text that it writes and may change the store.
-/

open Eval

namespace Eval

/-- Fails where no place is told apart. -/
def refuse {α : Type} : Eval α :=
  fun _ => .fail .operation none

end Eval

/-- The text that a value writes. -/
def writtenText (place : Place) (v : Dynamic) : Eval String := do
  let value ← lift place (← plain v).toValue
  match value.text with
  | .ok text => pure text
  | .error x => fail (.noText x) place

namespace Target

mutual

/-- Binds a value to what a target names. Of values that can be assigned to there are only records. -/
def bind (scene : Scene) : Target Place → Dynamic → Eval Unit
  | .name bound, v => modify (Store.bind bound v)
  | .unpack place targets, v => do
      match ((← get).viewObject v).parts? with
      | some items =>
          if items.length = targets.length then bindAll scene targets items
          else fail .operation place
      | none => fail .operation place
  | .field place base bound, v => do
      match ← base.evaluate scene with
      | .object (.record index) =>
          modify (Store.assign index bound v)
      | _ => fail .operation place

def bindAll (scene : Scene) : List (Target Place) → List Dynamic → Eval Unit
  | target :: targets, item :: items => do
      bind scene target item
      bindAll scene targets items
  | _, _ => pure ()

end

end Target

/-! Loops. -/

/-- Binds the next item of a loop. -/
def bindItem (scene : Scene) (place : Place) (target : Target Place) (item : Dynamic) : Eval Unit := do
  target.bind scene (← lift place item.valid)

/-- Runs the body of a loop for the items from a position on. -/
def repeatBody (index : Nat) (bind : Dynamic → Eval Unit) (body : Eval String) :
    Nat → List Dynamic → Eval String
  | position, [] => do
      modify fun store =>
        { store with loops := store.loops.modify index fun loop => { loop with index := position } }
      pure ""
  | position, item :: rest => do
      modify fun store =>
        { store with loops := store.loops.modify index fun loop => { loop with index := position } }
      bind item
      let text ← body
      let more ← repeatBody index bind body (position + 1) rest
      pure (text ++ more)

/-- The depth of a loop that begins now. -/
def Store.loopDepth (store : Store) : Nat :=
  match store.currentLoop?.bind fun index => store.loops[index]? with
  | some loop => if loop.repetition?.isSome then loop.depth + 1 else 0
  | none => 0

/-- Evaluates in a frame with a new loop over items. Only a loop that is not `hidden` can be asked
for by name. -/
def inLoop {α : Type} (place : Place) (items : List Dynamic) (sized hidden : Bool)
    (repetition? : Option Repetition) (action : Nat → Eval α) : Eval α := do
  let store ← get
  let loop : LoopState :=
    { items := items.toArray, sized, depth := store.loopDepth, repetition? }
  let index := store.loops.size
  set { store with loops := store.loops.push loop }
  framed place { loop? := some (index, !hidden) } (action index)

/-- The items over which a loop runs, and whether their number is known beforehand. -/
def loopItems (place : Place) (v : Dynamic) : Eval (List Dynamic × Bool) := do
  let source := (← get).viewObject v
  let items ← lift place source.iterate
  let sized :=
    match source with
    | .sequence (.stream sized) .. => sized
    | .string .. => false
    | _ => true
  pure (items, sized)

/-- The items for which a condition holds once they are bound. -/
def keepItems (index : Nat) (bind : Dynamic → Eval Unit) (condition : Eval Bool) :
    Nat → List Dynamic → Eval (List Dynamic)
  | _, [] => pure []
  | position, item :: rest => do
      modify fun store =>
        { store with loops := store.loops.modify index fun loop => { loop with index := position } }
      bind item
      let kept ← condition
      let more ← keepItems index bind condition (position + 1) rest
      pure (if kept then item :: more else more)

/-! Macros. -/

/-- The names that the innermost frame hands on to macros, which are empty at first. -/
def captureIndex : Eval Nat := do
  let store ← get
  match store.frames with
  | [] => pure 0
  | frame :: outer =>
      match frame.capture? with
      | some index => pure index
      | none =>
          let index := store.captures.size
          set { store with
            frames := { frame with capture? := some index } :: outer
            captures := store.captures.push [] }
          pure index

/-- Takes the values of names along, as far as that has not been done before. -/
def captureNames (scene : Scene) (index : Nat) : List String → Eval Unit
  | [] => pure ()
  | name :: rest => do
      let known := ((← get).captures[index]?.getD []).has name
      if !known then
        let v := (← lookUp scene name).getD (.undefined false)
        modify fun store =>
          { store with captures := store.captures.modify index (Bindings.bind name v) }
      captureNames scene index rest

/-- The parameter under which a macro gets the body of the call. -/
def callerName : String := "caller"

def makeMacro (scene : Scene) (name : String) (parameters : List (String × Option (Expr Place)))
    (body : Body) : Eval Dynamic := do
  let mentioned := parameterNames parameters ++ Statement.allNames body
  let captured ← captureIndex
  captureNames scene captured (mentioned.filter (· ≠ callerName))
  let store ← get
  let made : Macro :=
    { name, parameters, body, captured, takesCaller := mentioned.contains callerName }
  set { store with macros := store.macros.push made }
  pure (.object (.callable store.macros.size))

/-! Other templates, of which there are none. -/

/-- What names the template that a statement asks for: one name, or several to choose from. -/
def templateNames (store : Store) (v : Dynamic) : List Dynamic :=
  match store.viewObject v with
  | .sequence _ items _ => items
  | .map _ entries _ => entries.map (·.1)
  | .function _ => []
  | other => [other]

/-- Looks for another template, of which there is none. Only the absence of a name goes unnoticed. -/
def searchTemplate (place : Place) (v : Dynamic) (ignoreMissing : Bool) : Eval Unit := do
  let names := templateNames (← get) v
  if names.any fun name => name.string?.isNone then fail .operation place
  else if !names.isEmpty && !ignoreMissing then fail .operation place

/-- Whether texts are to be escaped under a setting. -/
def escapeSetting (place : Place) (v : Dynamic) : Eval Bool :=
  match v with
  | .string text _ =>
      if text = "html" then pure true
      else if text = "none" then pure false
      else fail .operation place
  | v => pure (v.equals (.bool true))

namespace Statement

mutual

def execute (scene : Scene) : Statement Place → Eval String
  | .text chars => pure (String.ofList chars)
  | .emit place value => do
      writtenText place (← value.evaluate scene)
  | .set target value => do
      target.bind scene (← value.evaluate scene)
      pure ""
  | .setBlock target chain? body => do
      let text ← asText (← executeAll scene body)
      let v ←
        match chain? with
        | some chain => chain.evaluate { scene with blockText := text }
        | none => pure text
      target.bind scene v
      pure ""
  | .scoped assignments body =>
      framed ⟨0, none⟩ {} do
        for (target, value) in assignments do
          target.bind scene (← value.evaluate scene)
        executeAll scene body
  | .loop place conditionPlace target source condition? recursive body otherwise => do
      let v ← source.evaluate scene
      let (items, sized) ←
        match condition? with
        | none => loopItems place v
        | some condition => do
            let (all, sized) ← loopItems place v
            let kept ← inLoop place all sized true none fun index =>
              keepItems index (bindItem scene place target)
                (do decided conditionPlace (← condition.evaluate scene)) 0 all
            pure (kept, true)
      let repetition? := if recursive then some ⟨place, target, body⟩ else none
      let text ← inLoop place items sized false repetition? fun index =>
        repeatBody index (bindItem scene place target) (executeAll scene body) 0 items
      if items.isEmpty then executeAll scene otherwise else pure text
  | .branch place condition yes no => do
      if ← decided place (← condition.evaluate scene) then executeAll scene yes
      else executeAll scene no
  | .filterBlock place chain body => do
      let text ← asText (← executeAll scene body)
      writtenText place (← chain.evaluate { scene with blockText := text })
  | .autoescape place setting body => do
      let escaping ← escapeSetting place (← setting.evaluate scene)
      let before := (← get).escaping
      modify fun store => { store with escaping }
      let text ← executeAll scene body
      modify fun store => { store with escaping := before }
      pure text
  | .block place _ body => framed place {} (executeAll scene body)
  | .missingBlock place _ => fail .operation place
  | .define name parameters body => do
      let made ← makeMacro scene name parameters body
      modify (Store.bind name made)
      pure ""
  | .callBlock place call parameters body => do
      match call with
      | .call callPlace callee arguments =>
          let called ← Expr.evaluateCallee scene callee
          let given ← Expr.evaluateArguments scene arguments
          let caller ← makeMacro scene callerName parameters body
          let v ← perform scene callPlace called (given ++ [(.named callerName, caller)])
          writtenText place v
      | other => writtenText place (← other.evaluate scene)
  | .run call => do
      let _ ← call.evaluate scene
      pure ""
  | .extendTemplate place name => do
      let _ ← name.evaluate scene
      fail .operation place
  | .insertTemplate place name ignoreMissing => do
      searchTemplate place (← name.evaluate scene) ignoreMissing
      pure ""
  | .importAs place name target => do
      searchTemplate place (← name.evaluate scene) false
      target.bind scene (Dynamic.mapOf [])
      pure ""
  | .importNames place name names => do
      searchTemplate place (← name.evaluate scene) false
      for (source, bound) in names do
        let v := (← lookUp scene source).getD (.undefined false)
        modify (Store.bind bound v)
      pure ""

def executeAll (scene : Scene) : List (Statement Place) → Eval String
  | [] => pure ""
  | first :: rest => do
      let text ← execute scene first
      let more ← executeAll scene rest
      pure (text ++ more)

end

end Statement

/-! What is evaluated again from within itself. -/

/-- Binds the parameters of a macro, the last one first; one without an argument takes its default,
which may use the parameters behind it. -/
def bindParameters (scene : Scene) :
    List ((String × Option (Expr Place)) × Dynamic) → Eval Unit
  | [] => pure ()
  | ((name, default?), given) :: rest => do
      bindParameters scene rest
      let v ←
        match default? with
        | some value => if given.isUndefined then value.evaluate scene else pure given
        | none => pure given
      modify (Store.bind name v)

/-- The arguments of a macro by parameter, and what it gets as its caller. An argument that fits no
parameter is an error, and so are two for one parameter. -/
def Macro.arguments? (m : Macro) (given : List Dynamic) :
    Option (List ((String × Option (Expr Place)) × Dynamic) × Dynamic) := do
  let (positional, named) := Arguments.splitNamed given
  if m.parameters.length < positional.length then none
  let named? (name : String) : Option Dynamic := Dynamic.lookup? (.text name) named
  let filled ← m.parameters.zipIdx.mapM
    fun (parameter, position) =>
      match positional[position]?, named? parameter.1 with
      | some _, some _ => none
      | some v, none | none, some v => some (parameter, v)
      | none, none => some (parameter, .undefined false)
  let known (name : String) : Bool :=
    m.parameters.any (fun parameter => parameter.1 = name) || (m.takesCaller && name = callerName)
  if named.any fun (key, _) => (key.string?.map fun name => !known name).getD false then none
  some (filled, (named? callerName).getD (.undefined false))

/-- Calls a macro: it sees the names that it took along and the scope of the template. -/
def callMacro (scene : Scene) (m : Macro) (given : List Dynamic) : Eval Dynamic := do
  let store ← get
  match m.arguments? given with
  | none => refuse
  | some (filled, caller) =>
      let frames : List Frame := [{ ground := .captured m.captured }, { ground := store.bottom }]
      let entered := { store with frames, below := store.depth + Store.macroDepth }
      if Store.depthLimit < entered.depth then refuse
      else
        set entered
        if m.takesCaller then modify (Store.bind callerName caller)
        bindParameters scene filled
        let text ← Statement.executeAll scene m.body
        modify fun after =>
          { after with frames := store.frames, below := store.below, escaping := store.escaping }
        asText text

/-- Evaluates again what an entry names. Every entry adds to the depth of the frames, which is
limited, so `fuel` above `Store.depthLimit` never runs out. -/
def reenter (library : Library) : Nat → List (String × Body) → Entry → Eval Dynamic
  | 0, _, _ => refuse
  | fuel + 1, blocks, entry => do
      let scene : Scene := { library, again := reenter library fuel blocks }
      match entry with
      | .callable index given =>
          match (← get).macros[index]? with
          | some m => callMacro { library, again := reenter library fuel [] } m given
          | none => refuse
      | .block name =>
          match Bindings.find? name blocks with
          | some body => do
              let text ← framed ⟨0, none⟩ {} (Statement.executeAll scene body)
              asText text
          | none => refuse
      | .loop v =>
          let store ← get
          match (store.currentLoop?.bind fun index => store.loops[index]?).bind
              LoopState.repetition? with
          | some again => do
              let (items, sized) ← loopItems again.place v
              let text ← inLoop again.place items sized false (some again) fun index =>
                repeatBody index (bindItem scene again.place again.target)
                  (Statement.executeAll scene again.body) 0 items
              asText text
          | none => refuse

/-- The text of a template under a scope. -/
def writeTemplate (library : Library) (scope : Bindings Value) (body : Body) : Script String := do
  let blocks := Statement.allBlocks body
  let scene : Scene := { library, again := reenter library (Store.depthLimit + 100) blocks }
  let (text, _) ← (Statement.executeAll scene body).run (Store.ofScope scope)
  pure text

end StagePlan.Expression
