import StagePlan.Expression.Function
import StagePlan.Expression.Names
import StagePlan.Expression.Store

namespace StagePlan.Expression

/-!
Evaluation of expressions. What is called by name again while it is being evaluated (a macro, a
block, a recursive loop) is reached through `Scene.again`, so that evaluation itself follows the
tree of the expression.
-/

/-- An evaluation, which may change the store and may ask for modules. -/
abbrev Eval (α : Type) := StateT Store Script α

/-- What can be evaluated again from within itself. -/
inductive Entry where
  | callable (index : Nat) (arguments : List Dynamic)
  | block (name : String)
  /-- The loop around, with other items. -/
  | loop (items : Dynamic)

structure Scene where
  library : Library
  /-- The text to which a chain of filters is applied. -/
  blockText : Dynamic := .undefined false
  again : Entry → Eval Dynamic

namespace Eval

def fail {α : Type} (fault : Fault) (place : Place) : Eval α :=
  fun _ => .fail fault (some place)

def lift {α : Type} (place : Place) (result : Except Fault α) : Eval α :=
  match result with
  | .ok a => pure a
  | .error fault => fail fault place

/-- The value of a module. -/
def module (id : String) (arguments : Bindings Value) : Eval Value :=
  fun store => .invoke id arguments fun value => .done (value, store)

/-- A value without objects. -/
def plain (v : Dynamic) : Eval Dynamic := do
  pure ((← get).plain v)

/-- Whether a value counts as true; one that is missing cannot be asked. -/
def decided (place : Place) (v : Dynamic) : Eval Bool := do
  if v.isMissing then fail .undefined place
  else pure (← plain v).isTruthy

/-- Evaluates with one more frame, which is dropped again. -/
def framed {α : Type} (place : Place) (frame : Frame) (action : Eval α) : Eval α := do
  let store ← get
  if Store.depthLimit < store.depth then fail .operation place
  else
    set { store with frames := frame :: store.frames }
    let result ← action
    modify fun store => { store with frames := store.frames.drop 1 }
    pure result

/-- The text of a block or macro, which counts as safe where texts are escaped. -/
def asText (chars : String) : Eval Dynamic := do
  pure (.string chars (← get).escaping)

end Eval

open Eval

/-- The name by which expressions call modules. -/
def moduleFunction : String := String.ofList Markup.moduleWord

/-- The name by which expressions make records that can be assigned to. -/
def recordFunction : String := "namespace"

/-- Whether a function can be called by the name. -/
def isFunction (library : Library) (name : String) : Bool :=
  name = moduleFunction || name = recordFunction || Bindings.has name library.predicates
    || (Function.find? name).isSome

/-- What a name stands for. -/
def lookUp (scene : Scene) (name : String) : Eval (Option Dynamic) := do
  match (← get).find? name with
  | some v => pure (some v)
  | none => pure (if isFunction scene.library name then some (.function name) else none)

/-- Calls a module: one text, which is its id, and named arguments. -/
def callModule (place : Place) (given : List Dynamic) : Eval Dynamic := do
  let (positional, named) := Arguments.splitNamed given
  match positional with
  | [id] =>
      match id.string? with
      | none => fail .moduleName place
      | some id =>
          let arguments ← named.foldlM
            (fun (arguments : Bindings Value) (entry : Dynamic × Dynamic) => do
              match entry.1.string? with
              | none => pure arguments
              | some name => pure (arguments.bind name (← lift place entry.2.toValue)))
            []
          pure (.ofValue (← Eval.module id arguments))
  | _ => fail .operation place

/-- Makes a record with the given entries. -/
def makeRecord (place : Place) (given : List Dynamic) : Eval Dynamic := do
  let entries ← lift place (Function.namespaceEntries given)
  let index := (← get).records.size
  modify fun store => entries.foldl
    (fun (store : Store) entry => store.assign index entry.1 entry.2)
    { store with records := store.records.push [] }
  pure (.object (.record index))

def callFunction (scene : Scene) (place : Place) (name : String) (given : List Dynamic) :
    Eval Dynamic := do
  if name = moduleFunction then callModule place (← given.mapM plain)
  else
    match Bindings.find? name scene.library.predicates with
    | some predicate =>
        lift place (Library.applyPredicate name predicate (← given.mapM plain))
    | none =>
        match Function.find? name with
        | some function => lift place (function (← given.mapM plain))
        | none => if name = recordFunction then makeRecord place given else fail .operation place

def callValue (scene : Scene) (place : Place) (v : Dynamic) (given : List Dynamic) :
    Eval Dynamic :=
  match v with
  | .function name => callFunction scene place name given
  | .object (.callable index) => scene.again (.callable index given)
  | _ => fail .operation place

/-- Calls what a name stands for. -/
def callName (scene : Scene) (place : Place) (name : String) (given : List Dynamic) :
    Eval Dynamic := do
  if name = "super" then fail .operation place
  else if name = "loop" then
    match given with
    | [items] =>
        if (← get).currentLoop?.isSome then scene.again (.loop items)
        else fail (.unknown .function name) place
    | _ => fail .operation place
  else
    match ← lookUp scene name with
    | some v => callValue scene place v given
    | none => fail (.unknown .function name) place

/-- Asks a loop for one of its arguments in turn, or whether its arguments have changed. -/
def callLoop (place : Place) (index : Nat) (name : String) (given : List Dynamic) :
    Eval Dynamic := do
  let store ← get
  let loop := store.loops[index]?.getD default
  match name with
  | "cycle" =>
      match given[loop.index % given.length]? with
      | some v => pure v
      | none => fail .operation place
  | "changed" =>
      let same :=
        match loop.seen? with
        | some seen => Dynamic.itemsEqual seen given
        | none => false
      if !same then
        set { store with loops := store.loops.modify index fun l => { l with seen? := some given } }
      pure (.bool !same)
  | _ => fail .operation place

def callMethod (scene : Scene) (place : Place) (base : Dynamic) (name : String)
    (given : List Dynamic) : Eval Dynamic := do
  match base with
  | .object (.loop index) => callLoop place index name given
  | base =>
      match base.kind with
      | .map | .list | .iterable =>
          match ((← get).viewObject base).item? (.text name) with
          | some v => callValue scene place v given
          | none => fail .operation place
      | _ => fail .operation place

/-- Puts arguments into the order in which calls take them: the positional ones, and then a map of
the named ones if there are any. -/
def assemble (given : List (ArgumentKind × Dynamic)) : Except Fault (List Dynamic) := do
  let named ← given.foldlM
    (fun (found : Option (List (Dynamic × Dynamic))) (argument : ArgumentKind × Dynamic) =>
      match argument.1 with
      | .named name =>
          Except.ok (some (Dynamic.insertEntry (.text name) argument.2 (found.getD [])))
      | .namedSpread =>
          match argument.2 with
          | .map _ entries _ =>
              .ok (some (entries.foldl
                (fun found entry => Dynamic.insertEntry entry.1 entry.2 found) (found.getD [])))
          | v => .error (if v.isMissing then .undefined else .operation)
      | _ => .ok found)
    none
  let positional ← given.foldlM
    (fun (found : List Dynamic) (argument : ArgumentKind × Dynamic) =>
      match argument.1 with
      | .positional => Except.ok (found ++ [argument.2])
      | .spread =>
          match argument.2.items? with
          | some items => .ok (found ++ items)
          | none => .error .operation
      | _ => .ok found)
    []
  .ok <|
    match named with
    | some entries => positional ++ [.map .arguments entries .fresh]
    | none => positional

/-- The arguments of a call; objects that are taken apart give what they can be asked for. -/
def assembled (place : Place) (given : List (ArgumentKind × Dynamic)) : Eval (List Dynamic) := do
  let store ← get
  lift place (assemble (given.map fun (kind, v) =>
    match kind with
    | .spread | .namedSpread => (kind, store.viewObject v)
    | kind => (kind, v)))

def literalValue : Literal → Dynamic
  | .nothing => .undefined true
  | .none => .none
  | .bool b => .bool b
  | .whole n => .int n
  | .decimal x => .float x
  | .string text => .text text

def Callee.isBlock {ε : Type} : Callee ε → Bool
  | .block _ => true
  | _ => false

/-- Performs a call with what has been evaluated for it. -/
def perform (scene : Scene) (place : Place) (callee : Callee Dynamic)
    (written : List (ArgumentKind × Dynamic)) : Eval Dynamic := do
  let given ← assembled place written
  match callee with
  | .function name => callName scene place name given
  | .block name => scene.again (.block name)
  | .method base name => callMethod scene place base name given
  | .value v => callValue scene place v given

namespace Expr

mutual

def evaluate (scene : Scene) : Expr Place → Eval Dynamic
  | .variable _ name => do
      pure ((← lookUp scene name).getD (.undefined false))
  | .literal _ value => pure (literalValue value)
  | .blockText _ => pure scene.blockText
  | .negate place operand => do
      lift place (Dynamic.negated (← evaluate scene operand))
  | .not place operand => do
      pure (.bool !(← decided place (← evaluate scene operand)))
  | .binary place .and left right => do
      let v ← evaluate scene left
      if ← decided place v then evaluate scene right else pure v
  | .binary place .or left right => do
      let v ← evaluate scene left
      if ← decided place v then pure v else evaluate scene right
  | .binary place operator left right => do
      let a ← evaluate scene left
      let b ← evaluate scene right
      lift place (Dynamic.operate operator (← plain a) (← plain b))
  | .compared _ first links => do
      evaluateLinks scene (← evaluate scene first) links
  | .choice place condition yes no => do
      if ← decided place (← evaluate scene condition) then evaluate scene yes
      else evaluate scene no
  | .field place base name => do
      lift place ((← plain (← evaluate scene base)).field name)
  | .item place base index => do
      let v ← evaluate scene base
      let key ← evaluate scene index
      lift place ((← plain v).item (← plain key))
  | .slice place base start stop step => do
      let v ← evaluate scene base
      let low ← evaluate scene start
      let high ← evaluate scene stop
      let stride ← evaluate scene step
      lift place (Dynamic.sliced (← plain v) low high stride)
  | .call place callee arguments => do
      let called ← evaluateCallee scene callee
      let given ← if called.isBlock then pure [] else evaluateArguments scene arguments
      perform scene place called given
  | .filter place name input arguments => do
      let v ← evaluate scene input
      let given ← assembled place (← evaluateArguments scene arguments)
      lift place (scene.library.filter name (← plain v) (← given.mapM plain))
  | .test place name input arguments => do
      let v ← evaluate scene input
      let given ← assembled place (← evaluateArguments scene arguments)
      pure (.bool (← lift place (scene.library.test name (← plain v) (← given.mapM plain))))
  | .list _ items => do
      pure (.list (← evaluateItems scene items))
  | .map _ entries => do
      pure (Dynamic.mapOf (← evaluateEntries scene entries))

/-- Compares a value with its right neighbour and that one with the next, as long as all hold. -/
def evaluateLinks (scene : Scene) (left : Dynamic) :
    List (Place × Operator × Expr Place) → Eval Dynamic
  | [] => pure (.bool true)
  | (place, operator, next) :: rest => do
      let right ← evaluate scene next
      let answer ← lift place (Dynamic.operate operator (← plain left) (← plain right))
      if answer.isTruthy then evaluateLinks scene right rest else pure answer

def evaluateCallee (scene : Scene) : Callee (Expr Place) → Eval (Callee Dynamic)
  | .function name => pure (.function name)
  | .block name => pure (.block name)
  | .method base name => do
      pure (.method (← evaluate scene base) name)
  | .value callee => do
      pure (.value (← evaluate scene callee))

def evaluateArguments (scene : Scene) :
    List (ArgumentKind × Expr Place) → Eval (List (ArgumentKind × Dynamic))
  | [] => pure []
  | (kind, value) :: rest => do
      let v ← evaluate scene value
      pure ((kind, v) :: (← evaluateArguments scene rest))

def evaluateItems (scene : Scene) : List (Expr Place) → Eval (List Dynamic)
  | [] => pure []
  | first :: rest => do
      let v ← evaluate scene first
      pure (v :: (← evaluateItems scene rest))

def evaluateEntries (scene : Scene) :
    List (Expr Place × Expr Place) → Eval (List (Dynamic × Dynamic))
  | [] => pure []
  | (key, value) :: rest => do
      let k ← evaluate scene key
      let v ← evaluate scene value
      pure ((k, v) :: (← evaluateEntries scene rest))

end

end Expr

end StagePlan.Expression
