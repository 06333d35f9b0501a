import StagePlan.Expression.Library
import StagePlan.Expression.Script

namespace StagePlan.Expression

/-!
The store of an evaluation: frames of names, the innermost first, and what objects point to. A frame
may lie on the scope of a template or on the names that a macro took along, and a frame in which
macros were defined copies what is bound in it to them.
-/

/-- What lies beneath the names of a frame. -/
inductive Ground where
  | nothing
  | scope (entries : Bindings Value)
  /-- The names that a macro took along. -/
  | captured (index : Nat)
  deriving Inhabited

structure Frame where
  locals : Bindings Dynamic := []
  ground : Ground := .nothing
  /-- The loop of the frame, and whether it can be asked for by name. -/
  loop? : Option (Nat × Bool) := none
  /-- Where the names bound in the frame are copied to. -/
  capture? : Option Nat := none
  deriving Inhabited

/-- What a loop does for every item. -/
structure Repetition where
  place : Place
  target : Target Place
  body : Body
  deriving Inhabited

structure LoopState where
  items : Array Dynamic
  sized : Bool
  /-- How many items came before the current one. -/
  index : Nat := 0
  /-- How many recursive loops lie around this one. -/
  depth : Nat := 0
  /-- What the loop was last asked about for changes. -/
  seen? : Option (List Dynamic) := none
  /-- What is done again when the loop is called by name. -/
  repetition? : Option Repetition := none
  deriving Inhabited

structure Macro where
  name : String
  parameters : List (String × Option (Expr Place))
  body : Body
  captured : Nat
  takesCaller : Bool
  deriving Inhabited

/-- The text by which a loop is shown: how many items came before, and how many there are. -/
def LoopState.text (loop : LoopState) : String :=
  let count := if loop.sized then "/" ++ toString loop.items.size else ""
  "<loop " ++ toString loop.index ++ count ++ ">"

def Macro.text (m : Macro) : String :=
  "<macro " ++ m.name ++ ">"

structure Store where
  frames : List Frame
  /-- How many frames lie below the ones at hand. -/
  below : Nat := 0
  captures : Array (Bindings Dynamic) := #[]
  records : Array (Bindings Dynamic) := #[]
  loops : Array LoopState := #[]
  macros : Array Macro := #[]
  /-- How many lists and maps have been bound. -/
  bound : Nat := 0
  /-- Whether texts that are put together count as safe. -/
  escaping : Bool := false
  deriving Inhabited

namespace Store

/-- How many frames may lie on each other. -/
def depthLimit : Nat := 500

/-- What a macro adds to the depth besides its frames. -/
def macroDepth : Nat := 4

def ofScope (scope : Bindings Value) : Store :=
  { frames := [{ ground := .scope scope }] }

def depth (store : Store) : Nat :=
  store.below + store.frames.length

def Ground.find? (captures : Array (Bindings Dynamic)) (name : String) :
    Ground → Option Dynamic
  | .nothing => none
  | .scope entries => (Bindings.find? name entries).map (Dynamic.ofValueAt (.scope name []))
  | .captured index => (captures[index]?).bind (Bindings.find? name)

/-- What a name is bound to in the frames, the innermost binding first. -/
def findIn (captures : Array (Bindings Dynamic)) (name : String) : List Frame → Option Dynamic
  | [] => none
  | frame :: outer =>
      match Bindings.find? name frame.locals with
      | some v => some v
      | none =>
          match frame.loop? with
          | some (index, true) =>
              if name = "loop" then some (.object (.loop index))
              else (Ground.find? captures name frame.ground).or (findIn captures name outer)
          | _ => (Ground.find? captures name frame.ground).or (findIn captures name outer)

def find? (name : String) (store : Store) : Option Dynamic :=
  findIn store.captures name store.frames

/-- A value that is about to be bound: a list or map that was just made can be found from now on. -/
def found (v : Dynamic) (store : Store) : Dynamic × Store :=
  match v with
  | .sequence _ _ .fresh | .map _ _ .fresh =>
      (v.foundAt (.bound store.bound []), { store with bound := store.bound + 1 })
  | v => (v, store)

/-- Binds a name in the innermost frame. -/
def bind (name : String) (v : Dynamic) (store : Store) : Store :=
  let (v, store) := store.found v
  match store.frames with
  | [] => store
  | frame :: outer =>
      let captures :=
        match frame.capture? with
        | some index => store.captures.modify index (Bindings.bind name v)
        | none => store.captures
      { store with
        frames := { frame with locals := frame.locals.bind name v } :: outer
        captures }

/-- The loop of the innermost frame that has one. -/
def currentLoop? (store : Store) : Option Nat :=
  store.frames.findSome? fun frame => frame.loop?.map (·.1)

/-- The ground of the outermost frame, on which macros lie too. -/
def bottom (store : Store) : Ground :=
  (store.frames.getLast?.map (·.ground)).getD .nothing

/-- What a loop can be asked for. -/
def loopEntries (loop : LoopState) : List (Dynamic × Dynamic) :=
  let count : Nat := loop.items.size
  let sized (v : Dynamic) : Dynamic := if loop.sized then v else .undefined false
  let itemAt (index? : Option Nat) : Dynamic :=
    (index?.bind fun index => loop.items[index]?).getD (.undefined false)
  [("index0", .int loop.index), ("index", .int (loop.index + 1 : Nat)), ("length", sized (.int count)),
    ("revindex", sized (.int ((count : Int) - loop.index))),
    ("revindex0", sized (.int ((count : Int) - loop.index - 1))),
    ("first", .bool (decide (loop.index = 0))),
    ("last", .bool (loop.sized && decide (loop.index + 1 = count))),
    ("depth", .int (loop.depth + 1 : Nat)), ("depth0", .int loop.depth),
    ("previtem", itemAt (if loop.index = 0 then none else some (loop.index - 1))),
    ("nextitem", itemAt (some (loop.index + 1)))].map fun (name, v) => (Dynamic.text name, v)

def macroEntries (m : Macro) : List (Dynamic × Dynamic) :=
  [(.text "name", .text m.name),
    (.text "arguments", .list (m.parameters.map fun parameter => .text parameter.1)),
    (.text "caller", .bool m.takesCaller)]

/-- An object as the map of what it can be asked for. -/
def view (store : Store) : Handle → Dynamic
  | .record index =>
      .map .entries ((store.records[index]?.getD []).map fun (name, v) => (Dynamic.text name, v))
        (.object (.record index))
  | .loop index =>
      match store.loops[index]? with
      | some loop => .map (.view loop.text) (loopEntries loop) (.object (.loop index))
      | none => .map .entries [] (.object (.loop index))
  | .callable index =>
      match store.macros[index]? with
      | some m => .map (.view m.text) (macroEntries m) (.object (.callable index))
      | none => .map .entries [] (.object (.callable index))

/-- An object as a map, and any other value as it is. -/
def viewObject (store : Store) : Dynamic → Dynamic
  | .object handle => store.view handle
  | v => v

mutual

/-- A value with maps in place of the objects in it. -/
def viewed (store : Store) : Dynamic → Dynamic
  | .object handle => store.view handle
  | .sequence shape items identity => .sequence shape (viewedItems store items) identity
  | .map role entries identity => .map role (viewedEntries store entries) identity
  | v => v

def viewedItems (store : Store) : List Dynamic → List Dynamic
  | [] => []
  | item :: rest => viewed store item :: viewedItems store rest

def viewedEntries (store : Store) : List (Dynamic × Dynamic) → List (Dynamic × Dynamic)
  | [] => []
  | (key, v) :: rest => (viewed store key, viewed store v) :: viewedEntries store rest

end

mutual

def hasObject : Dynamic → Bool
  | .object _ => true
  | .sequence _ items _ => hasObjectItem items
  | .map _ entries _ => hasObjectEntry entries
  | _ => false

def hasObjectItem : List Dynamic → Bool
  | [] => false
  | item :: rest => hasObject item || hasObjectItem rest

def hasObjectEntry : List (Dynamic × Dynamic) → Bool
  | [] => false
  | (key, v) :: rest => hasObject key || hasObject v || hasObjectEntry rest

end

/-- How deep objects may lie in each other when a value is looked at. -/
def viewLimit : Nat := 20

def viewedTimes (store : Store) : Nat → Dynamic → Dynamic
  | 0, v => v
  | times + 1, v => if hasObject v then viewedTimes store times (viewed store v) else v

/-- A value without objects. -/
def plain (store : Store) (v : Dynamic) : Dynamic :=
  store.viewedTimes viewLimit v

/-- Puts an entry among others that are in the order of their names. -/
def insertNamed (name : String) (v : Dynamic) : Bindings Dynamic → Bindings Dynamic
  | [] => [(name, v)]
  | (other, old) :: rest =>
      if other = name then (name, v) :: rest
      else if name < other then (name, v) :: (other, old) :: rest
      else (other, old) :: insertNamed name v rest

/-- Puts an entry into a record. -/
def assign (index : Nat) (name : String) (v : Dynamic) (store : Store) : Store :=
  let (v, store) := store.found v
  { store with records := store.records.modify index (insertNamed name v) }

end Store

end StagePlan.Expression
