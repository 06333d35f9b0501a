import StagePlan.Expression.Operation

namespace StagePlan.Expression

/-!
Arguments of filters, tests and functions. They are taken one after the other; each says what it
accepts. A value that is missing fails as such wherever a text, number or switch is asked for.
-/

abbrev Arguments (α : Type) := StateT (List Dynamic) (Except Fault) α

namespace Arguments

/-- What a text argument makes of a value. Named arguments have no text. -/
def asText (v : Dynamic) : Except Fault String :=
  if v.isMissing then .error .undefined
  else if v.isArguments then .error .operation
  else .ok v.shown

/-- Any value that is there. -/
def present (v : Dynamic) : Except Fault Dynamic :=
  if v.isMissing then .error .undefined else .ok v

/-- A value that has to be a text. -/
def asString (v : Dynamic) : Except Fault String :=
  if v.isMissing then .error .undefined
  else
    match v.string? with
    | some text => .ok text
    | none => .error .operation

def asBool (v : Dynamic) : Except Fault Bool :=
  if v.isMissing then .error .undefined
  else
    match v with
    | .bool b => .ok b
    | _ => .error .operation

/-- A whole number within bounds. -/
def asWhole (low high : Int) (v : Dynamic) : Except Fault Int :=
  if v.isMissing then .error .undefined
  else
    match v.wholeIn? low high with
    | some n => .ok n
    | none => .error .operation

def asCount (v : Dynamic) : Except Fault Nat :=
  (asWhole 0 (Nat.pow 2 64 - 1 : Int) v).map Int.toNat

/-- Any value, the undefined one included. -/
def asAny (v : Dynamic) : Except Fault Dynamic := .ok v

def required {α : Type} (accept : Dynamic → Except Fault α) : Arguments α := do
  match ← get with
  | [] => throw .operation
  | v :: rest =>
      set rest
      match accept v with
      | .ok result => pure result
      | .error fault => throw fault

/-- An argument that may be left out, whatever it is otherwise. -/
def next? : Arguments (Option Dynamic) := do
  match ← get with
  | [] => pure none
  | v :: rest =>
      set rest
      pure (some v)

/-- An argument that may be left out; nothing and what is undefined count as left out. -/
def optional {α : Type} (accept : Dynamic → Except Fault α) : Arguments (Option α) := do
  match ← get with
  | [] => pure none
  | v :: rest =>
      set rest
      if v.isUndefined || v.isNone then pure none
      else
        match accept v with
        | .ok result => pure (some result)
        | .error fault => throw fault

/-- All arguments that are left. -/
def rest : Arguments (List Dynamic) := do
  let left ← get
  set ([] : List Dynamic)
  pure left

/-- Takes arguments and refuses any that are left over. -/
def take {α : Type} (reader : Arguments α) (given : List Dynamic) : Except Fault α :=
  match reader.run given with
  | .error fault => .error fault
  | .ok (result, []) => .ok result
  | .ok (_, _ :: _) => .error .operation

/-- Splits the named arguments off, which stand in a map behind all others. -/
def splitNamed (given : List Dynamic) : List Dynamic × List (Dynamic × Dynamic) :=
  match given.getLast? with
  | some (.map .arguments entries _) => (given.dropLast, entries)
  | _ => (given, [])

/-- A named argument, which may be left out in the same ways. -/
def named {α : Type} (name : String) (accept : Dynamic → Except Fault α)
    (entries : List (Dynamic × Dynamic)) : Except Fault (Option α) :=
  match Dynamic.lookup? (.text name) entries with
  | none => .ok none
  | some v => if v.isUndefined || v.isNone then .ok none else (accept v).map some

/-- A named argument that may be left out, whatever it is otherwise. -/
def named? (name : String) (entries : List (Dynamic × Dynamic)) : Option Dynamic :=
  Dynamic.lookup? (.text name) entries

/-- Refuses named arguments with other names than the given ones. -/
def onlyNamed (names : List String) (entries : List (Dynamic × Dynamic)) : Except Fault Unit :=
  if entries.all fun entry => names.any fun name => entry.1.string? = some name then .ok ()
  else .error .operation

end Arguments

end StagePlan.Expression
