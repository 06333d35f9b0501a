import StagePlan.Diagnostic
import StagePlan.Model.Stage

namespace StagePlan

/-!
Where a rule stands and what has been found so far. A rule is a function on contexts; `Context.within`
runs one below the current place and comes back.
-/

namespace Validation

/-- The document that is looked at, the path inside it, and the findings in order. -/
structure Context where
  source : String
  path : List String := []
  diagnostics : List Diagnostic := []
  deriving DecidableEq

/-- A rule adds findings to a context. -/
abbrev Rule := Context → Context

def templateSource : String := "template"

def configurationSource : String := "configuration"

namespace Context

def push (component : String) (ctx : Context) : Context :=
  { ctx with path := ctx.path ++ [component] }

def pop (ctx : Context) : Context :=
  { ctx with path := ctx.path.dropLast }

/-- Runs a rule with one more component on the path. -/
def within (component : String) (rule : Rule) (ctx : Context) : Context :=
  (rule (ctx.push component)).pop

def location (ctx : Context) : String :=
  if ctx.path.isEmpty then ctx.source else ctx.source ++ ":" ++ ".".intercalate ctx.path

def report (severity : Severity) (message : String) (ctx : Context) : Context :=
  { ctx with diagnostics := ctx.diagnostics ++ [⟨message, ctx.location, severity⟩] }

def error (message : String) : Rule :=
  report .error message

def warn (message : String) : Rule :=
  report .warn message

/-- Reports each message of a list. -/
def errors (messages : List String) (ctx : Context) : Context :=
  messages.foldl (fun ctx message => ctx.error message) ctx

end Context

/-- The path component of an element of a list: by its name, or by its place if it has none. -/
def component (collection name : String) (index : Nat) : String :=
  if name.isEmpty then collection ++ "[" ++ toString index ++ "]" else collection ++ "." ++ name

def stageComponent (stage : Stage) (index : Nat) : String :=
  component "stages" stage.id index

/-- Runs a rule on every element of a list with its place. -/
def eachFrom {α : Type} (rule : Nat → α → Rule) : Nat → List α → Rule
  | _, [], ctx => ctx
  | index, item :: rest, ctx => eachFrom rule (index + 1) rest (rule index item ctx)

def each {α : Type} (rule : Nat → α → Rule) (items : List α) : Rule :=
  eachFrom rule 0 items

/-- Runs a rule on every element of a list, telling it whether an earlier element has the same
name. Elements without a name repeat nothing. -/
def eachNamedFrom {α : Type} (name : α → String) (rule : Nat → Bool → α → Rule) :
    List String → Nat → List α → Rule
  | _, _, [], ctx => ctx
  | seen, index, item :: rest, ctx =>
      let repeated := !(name item).isEmpty && seen.contains (name item)
      eachNamedFrom name rule (name item :: seen) (index + 1) rest (rule index repeated item ctx)

def eachNamed {α : Type} (name : α → String) (rule : Nat → Bool → α → Rule) (items : List α) :
    Rule :=
  eachNamedFrom name rule [] 0 items

end Validation

end StagePlan
