import StagePlan.Markup.ModuleTag
import StagePlan.Value.Written

namespace StagePlan

/-!
Why a rendering fails, and where.
-/

/-- What makes a marker or a tree malformed. -/
inductive MalformedCause where
  | tag (fault : Markup.TagFault)
  /-- The language of expressions has no such text. -/
  | expression
  /-- Two keys of a map have one text. -/
  | duplicateKey (key : String)
  /-- A module is called by something other than a string. -/
  | moduleName
  deriving DecidableEq, Repr

inductive EncodingCause where
  | nonFinite (x : Binary64)
  /-- The document of a typed value cannot be read back. -/
  | unreadable
  deriving DecidableEq

inductive EvaluationCause where
  | operation
  /-- A string literal has an escape that stands for no character. -/
  | escape
  /-- A value of a kind that documents do not have. -/
  | unusable (kind : String)
  /-- A stage is to be repeated over something that is no list. -/
  | notList (typeName : String)
  /-- A partial gets bindings that are no map. -/
  | notBindings (typeName : String)
  deriving DecidableEq, Repr

inductive RenderCause where
  | unresolvedVariable (name : String)
  | unknownReference (id : String)
  | filter (name message : String)
  | predicate (name message : String)
  | missingModuleVariables (module : String) (names : List String)
  | missingPartialVariables (fragment : String) (names : List String)
  /-- A module is expanded within itself; the chain ends with the module that it repeats. -/
  | moduleCycle (chain : List String)
  | recursionLimit (limit : Nat)
  | malformed (cause : MalformedCause)
  | encoding (cause : EncodingCause)
  | evaluation (cause : EvaluationCause)
  deriving DecidableEq

/-- A failure with the place in the tree at which it came up. -/
structure RenderError where
  cause : RenderCause
  path : List String := []
  deriving DecidableEq

namespace MalformedCause

def message : MalformedCause → String
  | .tag fault => fault.message
  | .expression => "malformed expression"
  | .duplicateKey key => "duplicate map key '" ++ key ++ "'"
  | .moduleName => "module id must be a string"

end MalformedCause

namespace EncodingCause

def message : EncodingCause → String
  | .nonFinite x => Value.nonFiniteMessage x
  | .unreadable => "value cannot be read back"

end EncodingCause

namespace EvaluationCause

def message : EvaluationCause → String
  | .operation => "invalid operation"
  | .escape => "invalid escape in a string"
  | .unusable kind => "a " ++ kind ++ " value cannot be used here"
  | .notList typeName => "loopWith must render to a list, got " ++ typeName
  | .notBindings typeName => "partial bindings must render to a map, got " ++ typeName

end EvaluationCause

namespace RenderError

/-- The place as a dotted text. -/
def location (e : RenderError) : String :=
  ".".intercalate e.path

def message (e : RenderError) : String :=
  let place := "at '" ++ e.location ++ "'"
  match e.cause with
  | .unresolvedVariable name => "unresolved variable '" ++ name ++ "' " ++ place
  | .unknownReference id => "unknown reference '" ++ id ++ "' " ++ place
  | .filter name reason => "filter '" ++ name ++ "' failed " ++ place ++ ": " ++ reason
  | .predicate name reason => "predicate '" ++ name ++ "' failed " ++ place ++ ": " ++ reason
  | .missingModuleVariables module names =>
      "module '" ++ module ++ "' is missing required variables [" ++ ", ".intercalate names
        ++ "] " ++ place
  | .missingPartialVariables fragment names =>
      "partial '" ++ fragment ++ "' is missing required variables [" ++ ", ".intercalate names
        ++ "] " ++ place
  | .moduleCycle chain => "module cycle detected: " ++ " -> ".intercalate chain ++ " " ++ place
  | .recursionLimit limit => "module recursion exceeded depth " ++ toString limit ++ " " ++ place
  | .malformed cause => "syntax error " ++ place ++ ": " ++ cause.message
  | .encoding cause => "cannot substitute value " ++ place ++ ": " ++ cause.message
  | .evaluation cause => "expression failed " ++ place ++ ": " ++ cause.message

/-- Places a failure that has no place yet. -/
def orAt (path : List String) (e : RenderError) : RenderError :=
  if e.path.isEmpty then { e with path } else e

end RenderError

end StagePlan
