namespace StagePlan

/-!
Findings of validation and compilation, each with the place that it is about.
-/

inductive Severity where
  /-- Advice. -/
  | warn
  /-- Keeps a template from being resolved. -/
  | error
  deriving DecidableEq, Inhabited, Repr

namespace Severity

def name : Severity → String
  | .warn => "WARN"
  | .error => "ERROR"

def ofName? : String → Option Severity
  | "WARN" => some .warn
  | "ERROR" => some .error
  | _ => none

@[simp]
theorem ofName?_name (severity : Severity) : ofName? severity.name = some severity := by
  cases severity <;> rfl

end Severity

structure Diagnostic where
  message : String
  location : String
  severity : Severity
  deriving DecidableEq, Inhabited, Repr

namespace Diagnostic

def isError (d : Diagnostic) : Bool :=
  d.severity = .error

def text (d : Diagnostic) : String :=
  "[" ++ d.severity.name ++ "] " ++ d.location ++ ": " ++ d.message

end Diagnostic

namespace Diagnostics

def hasErrors (ds : List Diagnostic) : Bool :=
  ds.any Diagnostic.isError

def withSeverity (severity : Severity) (ds : List Diagnostic) : List Diagnostic :=
  ds.filter fun d => d.severity = severity

def locatedAt (location : String) (ds : List Diagnostic) : List Diagnostic :=
  ds.filter fun d => d.location = location

def errorCount (ds : List Diagnostic) : Nat :=
  (withSeverity .error ds).length

end Diagnostics

end StagePlan
