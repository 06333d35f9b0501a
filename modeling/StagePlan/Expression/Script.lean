import StagePlan.Bindings
import StagePlan.Expression.Fault
import StagePlan.Expression.Place
import StagePlan.Value.Basic

namespace StagePlan.Expression

/-!
Evaluations that may ask for modules. A script is a finished result, a failure, or the invocation of
a module with a script for every value that the module may turn out to have. What a module is, and
how deep modules may nest, is up to whoever runs the script.
-/

inductive Script (α : Type) where
  | done (result : α)
  | fail (fault : Fault) (place? : Option Place)
  | invoke (id : String) (arguments : Bindings Value) (next : Value → Script α)

namespace Script

variable {α β γ : Type}

def bind : Script α → (α → Script β) → Script β
  | .done result, next => next result
  | .fail fault place?, _ => .fail fault place?
  | .invoke id arguments resume, next => .invoke id arguments fun value => (resume value).bind next

instance : Monad Script where
  pure := .done
  bind := Script.bind

/-- Runs a script: `modules` gives the values of modules or fails for good, and `failed` says how a
failure of the script itself is reported. -/
def run {ε : Type} (modules : String → Bindings Value → Except ε Value)
    (failed : Fault → Option Place → ε) : Script α → Except ε α
  | .done result => .ok result
  | .fail fault place? => .error (failed fault place?)
  | .invoke id arguments next =>
      match modules id arguments with
      | .ok value => (next value).run modules failed
      | .error reason => .error reason

@[simp] theorem bind_done (script : Script α) : script.bind .done = script := by
  induction script with
  | done result => rfl
  | fail fault place? => rfl
  | invoke id arguments next ih => simp only [bind, ih]

theorem bind_assoc (script : Script α) (f : α → Script β) (g : β → Script γ) :
    (script.bind f).bind g = script.bind fun result => (f result).bind g := by
  induction script with
  | done result => rfl
  | fail fault place? => rfl
  | invoke id arguments next ih => simp only [bind, ih]

theorem run_bind {ε : Type} (modules : String → Bindings Value → Except ε Value)
    (failed : Fault → Option Place → ε) (script : Script α) (f : α → Script β) :
    (script.bind f).run modules failed =
      match script.run modules failed with
      | .ok result => (f result).run modules failed
      | .error reason => .error reason := by
  induction script with
  | done result => rfl
  | fail fault place? => rfl
  | invoke id arguments next ih =>
      simp only [bind, run]
      cases modules id arguments with
      | ok value => exact ih value
      | error reason => rfl

end Script

end StagePlan.Expression
