import StagePlan.Model.Template
import StagePlan.Rendering.Context
import StagePlan.Rendering.Marker

namespace StagePlan

open Expression Rendering

/-!
Rendering values for a template. Expressions may call the modules of the template; a module is
rendered under its own variables alone, and modules nest only so deep, and never within themselves.
-/

structure Renderer where
  modules : List Module := []
  library : Library := {}
  /-- How deep modules may nest. -/
  maxModuleDepth : Nat := 50

namespace Renderer

def module? (r : Renderer) (id : String) : Option Module :=
  r.modules.find? fun m => m.id = id

/-- Enters a module for a caller: the module, and the frame in which its definition is rendered. That
frame tells of the same caller with one more module around it. -/
def enter (r : Renderer) (caller : Caller) (id : String) (arguments : Bindings Value) :
    Except RenderError (Module × Bindings Value) :=
  match r.module? id with
  | none => .error { cause := .unknownReference id }
  | some m =>
      if caller.chain.contains id then .error { cause := .moduleCycle (caller.chain ++ [id]) }
      else if caller.chain.length < r.maxModuleDepth then
        match m.scopeFor arguments with
        | .error names => .error { cause := .missingModuleVariables id names }
        | .ok scope => .ok (m, (caller.context scope).frame (caller.chain ++ [id]))
      else .error { cause := .recursionLimit r.maxModuleDepth }

theorem enter_eq_ok {r : Renderer} {caller : Caller} {id : String} {arguments : Bindings Value}
    {m : Module} {frame : Bindings Value}
    (entered : r.enter caller id arguments = .ok (m, frame)) :
    r.module? id = some m ∧ id ∉ caller.chain ∧ caller.chain.length < r.maxModuleDepth ∧
      Caller.ofFrame frame = { caller with chain := caller.chain ++ [id] } := by
  unfold enter at entered
  split at entered
  · cases entered
  · rename_i found known
    split at entered
    · cases entered
    · rename_i fresh
      split at entered
      · rename_i room
        split at entered
        · cases entered
        · cases entered
          exact ⟨known, by simpa using fresh, room, Caller.ofFrame_frame ..⟩
      · cases entered

theorem enter_eq_error {r : Renderer} {caller : Caller} {id : String}
    {arguments : Bindings Value} {failure : RenderError}
    (refused : r.enter caller id arguments = .error failure) :
    (r.module? id = none ∧ failure.cause = .unknownReference id) ∨
      ∃ m, r.module? id = some m ∧
        ((id ∈ caller.chain ∧ failure.cause = .moduleCycle (caller.chain ++ [id])) ∨
          id ∉ caller.chain ∧
            ((r.maxModuleDepth ≤ caller.chain.length ∧
                failure.cause = .recursionLimit r.maxModuleDepth) ∨
              ∃ names, failure.cause = .missingModuleVariables id names)) := by
  unfold enter at refused
  split at refused
  · rename_i unknown
    cases refused
    exact .inl ⟨unknown, rfl⟩
  · rename_i m known
    refine .inr ⟨m, known, ?_⟩
    split at refused
    · rename_i repeated
      cases refused
      exact .inl ⟨by simpa using repeated, rfl⟩
    · rename_i fresh
      refine .inr ⟨by simpa using fresh, ?_⟩
      split at refused
      · split at refused
        · rename_i names _
          cases refused
          exact .inr ⟨names, rfl⟩
        · cases refused
      · rename_i full
        cases refused
        exact .inl ⟨Nat.le_of_not_lt full, rfl⟩

/-- Expands a module for a caller. What the module calls in its turn is expanded for the caller that
the frame of its definition tells of. -/
def expandModule (r : Renderer) (caller : Caller) (id : String) (arguments : Bindings Value) :
    Except RenderError Value :=
  match _entered : r.enter caller id arguments with
  | .error e => .error e
  | .ok (m, frame) =>
      let inner := fun id arguments => r.expandModule (.ofFrame frame) id arguments
      renderTree (renderString r.library inner frame) ["modules", id] m.definition
termination_by r.maxModuleDepth - caller.chain.length
decreasing_by
  obtain ⟨_, _, room, same⟩ := enter_eq_ok _entered
  rw [same, List.length_append, List.length_singleton]
  omega

/-- Renders a module with arguments. -/
def invokeModule (r : Renderer) (ctx : RenderContext) (id : String) (arguments : Bindings Value) :
    Except RenderError Value :=
  r.expandModule (ctx.caller []) id arguments

/-- Renders a value in a frame. -/
def renderIn (r : Renderer) (frame : Bindings Value) (path : List String) (v : Value) :
    Except RenderError Value :=
  renderTree (renderString r.library (r.expandModule (.ofFrame frame)) frame) path v

/-- A module becomes what its definition is rendered to, in a frame of its own. -/
theorem expandModule_eq (r : Renderer) (caller : Caller) (id : String)
    (arguments : Bindings Value) :
    r.expandModule caller id arguments =
      match r.enter caller id arguments with
      | .error e => .error e
      | .ok (m, frame) => r.renderIn frame ["modules", id] m.definition := by
  rw [expandModule]
  split <;> rename_i entered <;> rw [entered]
  rfl

/-- Renders a value, which stands at a place of a larger tree. -/
def renderAt (r : Renderer) (ctx : RenderContext) (path : List String) (v : Value) :
    Except RenderError Value :=
  r.renderIn (ctx.frame []) path v

/-- Renders a value. -/
def render (r : Renderer) (ctx : RenderContext) (v : Value) : Except RenderError Value :=
  r.renderAt ctx [] v

end Renderer

/-- A place that is given as a dotted text. -/
def pathOfText (text : String) : List String :=
  ((Text.splitOn ['.'] text.toList).filter fun segment => !segment.isEmpty).map String.ofList

end StagePlan
