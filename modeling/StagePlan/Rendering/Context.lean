import StagePlan.Value.Basic

namespace StagePlan

/-!
What a rendering knows from outside: names bound to values, whose pipeline it is, and which modules
are being expanded around it. All of this is handed to expressions as variables, in a frame. A
module that is called there finds out from the same frame who calls it.
-/

structure RenderContext where
  application : String := ""
  templateRef : String := ""
  scope : Bindings Value := []
  deriving Inhabited

/-- Who calls a module: the identity under which it is rendered, and the modules around it, the
outermost first. -/
structure Caller where
  application : String := ""
  templateRef : String := ""
  chain : List String := []
  deriving DecidableEq, Inhabited

namespace RenderContext

/-- The context with another scope. -/
def child (ctx : RenderContext) (scope : Bindings Value) : RenderContext :=
  { ctx with scope }

/-- Whoever calls a module from a rendering inside a chain of modules. -/
def caller (ctx : RenderContext) (chain : List String) : Caller :=
  { application := ctx.application, templateRef := ctx.templateRef, chain }

/-- Binds a text to a name, unless the text is empty or the name is bound already. -/
def bindMissing (name text : String) (scope : Bindings Value) : Bindings Value :=
  if text.isEmpty || scope.has name then scope else scope.bind name (.string text)

/-- The names that expressions see: those of the scope, and `application` and `templateRef` where
the scope does not bind them. -/
def visible (ctx : RenderContext) : Bindings Value :=
  bindMissing "templateRef" ctx.templateRef
    (bindMissing "application" ctx.application ctx.scope)

theorem find?_bindMissing {name text other : String} {scope : Bindings Value} {v : Value}
    (bound : scope.find? other = some v) : (bindMissing name text scope).find? other = some v := by
  unfold bindMissing
  split
  · exact bound
  · rename_i unbound
    have different : name ≠ other := by
      rintro rfl
      simp [Bindings.has_eq_isSome, bound] at unbound
    rw [Bindings.find?_bind, if_neg different, bound]

/-- What the scope binds stays as it is. -/
theorem find?_visible {ctx : RenderContext} {name : String} {v : Value}
    (bound : ctx.scope.find? name = some v) : ctx.visible.find? name = some v :=
  find?_bindMissing (find?_bindMissing bound)

end RenderContext

namespace Caller

/-! The names of what modules ask for. No word of an expression has their first sign in it. -/

def applicationSlot : String := "$application"

def templateRefSlot : String := "$templateRef"

def chainSlot : String := "$modules"

/-- The text that is bound to a name, if one is. -/
def slotText (slot : String) (frame : Bindings Value) : String :=
  ((frame.find? slot).bind Value.string?).getD ""

/-- The texts of the list that is bound to a name, if one is. -/
def slotTexts (slot : String) (frame : Bindings Value) : List String :=
  match frame.find? slot with
  | some (.list items) => items.filterMap Value.string?
  | _ => []

/-- The caller that a frame tells of. -/
def ofFrame (frame : Bindings Value) : Caller where
  application := slotText applicationSlot frame
  templateRef := slotText templateRefSlot frame
  chain := slotTexts chainSlot frame

/-- The context in which a module is rendered for its caller. -/
def context (caller : Caller) (scope : Bindings Value) : RenderContext :=
  { application := caller.application, templateRef := caller.templateRef, scope }

end Caller

namespace RenderContext

open Caller

/-- The frame of expressions that are evaluated inside a chain of modules. What modules ask for is
bound last, whatever the scope binds to those names. -/
def frame (ctx : RenderContext) (chain : List String) : Bindings Value :=
  ((ctx.visible.bind applicationSlot (.string ctx.application)).bind templateRefSlot
    (.string ctx.templateRef)).bind chainSlot (Value.strings chain)

theorem find?_frame (ctx : RenderContext) (chain : List String) (name : String) :
    (ctx.frame chain).find? name =
      if name = chainSlot then some (Value.strings chain)
      else if name = templateRefSlot then some (.string ctx.templateRef)
      else if name = applicationSlot then some (.string ctx.application)
      else ctx.visible.find? name := by
  simp only [frame, Bindings.find?_bind, eq_comm]

end RenderContext

/-- No scope keeps a module from seeing who calls it. -/
theorem Caller.ofFrame_frame (ctx : RenderContext) (chain : List String) :
    ofFrame (ctx.frame chain) = ctx.caller chain := by
  have texts : (chain.map Value.string).filterMap Value.string? = chain := by
    rw [List.filterMap_map]
    exact List.filterMap_some
  simp [ofFrame, RenderContext.caller, slotText, slotTexts, ctx.find?_frame, applicationSlot,
    templateRefSlot, chainSlot, Value.string?, Value.strings, texts]

end StagePlan
