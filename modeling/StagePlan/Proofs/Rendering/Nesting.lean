import StagePlan.Proofs.Rendering.Expansion

namespace StagePlan.Renderer

/-!
No module is ever expanded within itself. Whatever a scope or the arguments of a module bind, the
chain that an expansion goes by is the real one, so a nested expansion is either refused or one of
the few that the modules and the limit leave room for.
-/

variable {r : Renderer} {ctx : RenderContext} {request : Request} {around : List Expansion}
  {e : Expansion}

/-- The chain of an expansion that runs goes on with its module. -/
theorem Nested.running (reached : r.Nested (r.outermost ctx request) around e) {m : Module}
    {frame : Bindings Value} (started : r.start e = .ok (m, frame)) :
    (Caller.ofFrame frame).chain = ids (around ++ [e]) ∧ r.ProperChain (ids (around ++ [e])) := by
  obtain ⟨same, proper⟩ := reached.chain_eq
  have longer : e.caller.chain ++ [e.id] = ids (around ++ [e]) := by
    rw [same, ids, ids, List.map_append, List.map_singleton]
  rw [chain_of_start started, ← longer]
  exact ⟨rfl, proper.start started⟩

theorem modules_nest_properly (r : Renderer) (ctx : RenderContext) (request : Request) :
    (∀ around e, r.Nested (r.outermost ctx request) around e →
      e.caller.chain = ids around ∧ r.ProperChain (ids around)) ∧
    (∀ around e m frame, r.Nested (r.outermost ctx request) around e →
      r.start e = .ok (m, frame) →
        (Caller.ofFrame frame).chain = ids (around ++ [e]) ∧
          r.ProperChain (ids (around ++ [e])) ∧
          (around ++ [e]).length ≤ min r.maxModuleDepth r.moduleIds.length) ∧
    (WellFounded fun next e => next ∈ r.inner e) ∧
    (∀ chain, FailsFor (r.answer ctx request) (.moduleCycle chain) →
      ∃ around e, r.Nested (r.outermost ctx request) around e ∧ chain = ids around ++ [e.id] ∧
        (ids around).Nodup ∧ (ids around).count e.id = 1) := by
  refine ⟨?_, ?_, wellFounded_inner r, ?_⟩
  · intro around e reached
    obtain ⟨same, proper⟩ := reached.chain_eq
    exact ⟨same, same ▸ proper⟩
  · intro around e m frame reached started
    obtain ⟨same, proper⟩ := reached.running started
    have short := proper.length_le
    rw [ids, List.length_map] at short
    exact ⟨same, proper, short⟩
  · intro chain fails
    obtain ⟨around, e, reached, failure, refused, ring⟩ :=
      refused_of_answer_fails (.ring chain) fails
    obtain ⟨whole, repeated⟩ := ring_of_start refused ring
    obtain ⟨same, proper⟩ := reached.chain_eq
    rw [same] at whole repeated proper
    exact ⟨around, e, reached, whole, proper.nodup,
      List.count_eq_one_of_mem proper.nodup repeated⟩

/-- Two modules that call each other. -/
def mirrors : Renderer where
  modules := [
    { id := "left", definition := .string "\x7b\x7b module('right') \x7d\x7d" },
    { id := "right", definition := .list [.string "\x7b\x7b module('left') \x7d\x7d"] }]

/-- The chain of modules is not lost to a scope that binds its name. -/
theorem modules_nest_properly_mirrors :
    let ctx : RenderContext := { scope := [(Caller.chainSlot, .list [])] }
    let request := Request.value [] (.string "\x7b\x7b module('left') \x7d\x7d")
    FailsFor (mirrors.answer ctx request) (.moduleCycle ["left", "right", "left"]) ∧
      ∃ around e, mirrors.Nested (mirrors.outermost ctx request) around e ∧
        ["left", "right", "left"] = ids around ++ [e.id] ∧ (ids around).Nodup ∧
          (ids around).count e.id = 1 := by
  intro ctx request
  have ring : FailsFor (mirrors.answer ctx request) (.moduleCycle ["left", "right", "left"]) := by
    decide +kernel
  exact ⟨ring, (modules_nest_properly mirrors ctx request).2.2.2 _ ring⟩

end StagePlan.Renderer
