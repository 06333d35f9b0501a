import Mathlib.Data.List.Dedup
import Mathlib.Order.Lattice
import StagePlan.Proofs.Rendering.TreeCalls

namespace StagePlan

open Rendering

/-!
How expansions of modules nest. Which modules are being expanded around an expansion is told by the
frame of its caller. Here the expansions around an expansion are followed from the outermost one, by
what really calls what, and the chain that the frame tells of is shown to be the same. No module is
on it twice.
-/

/-- A call of a module that is made for a caller. -/
structure Expansion extends ModuleCall where
  caller : Caller

/-- What a renderer is asked for: a value at a place of a tree, or a module with arguments. -/
inductive Request where
  | value (path : List String) (v : Value)
  | module (id : String) (arguments : Bindings Value)

/-- The modules of nested expansions, the outermost first. -/
def ids (around : List Expansion) : List String :=
  around.map (·.id)

namespace Renderer

variable {r : Renderer} {ctx : RenderContext} {request : Request} {frame : Bindings Value}
  {path : List String} {v : Value} {around first : List Expansion} {e next : Expansion}
  {cause : RenderCause} {chain : List String}

/-- The ids of the modules of a renderer, each one once. -/
def moduleIds (r : Renderer) : List String :=
  (r.modules.map (·.id)).dedup

/-- What an expansion comes to. -/
def expand (r : Renderer) (e : Expansion) : Except RenderError Value :=
  r.expandModule e.caller e.id e.arguments

/-- The module of an expansion and the frame in which its definition is rendered, or the reason why
the definition is not looked at. -/
def start (r : Renderer) (e : Expansion) : Except RenderError (Module × Bindings Value) :=
  r.enter e.caller e.id e.arguments

/-- The expansions that are asked for while a value is rendered in a frame. -/
def expansionsIn (r : Renderer) (frame : Bindings Value) (path : List String) (v : Value) :
    List Expansion :=
  let caller := Caller.ofFrame frame
  let calls := treeCalls (renderString r.library (r.expandModule caller) frame)
    (stringCalls r.library (r.expandModule caller) frame) path v
  calls.map fun call => { call with caller }

/-- The expansions that an expansion asks for while its definition is rendered. -/
def inner (r : Renderer) (e : Expansion) : List Expansion :=
  match r.start e with
  | .error _ => []
  | .ok (m, frame) => r.expansionsIn frame ["modules", e.id] m.definition

/-- What a request comes to. -/
def answer (r : Renderer) (ctx : RenderContext) : Request → Except RenderError Value
  | .value path v => r.renderAt ctx path v
  | .module id arguments => r.invokeModule ctx id arguments

/-- The expansions that a request asks for itself. -/
def outermost (r : Renderer) (ctx : RenderContext) : Request → List Expansion
  | .value path v => r.expansionsIn (ctx.frame []) path v
  | .module id arguments => [{ id, arguments, caller := ctx.caller [] }]

/-- An expansion that comes about while others are running, each of which is asked for by the one
before it. -/
inductive Nested (r : Renderer) (first : List Expansion) : List Expansion → Expansion → Prop
  | outer {e : Expansion} (asked : e ∈ first) : Nested r first [] e
  | inner {around : List Expansion} {e next : Expansion} (reached : Nested r first around e)
      (asked : next ∈ r.inner e) : Nested r first (around ++ [e]) next

/-- Modules of a renderer that may be nested in one another. -/
structure ProperChain (r : Renderer) (chain : List String) : Prop where
  nodup : chain.Nodup
  known : ∀ id ∈ chain, id ∈ r.moduleIds
  short : chain.length ≤ r.maxModuleDepth

theorem expand_eq (r : Renderer) (e : Expansion) :
    r.expand e =
      match r.start e with
      | .error failure => .error failure
      | .ok (m, frame) => r.renderIn frame ["modules", e.id] m.definition :=
  r.expandModule_eq e.caller e.id e.arguments

section Values

theorem renderIn_eq_of_expansions {other : Renderer} (same : other.library = r.library)
    (agree : ∀ e ∈ r.expansionsIn frame path v, other.expand e = r.expand e) :
    other.renderIn frame path v = r.renderIn frame path v := by
  have strings : Agree (renderString r.library (r.expandModule (.ofFrame frame)) frame)
      (renderString r.library (other.expandModule (.ofFrame frame)) frame)
      (stringCalls r.library (r.expandModule (.ofFrame frame)) frame) fun call =>
        call.answer (other.expandModule (.ofFrame frame)) =
          call.answer (r.expandModule (.ofFrame frame)) :=
    fun _ _ => renderString_eq_of_calls
  unfold renderIn
  rw [same]
  refine renderTree_eq_of_calls strings path v ?_
  intro call made
  exact agree _ (List.mem_map_of_mem made)

theorem renderIn_fails (asked : e ∈ r.expansionsIn frame path v)
    (fails : FailsFor (r.expand e) cause) : FailsFor (r.renderIn frame path v) cause := by
  have strings : CallsFail (renderString r.library (r.expandModule (.ofFrame frame)) frame)
      (stringCalls r.library (r.expandModule (.ofFrame frame)) frame)
      (fun call => call.FailsFor (r.expandModule (.ofFrame frame)) cause) cause :=
    fun _ _ ⟨_, made, failed⟩ => renderString_fails made failed
  obtain ⟨call, made, rfl⟩ := List.mem_map.mp asked
  exact renderTree_fails strings path v ⟨call, made, fails⟩

theorem exists_of_renderIn_fails (runaway : Runaway cause)
    (fails : FailsFor (r.renderIn frame path v) cause) :
    ∃ e ∈ r.expansionsIn frame path v, FailsFor (r.expand e) cause := by
  have strings : FailuresCall (renderString r.library (r.expandModule (.ofFrame frame)) frame)
      (stringCalls r.library (r.expandModule (.ofFrame frame)) frame)
      (fun call => call.FailsFor (r.expandModule (.ofFrame frame)) cause) cause :=
    fun _ _ => call_of_renderString_fails runaway
  obtain ⟨call, made, failed⟩ := call_of_renderTree_fails runaway strings path v fails
  exact ⟨_, List.mem_map_of_mem made, failed⟩

theorem caller_of_expansionsIn (asked : e ∈ r.expansionsIn frame path v) :
    e.caller = .ofFrame frame := by
  obtain ⟨call, _, rfl⟩ := List.mem_map.mp asked
  rfl

end Values

section Starting

variable {m : Module} {failure : RenderError}

theorem mem_inner : next ∈ r.inner e ↔ ∃ m frame, r.start e = .ok (m, frame) ∧
    next ∈ r.expansionsIn frame ["modules", e.id] m.definition := by
  unfold inner
  split <;> rename_i started <;> simp [started]

theorem mem_moduleIds_of_module? {id : String} (known : r.module? id = some m) :
    id ∈ r.moduleIds := by
  have same : m.id = id := by simpa using List.find?_some known
  rw [moduleIds, List.mem_dedup]
  exact List.mem_map.mpr ⟨m, List.mem_of_find?_eq_some known, same⟩

theorem chain_of_start (started : r.start e = .ok (m, frame)) :
    (Caller.ofFrame frame).chain = e.caller.chain ++ [e.id] := by
  rw [(enter_eq_ok started).2.2.2]

theorem ProperChain.start (proper : r.ProperChain e.caller.chain)
    (started : r.start e = .ok (m, frame)) : r.ProperChain (e.caller.chain ++ [e.id]) := by
  obtain ⟨known, fresh, room, _⟩ := enter_eq_ok started
  have listed := mem_moduleIds_of_module? known
  constructor
  · rw [← List.concat_eq_append, List.nodup_concat]
    exact ⟨fresh, proper.nodup⟩
  · intro id on_chain
    rcases List.mem_append.mp on_chain with before | last
    · exact proper.known id before
    · rw [List.mem_singleton.mp last]
      exact listed
  · rw [List.length_append, List.length_singleton]
    exact room

theorem ProperChain.length_le (proper : r.ProperChain chain) :
    chain.length ≤ min r.maxModuleDepth r.moduleIds.length :=
  le_min proper.short (List.Nodup.length_le_of_subset proper.nodup proper.known)

theorem ring_of_start (refused : r.start e = .error failure)
    (ring : failure.cause = .moduleCycle chain) :
    chain = e.caller.chain ++ [e.id] ∧ e.id ∈ e.caller.chain := by
  rcases enter_eq_error refused with
    ⟨_, cause⟩ | ⟨_, _, ⟨repeated, cause⟩ | ⟨_, ⟨_, cause⟩ | ⟨_, cause⟩⟩⟩ <;>
    rw [cause] at ring <;> cases ring
  exact ⟨rfl, repeated⟩

theorem full_of_start {limit : Nat} (refused : r.start e = .error failure)
    (deep : failure.cause = .recursionLimit limit) :
    e.id ∈ r.moduleIds ∧ e.id ∉ e.caller.chain ∧ r.maxModuleDepth ≤ e.caller.chain.length := by
  rcases enter_eq_error refused with
    ⟨_, cause⟩ | ⟨m, known, ⟨_, cause⟩ | ⟨fresh, ⟨full, cause⟩ | ⟨_, cause⟩⟩⟩ <;>
    rw [cause] at deep <;> cases deep
  exact ⟨mem_moduleIds_of_module? known, fresh, full⟩

end Starting

section Nesting

theorem chain_of_inner (asked : next ∈ r.inner e) :
    next.caller.chain = e.caller.chain ++ [e.id] := by
  obtain ⟨m, frame, started, listed⟩ := mem_inner.mp asked
  rw [caller_of_expansionsIn listed, chain_of_start started]

/-- Expansions ask for expansions only as long as there is room for one more. -/
theorem wellFounded_inner (r : Renderer) :
    WellFounded fun next e => next ∈ r.inner e := by
  refine Subrelation.wf ?_
    (measure fun e : Expansion => r.maxModuleDepth - e.caller.chain.length).wf
  intro next e asked
  obtain ⟨m, frame, started, _⟩ := mem_inner.mp asked
  have room := (enter_eq_ok started).2.2.1
  have longer : next.caller.chain.length = e.caller.chain.length + 1 := by
    rw [chain_of_inner asked, List.length_append, List.length_singleton]
  change r.maxModuleDepth - next.caller.chain.length < r.maxModuleDepth - e.caller.chain.length
  omega

theorem chain_of_outermost (asked : e ∈ r.outermost ctx request) : e.caller.chain = [] := by
  cases request with
  | value path v =>
      rw [caller_of_expansionsIn asked, Caller.ofFrame_frame]
      rfl
  | module id arguments =>
      rw [List.mem_singleton.mp asked]
      rfl

/-- The chain that a caller has is what really runs around it. -/
theorem Nested.chain_eq (reached : r.Nested (r.outermost ctx request) around e) :
    e.caller.chain = ids around ∧ r.ProperChain e.caller.chain := by
  induction reached with
  | outer asked =>
      rw [chain_of_outermost asked]
      exact ⟨rfl, List.nodup_nil, by simp, by simp⟩
  | inner reached asked ih =>
      obtain ⟨same, proper⟩ := ih
      obtain ⟨m, frame, started, _⟩ := mem_inner.mp asked
      rw [chain_of_inner asked]
      exact ⟨by rw [same, ids, ids, List.map_append, List.map_singleton], proper.start started⟩

/-- An expansion fails for a cause that only calls have because one within it is refused. -/
theorem Nested.refused (runaway : Runaway cause) (reached : r.Nested first around e)
    (fails : FailsFor (r.expand e) cause) :
    ∃ around e, r.Nested first around e ∧ FailsFor (r.start e) cause := by
  induction e using (wellFounded_inner r).induction generalizing around with
  | _ e ih =>
      rw [expand_eq] at fails
      cases started : r.start e with
      | error failure =>
          rw [started, failsFor_error] at fails
          exact ⟨around, e, reached, failure, started, fails⟩
      | ok entered =>
          obtain ⟨m, frame⟩ := entered
          rw [started] at fails
          obtain ⟨next, listed, failed⟩ := exists_of_renderIn_fails runaway fails
          have asked : next ∈ r.inner e := mem_inner.mpr ⟨m, frame, started, listed⟩
          exact ih next asked (.inner reached asked) failed

theorem refused_of_answer_fails (runaway : Runaway cause)
    (fails : FailsFor (r.answer ctx request) cause) :
    ∃ around e, r.Nested (r.outermost ctx request) around e ∧ FailsFor (r.start e) cause := by
  cases request with
  | value path v =>
      obtain ⟨e, asked, failed⟩ := exists_of_renderIn_fails runaway fails
      exact Nested.refused runaway (.outer asked) failed
  | module id arguments =>
      exact Nested.refused runaway (.outer List.mem_cons_self) fails

end Nesting

end Renderer

end StagePlan
