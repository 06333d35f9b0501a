import StagePlan.Proofs.Rendering.Expansion

namespace StagePlan.Renderer

/-!
What the limit on nested modules does. It cuts a rendering off, and changes nothing about a
rendering that it does not cut off; where it leaves room for every module once, it cuts none off.
-/

variable {r : Renderer} {ctx : RenderContext} {request : Request} {e : Expansion} {depth : Nat}

theorem start_eq_of_limit (more : r.maxModuleDepth ≤ depth)
    (fits : ¬ FailsFor (r.start e) (.recursionLimit r.maxModuleDepth)) :
    { r with maxModuleDepth := depth }.start e = r.start e := by
  unfold start enter at fits ⊢
  have same : module? { r with maxModuleDepth := depth } e.id = r.module? e.id := rfl
  rw [same]
  split
  · rfl
  · rename_i m known
    rw [known] at fits
    dsimp only at fits ⊢
    split
    · rfl
    · rename_i fresh
      rw [if_neg fresh] at fits
      by_cases room : e.caller.chain.length < r.maxModuleDepth
      · rw [if_pos room, if_pos (Nat.lt_of_lt_of_le room more)]
      · rw [if_neg room] at fits
        exact absurd ⟨_, rfl, rfl⟩ fits

theorem renderIn_eq_of_limit {frame : Bindings Value} {path : List String} {v : Value}
    (inner : ∀ e ∈ r.expansionsIn frame path v,
      ¬ FailsFor (r.expand e) (.recursionLimit r.maxModuleDepth) →
        { r with maxModuleDepth := depth }.expand e = r.expand e)
    (fits : ¬ FailsFor (r.renderIn frame path v) (.recursionLimit r.maxModuleDepth)) :
    { r with maxModuleDepth := depth }.renderIn frame path v = r.renderIn frame path v := by
  refine renderIn_eq_of_expansions rfl ?_
  intro e asked
  exact inner e asked fun fails => fits (renderIn_fails asked fails)

/-- Induction on the expansions that an expansion asks for: none of them is cut off either. -/
theorem expand_eq_of_limit (more : r.maxModuleDepth ≤ depth)
    (fits : ¬ FailsFor (r.expand e) (.recursionLimit r.maxModuleDepth)) :
    { r with maxModuleDepth := depth }.expand e = r.expand e := by
  induction e using (wellFounded_inner r).induction with
  | _ e ih =>
      rw [expand_eq] at fits
      have admitted : ¬ FailsFor (r.start e) (.recursionLimit r.maxModuleDepth) := by
        cases started : r.start e with
        | error failure => simpa [started] using fits
        | ok entered => exact not_failsFor_ok entered _
      rw [expand_eq, expand_eq, start_eq_of_limit more admitted]
      cases started : r.start e with
      | error failure => rfl
      | ok entered =>
          obtain ⟨m, frame⟩ := entered
          rw [started] at fits
          refine renderIn_eq_of_limit ?_ fits
          intro next listed
          exact ih next (mem_inner.mpr ⟨m, frame, started, listed⟩)

theorem depth_limit_only_cuts_off (r : Renderer) (ctx : RenderContext) (request : Request) :
    (∀ depth, r.maxModuleDepth ≤ depth →
      ¬ FailsFor (r.answer ctx request) (.recursionLimit r.maxModuleDepth) →
        { r with maxModuleDepth := depth }.answer ctx request = r.answer ctx request) ∧
    (r.moduleIds.length ≤ r.maxModuleDepth →
      ∀ limit, ¬ FailsFor (r.answer ctx request) (.recursionLimit limit)) := by
  constructor
  · intro depth more fits
    cases request with
    | value path v => exact renderIn_eq_of_limit (fun e _ => expand_eq_of_limit more) fits
    | module id arguments =>
        exact expand_eq_of_limit (e := { id, arguments, caller := ctx.caller [] }) more fits
  · intro enough limit fails
    obtain ⟨around, e, reached, failure, refused, deep⟩ :=
      refused_of_answer_fails (.tooDeep limit) fails
    obtain ⟨listed, fresh, full⟩ := full_of_start refused deep
    obtain ⟨_, proper⟩ := reached.chain_eq
    -- the chain and the module that is called would be more modules than there are
    have longer : (e.caller.chain ++ [e.id]).length ≤ r.moduleIds.length := by
      apply List.Nodup.length_le_of_subset
      · rw [← List.concat_eq_append, List.nodup_concat]
        exact ⟨fresh, proper.nodup⟩
      · intro id on_chain
        rcases List.mem_append.mp on_chain with before | last
        · exact proper.known id before
        · rw [List.mem_singleton.mp last]
          exact listed
    rw [List.length_append, List.length_singleton] at longer
    omega

/-- A module that calls another one. -/
def tower : Renderer where
  modules := [
    { id := "storey", definition := .string "\x7b\x7b module('base') \x7d\x7d" },
    { id := "base", definition := .string "ground" }]
  maxModuleDepth := 2

/-- There is room for both modules, and more room makes no difference. -/
theorem depth_limit_only_cuts_off_tower :
    let request := Request.module "storey" []
    { tower with maxModuleDepth := 50 }.answer {} request = tower.answer {} request ∧
      ∀ limit, ¬ FailsFor (tower.answer {} request) (.recursionLimit limit) := by
  intro request
  obtain ⟨wider, never⟩ := depth_limit_only_cuts_off tower {} request
  have fits : ¬ FailsFor (tower.answer {} request) (.recursionLimit 2) := by
    decide +kernel
  exact ⟨wider 50 (by decide) fits, never (by decide)⟩

example :
    FailsFor ({ tower with maxModuleDepth := 1 }.answer {} (.module "storey" []))
      (.recursionLimit 1) := by
  decide +kernel

end StagePlan.Renderer
