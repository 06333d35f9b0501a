import StagePlan.Proofs.Rendering.DottedPlaces
import StagePlan.Proofs.Rendering.Expansion
import StagePlan.Proofs.Rendering.Failures

namespace StagePlan

open Rendering

/-!
Where failures are placed. While a tree is rendered, the definitions of modules are rendered as trees
of their own, each at a place that names the module. A failure is placed at the spot that fails, in
the tree or in such a definition; it keeps that place on its way out, since places in definitions are
never empty. A module that is not entered leaves its failure without a place, so it gets the place of
the marker that calls the module.
-/

/-- A tree that is rendered in a frame, with the place at which it stands. -/
structure Site where
  frame : Bindings Value
  path : List String
  tree : Value

namespace RenderError

variable {e : RenderError} {path : List String}

theorem orAt_of_placed (placed : e.path ≠ []) : e.orAt path = e := by
  simp [orAt, placed]

theorem orAt_of_unplaced (unplaced : e.path = []) : e.orAt path = ⟨e.cause, path⟩ := by
  simp [orAt, unplaced]

end RenderError

namespace Renderer

variable {r : Renderer} {frame : Bindings Value} {path : List String} {site inner : Site}
  {e : Expansion} {m : Module} {failure : RenderError}

/-- The definition of a module as it is rendered for an expansion. -/
def definitionSite (e : Expansion) (m : Module) (frame : Bindings Value) : Site :=
  ⟨frame, ["modules", e.id], m.definition⟩

def renderSite (r : Renderer) (site : Site) : Except RenderError Value :=
  r.renderIn site.frame site.path site.tree

/-- The expansions that a site asks for. -/
def expansionsOf (r : Renderer) (site : Site) : List Expansion :=
  r.expansionsIn site.frame site.path site.tree

/-- The modules that a string calls in a frame. -/
def callsIn (r : Renderer) (frame : Bindings Value) : String → List ModuleCall :=
  stringCalls r.library (r.expandModule (.ofFrame frame)) frame

/-- A site with the definitions that are rendered on the way. -/
inductive Within (r : Renderer) : Site → Site → Prop
  | here (site : Site) : Within r site site
  | deeper {site inner : Site} {e : Expansion} {m : Module} {frame : Bindings Value}
      (asked : e ∈ r.expansionsOf site) (started : r.start e = .ok (m, frame))
      (further : Within r (definitionSite e m frame) inner) : Within r site inner

/-- A failure comes up at a spot of a site, and is placed there. -/
structure FailsIn (r : Renderer) (site : Site) (steps : List String) (spot : Spot)
    (failure : RenderError) : Prop where
  leads : Leads site.tree steps spot
  fails : FailsAt (r.interpretIn site.frame) (site.path ++ steps) failure spot
  placed : failure.path = site.path ++ steps

theorem unplaced_of_start (refused : r.start e = .error failure) : failure.path = [] := by
  unfold start enter at refused
  split at refused
  · cases refused
    rfl
  · split at refused
    · cases refused
      rfl
    · split at refused
      · split at refused <;> cases refused
        rfl
      · cases refused
        rfl

theorem expand_of_started (started : r.start e = .ok (m, frame)) :
    r.expand e = r.renderSite (definitionSite e m frame) := by
  rw [expand_eq, started]
  rfl

theorem expand_of_refused (refused : r.start e = .error failure) : r.expand e = .error failure := by
  rw [expand_eq, refused]

/-- A call that fails makes its spot fail. -/
theorem failsAt_of_call {call : ModuleCall} {spot : Spot}
    (made : call ∈ spotCalls (r.callsIn frame) spot)
    (answer : call.answer (r.expandModule (.ofFrame frame)) = .error failure) :
    FailsAt (r.interpretIn frame) path (failure.orAt path) spot := by
  cases spot with
  | text source => exact renderString_eq_error_of_call made answer
  | key source =>
      rw [spotCalls, keyCalls] at made
      rw [FailsAt, renderKey]
      split at made
      · rename_i marked
        rw [if_pos marked, interpretIn, renderString_eq_error_of_call made answer]
      · simp at made
  | keys entries => simp [spotCalls] at made

/-- What makes a spot fail is its own, or a call that is made there. -/
theorem failure_of_failsAt {spot : Spot} (fails : FailsAt (r.interpretIn frame) path failure spot) :
    failure.path = path ∨ ∃ call ∈ spotCalls (r.callsIn frame) spot, ∃ cause,
      call.answer (r.expandModule (.ofFrame frame)) = .error cause ∧
        failure = cause.orAt path := by
  have of_string {source : String}
      (failed : r.interpretIn frame path source = .error failure) :
      failure.path = path ∨ ∃ call ∈ r.callsIn frame source, ∃ cause,
        call.answer (r.expandModule (.ofFrame frame)) = .error cause ∧
          failure = cause.orAt path :=
    (failure_of_renderString failed).imp_left And.left
  cases spot with
  | text source => exact of_string fails
  | key source =>
      rw [FailsAt, renderKey] at fails
      split at fails
      · rename_i marked
        rw [spotCalls, keyCalls, if_pos marked]
        split at fails
        · unfold textAt at fails
          split at fails
          · cases fails
          · cases fails
            exact .inl rfl
        · rename_i failed
          cases fails
          exact of_string failed
      · cases fails
  | keys entries =>
      obtain ⟨_, _, _, _, _, _, here⟩ := fails
      rw [here]
      exact .inl rfl

/-- The spot at which an expansion is asked for. If the expansion fails, so does the site. -/
theorem spot_of_expansion (asked : e ∈ r.expansionsOf site) :
    ∃ steps spot, Leads site.tree steps spot ∧
      e.toModuleCall ∈ spotCalls (r.callsIn site.frame) spot ∧
      ∀ cause, r.expand e = .error cause →
        r.renderSite site = .error (cause.orAt (site.path ++ steps)) := by
  obtain ⟨call, made, here⟩ := List.mem_map.mp asked
  obtain ⟨steps, spot, leads, listed, fails⟩ := spot_of_call site.path site.tree made
  rw [← here]
  refine ⟨steps, spot, leads, listed, ?_⟩
  intro cause failed
  exact fails _ (failsAt_of_call listed failed)

theorem renderSite_of_refused (asked : e ∈ r.expansionsOf site)
    (refused : r.start e = .error failure) :
    ∃ steps spot, Leads site.tree steps spot ∧
      e.toModuleCall ∈ spotCalls (r.callsIn site.frame) spot ∧
      r.renderSite site = .error ⟨failure.cause, site.path ++ steps⟩ := by
  obtain ⟨steps, spot, leads, listed, fails⟩ := spot_of_expansion asked
  refine ⟨steps, spot, leads, listed, ?_⟩
  rw [fails failure (expand_of_refused refused),
    RenderError.orAt_of_unplaced (unplaced_of_start refused)]

theorem renderSite_of_definition (asked : e ∈ r.expansionsOf site)
    (started : r.start e = .ok (m, frame))
    (failed : r.renderSite (definitionSite e m frame) = .error failure)
    (placed : failure.path ≠ []) : r.renderSite site = .error failure := by
  obtain ⟨steps, spot, _, _, fails⟩ := spot_of_expansion asked
  rw [fails failure ((expand_of_started started).trans failed), RenderError.orAt_of_placed placed]

/-- What a site fails with comes up there, or in a definition that is rendered for it. -/
theorem failure_of_renderSite (failed : r.renderSite site = .error failure) :
    (∃ steps spot, r.FailsIn site steps spot failure) ∨
      ∃ e ∈ r.expansionsOf site, ∃ m frame cause place, r.start e = .ok (m, frame) ∧
        r.renderSite (definitionSite e m frame) = .error cause ∧ failure = cause.orAt place := by
  obtain ⟨steps, spot, leads, fails, calls⟩ :=
    spot_of_failure (r.callsIn site.frame) site.path site.tree failed
  rcases failure_of_failsAt fails with own | ⟨call, made, cause, answer, placed⟩
  · exact .inl ⟨steps, spot, leads, fails, own⟩
  · let e : Expansion := { call with caller := .ofFrame site.frame }
    have asked : e ∈ r.expansionsOf site := List.mem_map_of_mem (calls made)
    have expanded : r.expand e = .error cause := answer
    cases started : r.start e with
    | error refusal =>
        rw [expand_of_refused started] at expanded
        cases expanded
        rw [RenderError.orAt_of_unplaced (unplaced_of_start started)] at placed
        refine .inl ⟨steps, spot, leads, fails, ?_⟩
        rw [placed]
    | ok entered =>
        obtain ⟨m, frame⟩ := entered
        rw [expand_of_started started] at expanded
        exact .inr ⟨e, asked, m, frame, cause, _, started, expanded, placed⟩

theorem Within.placed (within : r.Within site inner) (placed : site.path ≠ []) :
    inner.path ≠ [] := by
  induction within with
  | here => exact placed
  | deeper _ _ _ ih => exact ih (by simp [definitionSite])

/-- Places within definitions survive on the way out. -/
theorem renderSite_of_within (within : r.Within site inner)
    (failed : r.renderSite inner = .error failure) (placed : failure.path ≠ []) :
    r.renderSite site = .error failure := by
  induction within with
  | here => exact failed
  | deeper asked started _ ih => exact renderSite_of_definition asked started (ih failed) placed

theorem Within.definition (within : r.Within site inner) :
    inner = site ∨ ∃ id m frame, r.module? id = some m ∧
      inner = ⟨frame, ["modules", id], m.definition⟩ := by
  induction within with
  | here => exact .inl rfl
  | deeper _ started _ ih =>
      right
      rcases ih with rfl | found
      · exact ⟨_, _, _, (enter_eq_ok started).1, rfl⟩
      · exact found

/-- A failure is placed, given that those in the definitions are. -/
theorem exists_failsIn_of_definitions (failed : r.renderSite site = .error failure)
    (definitions : ∀ e ∈ r.expansionsOf site, ∀ m frame cause, r.start e = .ok (m, frame) →
      r.renderSite (definitionSite e m frame) = .error cause →
        ∃ inner steps spot, r.Within (definitionSite e m frame) inner ∧
          r.FailsIn inner steps spot cause) :
    ∃ inner steps spot, r.Within site inner ∧ r.FailsIn inner steps spot failure := by
  rcases failure_of_renderSite failed with
    ⟨steps, spot, here⟩ | ⟨e, asked, m, frame, cause, place, started, within, replaced⟩
  · exact ⟨site, steps, spot, .here site, here⟩
  · obtain ⟨inner, steps, spot, reached, fails⟩ :=
      definitions e asked m frame cause started within
    have placed : cause.path ≠ [] := by
      rw [fails.placed]
      simp [reached.placed (by simp [definitionSite])]
    rw [replaced, RenderError.orAt_of_placed placed]
    exact ⟨inner, steps, spot, .deeper asked started reached, fails⟩

/-- Induction over the expansions, each of which asks for those within it. -/
theorem exists_failsIn_of_started {failure : RenderError} (started : r.start e = .ok (m, frame))
    (failed : r.renderSite (definitionSite e m frame) = .error failure) :
    ∃ inner steps spot, r.Within (definitionSite e m frame) inner ∧
      r.FailsIn inner steps spot failure := by
  induction e using (wellFounded_inner r).induction generalizing m frame failure with
  | _ e ih =>
      apply exists_failsIn_of_definitions failed
      intro next asked n deep cause entered within
      exact ih next (mem_inner.mpr ⟨m, frame, started, asked⟩) entered within

theorem exists_failsIn (failed : r.renderSite site = .error failure) :
    ∃ inner steps spot, r.Within site inner ∧ r.FailsIn inner steps spot failure := by
  apply exists_failsIn_of_definitions failed
  intro e _ m frame cause started within
  exact exists_failsIn_of_started started within

/-- A value that is rendered at the place of a dotted text. -/
def outerSite (ctx : RenderContext) (base : String) (v : Value) : Site :=
  ⟨ctx.frame [], pathOfText base, v⟩

theorem failures_are_located (r : Renderer) (ctx : RenderContext) (base : String) (v : Value)
    (solid : Solid base) :
    (∀ failure, r.renderAt ctx (pathOfText base) v = .error failure →
      (∃ steps spot, r.FailsIn (outerSite ctx base v) steps spot failure ∧
        failure.location = ".".intercalate (base :: steps)) ∨
      ∃ id m frame steps spot, r.module? id = some m ∧
        r.Within (outerSite ctx base v) ⟨frame, ["modules", id], m.definition⟩ ∧
        r.FailsIn ⟨frame, ["modules", id], m.definition⟩ steps spot failure ∧
        failure.location = ".".intercalate ("modules" :: id :: steps)) ∧
    ∀ inner, r.Within (outerSite ctx base v) inner → ∀ e ∈ r.expansionsOf inner, ∀ refusal,
      r.start e = .error refusal → ∃ steps spot, Leads inner.tree steps spot ∧
        e.toModuleCall ∈ spotCalls (r.callsIn inner.frame) spot ∧
        r.renderAt ctx (pathOfText base) v = .error ⟨refusal.cause, inner.path ++ steps⟩ := by
  constructor
  · intro failure failed
    have outer_failed : r.renderSite (outerSite ctx base v) = .error failure := failed
    obtain ⟨inner, steps, spot, within, fails⟩ := exists_failsIn outer_failed
    rcases within.definition with rfl | ⟨id, m, frame, known, rfl⟩
    · refine .inl ⟨steps, spot, fails, ?_⟩
      rw [RenderError.location, fails.placed]
      exact intercalate_steps solid steps
    · refine .inr ⟨id, m, frame, steps, spot, known, within, fails, ?_⟩
      rw [RenderError.location, fails.placed]
      rfl
  · intro inner within e asked refusal refused
    obtain ⟨steps, spot, leads, listed, failed⟩ := renderSite_of_refused asked refused
    refine ⟨steps, spot, leads, listed, ?_⟩
    apply renderSite_of_within within failed
    have placed := within.placed (pathOfText_ne_nil solid)
    simp [placed]

/-- A module that calls one which there is none of. -/
def broken : Renderer where
  modules := [
    { id := "outer", definition := .list [.null, .string "\x7b\x7b module('gone') \x7d\x7d"] }]

/-- The call in the definition fails where it stands there, and the same call in a value where it
stands in the value. -/
theorem failures_are_located_broken :
    let base := "stages.build.config"
    let calls := Value.map [("tasks", .list [.string "\x7b\x7b module('outer') \x7d\x7d"])]
    let direct := Value.list [.string "\x7b\x7b module('gone') \x7d\x7d"]
    let failure : RenderError := ⟨.unknownReference "gone", ["modules", "outer", "1"]⟩
    Solid base ∧ broken.renderAt {} (pathOfText base) calls = .error failure ∧
      (∃ m frame spot, broken.module? "outer" = some m ∧
        broken.FailsIn ⟨frame, ["modules", "outer"], m.definition⟩ ["1"] spot failure) ∧
      ∃ steps spot, Leads direct steps spot ∧
        broken.renderAt {} (pathOfText base) direct =
          .error ⟨.unknownReference "gone", ["stages", "build", "config"] ++ steps⟩ := by
  intro base calls direct failure
  have solid : Solid base := by decide +kernel
  have failed : broken.renderAt {} (pathOfText base) calls = .error failure :=
    failure?_eq_some.mp (by decide +kernel)
  have path_eq : pathOfText base = ["stages", "build", "config"] := by decide +kernel
  refine ⟨solid, failed, ?_, ?_⟩
  · rcases (failures_are_located broken {} base calls solid).1 failure failed with
      ⟨steps, _, fails, _⟩ | ⟨id, m, frame, steps, spot, known, _, fails, _⟩
    · have placed := fails.placed
      simp [failure, outerSite, path_eq] at placed
    · have placed := fails.placed
      obtain ⟨rfl, rfl⟩ : "outer" = id ∧ ["1"] = steps := by simpa [failure] using placed
      exact ⟨m, frame, spot, known, fails⟩
  · have called : (broken.expansionsOf (outerSite {} base direct)).map (·.id) = ["gone"] := by
      decide +kernel
    obtain ⟨e, asked, gone⟩ := List.mem_map.mp (called ▸ List.mem_singleton_self "gone")
    have refused : broken.start e = .error { cause := .unknownReference "gone" } := by
      rw [start, enter, gone]
      rfl
    obtain ⟨steps, spot, leads, _, placed⟩ :=
      (failures_are_located broken {} base direct solid).2 _ (.here _) e asked _ refused
    refine ⟨steps, spot, leads, ?_⟩
    rw [placed, outerSite, path_eq]

end Renderer

end StagePlan
