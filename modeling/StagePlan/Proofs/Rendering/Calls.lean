import StagePlan.Proofs.Success
import StagePlan.Rendering.Renderer

namespace StagePlan

open Expression

/-!
Which modules a rendering asks for. The calls of a script, a template, a string and a tree are
traced in the order in which they are made, up to the first one that fails. A rendering depends on
modules through its calls alone: it comes out the same for modules that answer these calls alike,
and a call that fails makes the rendering fail for the same cause.
-/

/-- A module with the arguments that it is called with. -/
structure ModuleCall where
  id : String
  arguments : Bindings Value

/-- What a call comes to. -/
def ModuleCall.answer {ε : Type} (call : ModuleCall)
    (modules : String → Bindings Value → Except ε Value) : Except ε Value :=
  modules call.id call.arguments

/-- A call that fails for the given cause. -/
def ModuleCall.FailsFor (call : ModuleCall) (modules : Rendering.Invoke) (cause : RenderCause) :
    Prop :=
  ∃ e, call.answer modules = .error e ∧ e.cause = cause

/-- A rendering that fails for the given cause. -/
def FailsFor {α : Type} (result : Except RenderError α) (cause : RenderCause) : Prop :=
  ∃ e, result = .error e ∧ e.cause = cause

@[simp] theorem failsFor_error {α : Type} (e : RenderError) (cause : RenderCause) :
    FailsFor (.error e : Except RenderError α) cause ↔ e.cause = cause := by
  simp [FailsFor]

@[simp] theorem not_failsFor_ok {α : Type} (value : α) (cause : RenderCause) :
    ¬ FailsFor (.ok value : Except RenderError α) cause := by
  simp [FailsFor]

instance {α : Type} (result : Except RenderError α) (cause : RenderCause) :
    Decidable (FailsFor result cause) :=
  match result with
  | .ok value => .isFalse (not_failsFor_ok value cause)
  | .error e => decidable_of_iff _ (failsFor_error e cause).symm

/-- Causes that come up where modules are called, and nowhere else: a ring of modules, or a chain
of them that has become too long. -/
inductive Runaway : RenderCause → Prop
  | ring (chain : List String) : Runaway (.moduleCycle chain)
  | tooDeep (limit : Nat) : Runaway (.recursionLimit limit)

theorem runaway_iff {cause : RenderCause} :
    Runaway cause ↔ (∃ chain, cause = .moduleCycle chain) ∨ ∃ limit, cause = .recursionLimit limit := by
  constructor
  · intro runaway
    cases runaway with
    | ring chain => exact .inl ⟨chain, rfl⟩
    | tooDeep limit => exact .inr ⟨limit, rfl⟩
  · intro either
    rcases either with ⟨chain, rfl⟩ | ⟨limit, rfl⟩
    · exact .ring chain
    · exact .tooDeep limit

namespace Expression.Script

variable {α ε : Type} {modules others : String → Bindings Value → Except ε Value}
  {failed : Fault → Option Place → ε} {script : Script α}

/-- The calls that a script makes while it runs. -/
def calls (modules : String → Bindings Value → Except ε Value) : Script α → List ModuleCall
  | .done _ | .fail .. => []
  | .invoke id arguments next =>
      ⟨id, arguments⟩ ::
        match modules id arguments with
        | .ok value => (next value).calls modules
        | .error _ => []

theorem run_eq_of_calls
    (agree : ∀ call ∈ script.calls modules, call.answer others = call.answer modules) :
    script.run others failed = script.run modules failed := by
  induction script with
  | done result => rfl
  | fail fault place? => rfl
  | invoke id arguments next ih =>
      rw [calls] at agree
      obtain ⟨first, later⟩ := List.forall_mem_cons.mp agree
      have same : others id arguments = modules id arguments := first
      simp only [run, same]
      cases answer : modules id arguments with
      | error reason => rfl
      | ok value => exact ih value (by simpa only [answer] using later)

theorem run_eq_error_of_call {call : ModuleCall} (made : call ∈ script.calls modules) {e : ε}
    (fails : call.answer modules = .error e) : script.run modules failed = .error e := by
  induction script with
  | done result => simp [calls] at made
  | fail fault place? => simp [calls] at made
  | invoke id arguments next ih =>
      cases answer : modules id arguments with
      | error reason =>
          obtain rfl : call = ⟨id, arguments⟩ := by simpa [calls, answer] using made
          simp only [run, answer]
          exact congrArg _ (Except.error.inj (answer.symm.trans fails))
      | ok value =>
          simp only [calls, answer, List.mem_cons] at made
          rcases made with rfl | later
          · exact absurd (answer.symm.trans fails) (by simp)
          · simpa only [run, answer] using ih value later

theorem call_of_run_eq_error {e : ε} (fails : script.run modules failed = .error e) :
    (∃ fault place?, e = failed fault place?) ∨
      ∃ call ∈ script.calls modules, call.answer modules = .error e := by
  induction script with
  | done result => cases fails
  | fail fault place? =>
      cases fails
      exact .inl ⟨fault, place?, rfl⟩
  | invoke id arguments next ih =>
      simp only [run] at fails
      cases answer : modules id arguments with
      | error reason =>
          rw [answer] at fails
          cases fails
          exact .inr ⟨⟨id, arguments⟩, by simp [calls], answer⟩
      | ok value =>
          rw [answer] at fails
          rcases ih value fails with own | ⟨call, made, failure⟩
          · exact .inl own
          · refine .inr ⟨call, ?_, failure⟩
            simpa [calls, answer] using .inr made

/-- Placing the failures of calls leaves the calls as they are. -/
theorem calls_mapError {ε' : Type} (place : ε → ε') :
    script.calls (fun id arguments => (modules id arguments).mapError place) =
      script.calls modules := by
  induction script with
  | done result => rfl
  | fail fault place? => rfl
  | invoke id arguments next ih =>
      simp only [calls]
      cases modules id arguments with
      | error reason => rfl
      | ok value => exact congrArg _ (ih value)

end Expression.Script

namespace Rendering

variable {library : Library} {invoke others : Invoke} {visible : Bindings Value}
  {path : List String} {cause : RenderCause}

theorem cause_orAt (e : RenderError) : (e.orAt path).cause = e.cause := by
  unfold RenderError.orAt
  split <;> rfl

/-- The calls of a template. -/
def templateCalls (library : Library) (invoke : Invoke) (visible : Bindings Value)
    (source : List Char) : List ModuleCall :=
  match readBody source with
  | .error _ => []
  | .ok body => (writeTemplate library visible body).calls invoke

theorem renderTemplate_eq_of_calls {source : List Char} {whole? : Option (List Char)}
    (agree : ∀ call ∈ templateCalls library invoke visible source,
      call.answer others = call.answer invoke) :
    renderTemplate library others visible path source whole? =
      renderTemplate library invoke visible path source whole? := by
  unfold renderTemplate
  unfold templateCalls at agree
  split
  · rfl
  · rfl
  · rename_i body read
    rw [read] at agree
    apply Script.run_eq_of_calls
    rw [Script.calls_mapError]
    intro call made
    exact congrArg (Except.mapError _) (agree call made)

/-- A call that fails makes the template fail alike, at the place of the template if the failure has
none. -/
theorem renderTemplate_eq_error_of_call {source : List Char} {whole? : Option (List Char)}
    {call : ModuleCall} {e : RenderError}
    (made : call ∈ templateCalls library invoke visible source)
    (answer : call.answer invoke = .error e) :
    renderTemplate library invoke visible path source whole? = .error (e.orAt path) := by
  unfold templateCalls at made
  unfold renderTemplate
  split at made
  · simp at made
  · rename_i body read
    rw [read]
    have placed := made
    rw [← Script.calls_mapError (RenderError.orAt path)] at placed
    exact Script.run_eq_error_of_call placed (congrArg (Except.mapError _) answer)

theorem not_runaway_causeOf {source : List Char} {whole? : Option (List Char)} {fault : Fault}
    {place? : Option Place} : ¬ Runaway (causeOf source whole? fault place?) := by
  cases fault <;> simp [runaway_iff, causeOf]

/-- What makes a template fail: a fault of its own, which is at its place, or a call. -/
theorem failure_of_renderTemplate {source : List Char} {whole? : Option (List Char)}
    {e : RenderError}
    (failed : renderTemplate library invoke visible path source whole? = .error e) :
    (e.path = path ∧ ¬ Runaway e.cause) ∨
      ∃ call ∈ templateCalls library invoke visible source, ∃ inner,
        call.answer invoke = .error inner ∧ e = inner.orAt path := by
  unfold renderTemplate at failed
  unfold templateCalls
  split at failed
  · cases failed
    exact .inl ⟨rfl, by simp [runaway_iff]⟩
  · cases failed
    exact .inl ⟨rfl, by simp [runaway_iff]⟩
  · rename_i body read
    rw [read]
    rcases Script.call_of_run_eq_error failed with ⟨fault, place?, own⟩ | ⟨call, made, answer⟩
    · rw [own]
      exact .inl ⟨rfl, not_runaway_causeOf⟩
    · rw [Script.calls_mapError] at made
      obtain ⟨inner, given, placed⟩ := mapError_eq_error.mp answer
      exact .inr ⟨call, made, inner, given, placed.symm⟩

/-- The calls of a string. -/
def stringCalls (library : Library) (invoke : Invoke) (visible : Bindings Value)
    (source : String) : List ModuleCall :=
  if !Markup.hasMarkers source then []
  else
    match Markup.expandTags source.toList with
    | .error _ => []
    | .ok expanded =>
        match Markup.wholeExpression? expanded with
        | some expression => templateCalls library invoke visible (documentTemplate expression)
        | none => templateCalls library invoke visible expanded

theorem renderString_eq_of_calls {source : String}
    (agree : ∀ call ∈ stringCalls library invoke visible source,
      call.answer others = call.answer invoke) :
    renderString library others visible path source =
      renderString library invoke visible path source := by
  unfold stringCalls at agree
  unfold renderString
  split
  · rfl
  · rename_i marked
    rw [if_neg marked] at agree
    split
    · rfl
    · rename_i expanded tags
      rw [tags] at agree
      dsimp only at agree
      split
      · rename_i expression whole
        rw [whole] at agree
        rw [renderTemplate_eq_of_calls agree]
      · rename_i whole
        rw [whole] at agree
        rw [renderTemplate_eq_of_calls agree]

/-- A call that fails makes the string fail alike, at the place of the string if the failure has
none. -/
theorem renderString_eq_error_of_call {source : String} {call : ModuleCall} {e : RenderError}
    (made : call ∈ stringCalls library invoke visible source)
    (answer : call.answer invoke = .error e) :
    renderString library invoke visible path source = .error (e.orAt path) := by
  unfold stringCalls at made
  unfold renderString
  by_cases marked : (!Markup.hasMarkers source) = true
  · simp [marked] at made
  · rw [if_neg marked] at made ⊢
    cases tags : Markup.expandTags source.toList with
    | error fault => simp [tags] at made
    | ok expanded =>
        simp only [tags] at made
        cases whole : Markup.wholeExpression? expanded with
        | some expression =>
            simp only [whole] at made
            simp only [whole, renderTemplate_eq_error_of_call made answer]
        | none =>
            simp only [whole] at made
            simp only [whole, renderTemplate_eq_error_of_call made answer]

theorem renderString_fails {source : String} {call : ModuleCall}
    (made : call ∈ stringCalls library invoke visible source)
    (fails : call.FailsFor invoke cause) :
    FailsFor (renderString library invoke visible path source) cause := by
  obtain ⟨e, answer, same⟩ := fails
  exact ⟨e.orAt path, renderString_eq_error_of_call made answer, (cause_orAt e).trans same⟩

/-- What makes a string fail: a fault of its own, which is at its place, or a call. -/
theorem failure_of_renderString {source : String} {e : RenderError}
    (failed : renderString library invoke visible path source = .error e) :
    (e.path = path ∧ ¬ Runaway e.cause) ∨
      ∃ call ∈ stringCalls library invoke visible source, ∃ inner,
        call.answer invoke = .error inner ∧ e = inner.orAt path := by
  unfold stringCalls
  unfold renderString at failed
  by_cases marked : (!Markup.hasMarkers source) = true
  · rw [if_pos marked] at failed
    cases failed
  · rw [if_neg marked] at failed ⊢
    cases tags : Markup.expandTags source.toList with
    | error fault =>
        simp only [tags] at failed
        cases failed
        exact .inl ⟨rfl, by simp [runaway_iff]⟩
    | ok expanded =>
        simp only [tags] at failed ⊢
        cases whole : Markup.wholeExpression? expanded with
        | some expression =>
            simp only [whole] at failed ⊢
            split at failed
            · rename_i inner rendered
              cases failed
              exact failure_of_renderTemplate rendered
            · split at failed
              · cases failed
              · cases failed
                exact .inl ⟨rfl, by simp [runaway_iff]⟩
        | none =>
            simp only [whole] at failed ⊢
            split at failed
            · cases failed
            · rename_i inner rendered
              cases failed
              exact failure_of_renderTemplate rendered

theorem call_of_renderString_fails {source : String} (runaway : Runaway cause)
    (fails : FailsFor (renderString library invoke visible path source) cause) :
    ∃ call ∈ stringCalls library invoke visible source, call.FailsFor invoke cause := by
  obtain ⟨e, failed, same⟩ := fails
  rw [← same] at runaway ⊢
  rcases failure_of_renderString failed with ⟨_, harmless⟩ | ⟨call, made, inner, answer, placed⟩
  · exact absurd runaway harmless
  · rw [placed, cause_orAt]
    exact ⟨call, made, inner, answer, rfl⟩

end Rendering

end StagePlan
