import StagePlan.Expression.Execution
import StagePlan.Proofs.Expression.Marks

namespace StagePlan.Expression

/-!
Evaluations of expressions that differ in their marks alone. Marks tell failures where they are, and
evaluation does not look at them otherwise, so that such expressions do the same. On the way it
shows that an evaluation binds no names and makes no macros, whatever the expression is.
-/

namespace Script

variable {α β γ δ : Type} {R : α → β → Prop} {S : γ → δ → Prop}

instance : LawfulMonad Script :=
  .mk' Script (fun script => bind_done script) (fun _ _ => rfl) bind_assoc

/-- Scripts that do the same and fail for the same reasons, each at places of its own. -/
inductive Alike (R : α → β → Prop) : Script α → Script β → Prop
  | done {a : α} {b : β} (related : R a b) : Alike R (.done a) (.done b)
  | fail (fault : Fault) (place? other? : Option Place) :
      Alike R (.fail fault place?) (.fail fault other?)
  | invoke {id : String} {arguments : Bindings Value} {next : Value → Script α}
      {other : Value → Script β} (later : ∀ value, Alike R (next value) (other value)) :
      Alike R (.invoke id arguments next) (.invoke id arguments other)

namespace Alike

theorem bind {first : Script α} {other : Script β} {next : α → Script γ} {after : β → Script δ}
    (alike : Alike R first other) (others : ∀ a b, R a b → Alike S (next a) (after b)) :
    Alike S (first.bind next) (other.bind after) := by
  induction alike with
  | done related => exact others _ _ related
  | fail fault place? other? => exact .fail fault place? other?
  | invoke later ih => exact .invoke ih

theorem mono {R' : α → β → Prop} {first : Script α} {other : Script β}
    (alike : Alike R first other) (weaker : ∀ a b, R a b → R' a b) : Alike R' first other := by
  induction alike with
  | done related => exact .done (weaker _ _ related)
  | fail fault place? other? => exact .fail fault place? other?
  | invoke later ih => exact .invoke ih

theorem symm {first : Script α} {other : Script β} (alike : Alike R first other) :
    Alike (fun b a => R a b) other first := by
  induction alike with
  | done related => exact .done related
  | fail fault place? other? => exact .fail fault other? place?
  | invoke later ih => exact .invoke ih

theorem trans {Q : β → γ → Prop} {first : Script α} {mid : Script β} {last : Script γ}
    (alike : Alike R first mid) (also : Alike Q mid last) :
    Alike (fun a c => ∃ b, R a b ∧ Q b c) first last := by
  induction alike generalizing last with
  | done related =>
      cases also with
      | done other => exact .done ⟨_, related, other⟩
  | fail fault place? other? =>
      cases also
      exact .fail fault place? _
  | invoke later ih =>
      cases also with
      | invoke others => exact .invoke fun value => ih value (others value)

/-- After a script only its results are looked at. -/
theorem bind_congr {first : Script α} {other : Script β} (alike : Alike R first other)
    {next after : α → Script γ} (same : ∀ a b, R a b → next a = after a) :
    first.bind next = first.bind after := by
  induction alike with
  | done related => exact same _ _ related
  | fail fault place? other? => rfl
  | invoke later ih => exact congrArg (Script.invoke _ _) (funext ih)

/-- Either both succeed, or both fail for a reason of their own, or the same module fails in both. -/
theorem run_cases {ε : Type} {first : Script α} {other : Script β} (alike : Alike R first other)
    (modules : String → Bindings Value → Except ε Value) (failed failed' : Fault → Option Place → ε) :
    (∃ a b, R a b ∧ first.run modules failed = .ok a ∧ other.run modules failed' = .ok b) ∨
      (∃ fault place? other?, first.run modules failed = .error (failed fault place?) ∧
        other.run modules failed' = .error (failed' fault other?)) ∨
      ∃ e, first.run modules failed = .error e ∧ other.run modules failed' = .error e := by
  induction alike with
  | done related => exact .inl ⟨_, _, related, rfl, rfl⟩
  | fail fault place? other? => exact .inr (.inl ⟨fault, place?, other?, rfl, rfl⟩)
  | @invoke id arguments next other later ih =>
      simp only [run]
      cases modules id arguments with
      | ok value => exact ih value
      | error e => exact .inr (.inr ⟨e, rfl, rfl⟩)

end Alike

end Script

/-- The store lies on a scope alone: there are no names but those of the scope, and no macros. -/
structure Store.Over (scope : Bindings Value) (store : Store) : Prop where
  frames : store.frames = (Store.ofScope scope).frames
  macros : store.macros = #[]

theorem Store.over_ofScope (scope : Bindings Value) : (Store.ofScope scope).Over scope :=
  ⟨rfl, rfl⟩

namespace Store.Over

variable {scope : Bindings Value} {store : Store}

theorem find? (based : store.Over scope) (name : String) :
    store.find? name = (Bindings.find? name scope).map (Dynamic.ofValueAt (.scope name [])) := by
  rw [Store.find?, based.frames]
  simp only [ofScope, findIn, Ground.find?, Bindings.find?, Option.or_none]

theorem currentLoop? (based : store.Over scope) : store.currentLoop? = none := by
  rw [Store.currentLoop?, based.frames]
  rfl

theorem found (based : store.Over scope) (v : Dynamic) : (store.found v).2.Over scope := by
  unfold Store.found
  split
  · exact ⟨based.frames, based.macros⟩
  · exact ⟨based.frames, based.macros⟩
  · exact based

theorem assign (based : store.Over scope) (index : Nat) (name : String) (v : Dynamic) :
    (store.assign index name v).Over scope :=
  ⟨(based.found v).frames, (based.found v).macros⟩

end Store.Over

namespace Eval

variable {α β : Type} {scope : Bindings Value}

/-- Evaluations that do the same over a scope, and bind no names there. -/
def Alike (scope : Bindings Value) (first other : Eval α) : Prop :=
  ∀ store : Store, store.Over scope →
    Script.Alike (fun a b => a = b ∧ a.2.Over scope) (first.run store) (other.run store)

namespace Alike

theorem pure (result : α) : Alike scope (Pure.pure result) (Pure.pure result) :=
  fun _ based => .done ⟨rfl, based⟩

theorem bind {first other : Eval α} {next after : α → Eval β} (alike : Alike scope first other)
    (others : ∀ result, Alike scope (next result) (after result)) :
    Alike scope (first >>= next) (other >>= after) := by
  intro store based
  refine (alike store based).bind ?_
  rintro ⟨result, store'⟩ _ ⟨rfl, based'⟩
  exact others result store' based'

theorem fail (fault : Fault) (place other : Place) :
    Alike scope (Eval.fail fault place : Eval α) (Eval.fail fault other) :=
  fun _ _ => .fail fault _ _

theorem symm {first other : Eval α} (alike : Alike scope first other) :
    Alike scope other first := by
  intro store based
  refine (alike store based).symm.mono ?_
  rintro _ _ ⟨rfl, based'⟩
  exact ⟨rfl, based'⟩

theorem trans {first mid last : Eval α} (alike : Alike scope first mid)
    (also : Alike scope mid last) : Alike scope first last := by
  intro store based
  refine ((alike store based).trans (also store based)).mono ?_
  rintro _ _ ⟨_, ⟨rfl, based'⟩, rfl, -⟩
  exact ⟨rfl, based'⟩

theorem lift (place other : Place) (result : Except Fault α) :
    Alike scope (Eval.lift place result) (Eval.lift other result) := by
  cases result with
  | ok result => exact pure result
  | error fault => exact fail fault place other

theorem get : Alike scope (MonadState.get : Eval Store) MonadState.get :=
  fun _ based => .done ⟨rfl, based⟩

/-- What is known of the store may be used after it has been looked at. -/
theorem get_bind {next after : Store → Eval β}
    (others : ∀ store, store.Over scope → Alike scope (next store) (after store)) :
    Alike scope (MonadState.get >>= next) (MonadState.get >>= after) :=
  fun store based => others store based store based

theorem set {store : Store} (based : store.Over scope) :
    Alike scope (MonadStateOf.set store : Eval PUnit) (MonadStateOf.set store) :=
  fun _ _ => .done ⟨rfl, based⟩

theorem modify {change : Store → Store}
    (keeps : ∀ store, store.Over scope → (change store).Over scope) :
    Alike scope (modifyThe Store change : Eval PUnit) (modifyThe Store change) :=
  fun store based => .done ⟨rfl, keeps store based⟩

theorem plain (v : Dynamic) : Alike scope (Eval.plain v) (Eval.plain v) :=
  bind get fun store => pure (store.plain v)

theorem decided (place other : Place) (v : Dynamic) :
    Alike scope (Eval.decided place v) (Eval.decided other v) := by
  unfold Eval.decided
  split
  · exact fail .undefined place other
  · exact bind (plain v) fun result => pure result.isTruthy

theorem mapM {step change : α → Eval β} (each : ∀ item, Alike scope (step item) (change item)) :
    ∀ items : List α, Alike scope (items.mapM step) (items.mapM change)
  | [] => pure []
  | item :: rest => by
      rw [List.mapM_cons, List.mapM_cons]
      exact bind (each item) fun first => bind (mapM each rest) fun others => pure (first :: others)

theorem foldlM {step change : β → α → Eval β}
    (each : ∀ start item, Alike scope (step start item) (change start item)) :
    ∀ (items : List α) (start : β), Alike scope (items.foldlM step start) (items.foldlM change start)
  | [], start => pure start
  | item :: rest, start => by
      rw [List.foldlM_cons, List.foldlM_cons]
      exact bind (each start item) fun next => foldlM each rest next

end Alike

end Eval

/-! Calls. What is evaluated again from within itself does not matter here, as only macros, loops
and blocks are. -/

section Calls

open Eval

variable {scope : Bindings Value} {scene : Scene} (place other : Place) (given : List Dynamic)

/-- Whatever a scene evaluates again, it does so in the same way over the scope. -/
def Scene.Settled (scene : Scene) (scope : Bindings Value) : Prop :=
  ∀ entry, Eval.Alike scope (scene.again entry) (scene.again entry)

theorem alike_lookUp (name : String) : Alike scope (lookUp scene name) (lookUp scene name) := by
  refine .get_bind fun store _ => ?_
  split <;> exact .pure _

theorem alike_module (id : String) (arguments : Bindings Value) :
    Alike scope (Eval.module id arguments) (Eval.module id arguments) :=
  fun _ based => .invoke fun _ => .done ⟨rfl, based⟩

theorem alike_callModule : Alike scope (callModule place given) (callModule other given) := by
  unfold callModule
  generalize Arguments.splitNamed given = parts
  obtain ⟨positional, named⟩ := parts
  dsimp only
  split
  · split
    · exact .fail .moduleName place other
    · refine .bind (.foldlM (fun arguments entry => ?_) _ _) fun arguments => ?_
      · split
        · exact .pure arguments
        · exact .bind (.lift place other _) fun value => .pure _
      · exact .bind (alike_module _ arguments) fun value => .pure _
  · exact .fail .operation place other

theorem alike_makeRecord : Alike scope (makeRecord place given) (makeRecord other given) := by
  unfold makeRecord
  refine .bind (.lift place other _) fun entries => .get_bind fun store _ => ?_
  refine .bind (.modify fun store based => ?_) fun _ => .pure _
  have pushed : { store with records := store.records.push [] }.Over scope :=
    ⟨based.frames, based.macros⟩
  revert pushed
  generalize { store with records := store.records.push [] } = start
  induction entries generalizing start with
  | nil => exact id
  | cons entry rest ih => exact fun based => ih _ (based.assign _ _ _)

theorem alike_callFunction (name : String) :
    Alike scope (callFunction scene place name given) (callFunction scene other name given) := by
  unfold callFunction
  split
  · exact .bind (.mapM .plain given) fun plain => alike_callModule place other plain
  · split
    · exact .bind (.mapM .plain given) fun plain => .lift place other _
    · split
      · exact .bind (.mapM .plain given) fun plain => .lift place other _
      · split
        · exact alike_makeRecord place other given
        · exact .fail .operation place other

theorem alike_callValue (settled : scene.Settled scope) (v : Dynamic) :
    Alike scope (callValue scene place v given) (callValue scene other v given) := by
  unfold callValue
  split
  · exact alike_callFunction place other given _
  · exact settled _
  · exact .fail .operation place other

theorem alike_callName (settled : scene.Settled scope) (name : String) :
    Alike scope (callName scene place name given) (callName scene other name given) := by
  unfold callName
  split
  · exact .fail .operation place other
  · split
    · split
      · refine .get_bind fun store _ => ?_
        split
        · exact settled _
        · exact .fail _ place other
      · exact .fail .operation place other
    · refine .bind (alike_lookUp name) fun found => ?_
      split
      · exact alike_callValue place other given settled _
      · exact .fail _ place other

theorem alike_callLoop (index : Nat) (name : String) :
    Alike scope (callLoop place index name given) (callLoop other index name given) := by
  unfold callLoop
  refine .get_bind fun store based => ?_
  dsimp only
  split
  · split
    · exact .pure _
    · exact .fail .operation place other
  · split
    all_goals
      split
      · exact .bind (.set ⟨based.frames, based.macros⟩) fun _ => .pure _
      · exact .pure _
  · exact .fail .operation place other

theorem alike_callMethod (settled : scene.Settled scope) (base : Dynamic) (name : String) :
    Alike scope (callMethod scene place base name given)
      (callMethod scene other base name given) := by
  unfold callMethod
  split
  · exact alike_callLoop place other given _ name
  · split
    all_goals
      first
      | exact .fail .operation place other
      | refine .get_bind fun store _ => ?_
        split
        · exact alike_callValue place other given settled _
        · exact .fail .operation place other

theorem alike_assembled (written : List (ArgumentKind × Dynamic)) :
    Alike scope (assembled place written) (assembled other written) :=
  .get_bind fun _ _ => .lift place other _

theorem alike_perform (settled : scene.Settled scope) (callee : Callee Dynamic)
    (written : List (ArgumentKind × Dynamic)) :
    Alike scope (perform scene place callee written) (perform scene other callee written) := by
  refine .bind (alike_assembled place other written) fun given => ?_
  split
  · exact alike_callName place other given settled _
  · exact settled _
  · exact alike_callMethod place other given settled _ _
  · exact alike_callValue place other given settled _

end Calls

namespace Expr

open Eval

variable {scope : Bindings Value} {scene : Scene}

mutual

/-- Induction on the expression: its parts are evaluated one after the other, and what is made of
their values depends on the store, but on no mark. -/
theorem evaluate_bare (settled : scene.Settled scope) :
    ∀ e : Expr Place, Alike scope (e.evaluate scene) (e.bare.evaluate scene)
  | .variable place name => by
      rw [bare, evaluate, evaluate]
      exact .bind (alike_lookUp name) fun found => .pure _
  | .literal place value => by
      rw [bare, evaluate, evaluate]
      exact .pure _
  | .blockText place => by
      rw [bare, evaluate, evaluate]
      exact .pure _
  | .negate place operand => by
      rw [bare, evaluate, evaluate]
      exact .bind (evaluate_bare settled operand) fun v => .lift place _ _
  | .not place operand => by
      rw [bare, evaluate, evaluate]
      refine .bind (evaluate_bare settled operand) fun v => ?_
      exact .bind (.decided place _ v) fun holds => .pure _
  | .binary place operator left right => by
      cases operator
      case and =>
        rw [bare, evaluate, evaluate]
        refine .bind (evaluate_bare settled left) fun v => ?_
        refine .bind (.decided place _ v) fun holds => ?_
        split
        · exact evaluate_bare settled right
        · exact .pure v
      case or =>
        rw [bare, evaluate, evaluate]
        refine .bind (evaluate_bare settled left) fun v => ?_
        refine .bind (.decided place _ v) fun holds => ?_
        split
        · exact .pure v
        · exact evaluate_bare settled right
      all_goals
        rw [bare, evaluate, evaluate]
        · refine .bind (evaluate_bare settled left) fun a => ?_
          refine .bind (evaluate_bare settled right) fun b => ?_
          exact .bind (.plain a) fun a => .bind (.plain b) fun b => .lift place _ _
        all_goals nofun
  | .compared place first links => by
      rw [bare, evaluate, evaluate]
      exact .bind (evaluate_bare settled first) fun left => evaluateLinks_bare settled left links
  | .choice place condition yes no => by
      rw [bare, evaluate, evaluate]
      refine .bind (evaluate_bare settled condition) fun v => ?_
      refine .bind (.decided place _ v) fun holds => ?_
      split
      · exact evaluate_bare settled yes
      · exact evaluate_bare settled no
  | .field place base name => by
      rw [bare, evaluate, evaluate]
      refine .bind (evaluate_bare settled base) fun v => ?_
      exact .bind (.plain v) fun v => .lift place _ _
  | .item place base index => by
      rw [bare, evaluate, evaluate]
      refine .bind (evaluate_bare settled base) fun v => ?_
      refine .bind (evaluate_bare settled index) fun key => ?_
      exact .bind (.plain v) fun v => .bind (.plain key) fun key => .lift place _ _
  | .slice place base start stop step => by
      rw [bare, evaluate, evaluate]
      refine .bind (evaluate_bare settled base) fun v => ?_
      refine .bind (evaluate_bare settled start) fun low => ?_
      refine .bind (evaluate_bare settled stop) fun high => ?_
      refine .bind (evaluate_bare settled step) fun stride => ?_
      exact .bind (.plain v) fun v => .lift place _ _
  | .call place callee arguments => by
      rw [bare, evaluate, evaluate]
      refine .bind (evaluateCallee_bare settled callee) fun called => ?_
      split
      · exact .bind (.pure []) fun given => alike_perform place _ settled called given
      · refine .bind (evaluateArguments_bare settled arguments) fun given => ?_
        exact alike_perform place _ settled called given
  | .filter place name input arguments => by
      rw [bare, evaluate, evaluate]
      refine .bind (evaluate_bare settled input) fun v => ?_
      refine .bind (evaluateArguments_bare settled arguments) fun written => ?_
      refine .bind (alike_assembled place _ written) fun given => ?_
      exact .bind (.plain v) fun v => .bind (.mapM .plain given) fun given => .lift place _ _
  | .test place name input arguments => by
      rw [bare, evaluate, evaluate]
      refine .bind (evaluate_bare settled input) fun v => ?_
      refine .bind (evaluateArguments_bare settled arguments) fun written => ?_
      refine .bind (alike_assembled place _ written) fun given => ?_
      refine .bind (.plain v) fun v => .bind (.mapM .plain given) fun given => ?_
      exact .bind (.lift place _ _) fun holds => .pure _
  | .list place items => by
      rw [bare, evaluate, evaluate]
      exact .bind (evaluateItems_bare settled items) fun values => .pure _
  | .map place entries => by
      rw [bare, evaluate, evaluate]
      exact .bind (evaluateEntries_bare settled entries) fun pairs => .pure _

theorem evaluateLinks_bare (settled : scene.Settled scope) (left : Dynamic) :
    ∀ links : List (Place × Operator × Expr Place),
      Alike scope (evaluateLinks scene left links) (evaluateLinks scene left (bareLinks links))
  | [] => by
      rw [bareLinks, evaluateLinks]
      exact .pure _
  | (place, operator, next) :: rest => by
      rw [bareLinks, evaluateLinks, evaluateLinks]
      refine .bind (evaluate_bare settled next) fun right => ?_
      refine .bind (.plain left) fun a => .bind (.plain right) fun b => ?_
      refine .bind (.lift place _ _) fun answer => ?_
      split
      · exact evaluateLinks_bare settled right rest
      · exact .pure answer

theorem evaluateCallee_bare (settled : scene.Settled scope) :
    ∀ callee : Callee (Expr Place),
      Alike scope (evaluateCallee scene callee) (evaluateCallee scene (bareCallee callee))
  | .function name | .block name => by
      rw [bareCallee, evaluateCallee]
      exact .pure _
  | .method base name => by
      rw [bareCallee, evaluateCallee, evaluateCallee]
      exact .bind (evaluate_bare settled base) fun v => .pure _
  | .value callee => by
      rw [bareCallee, evaluateCallee, evaluateCallee]
      exact .bind (evaluate_bare settled callee) fun v => .pure _

theorem evaluateArguments_bare (settled : scene.Settled scope) :
    ∀ arguments : List (ArgumentKind × Expr Place),
      Alike scope (evaluateArguments scene arguments)
        (evaluateArguments scene (bareArguments arguments))
  | [] => by
      rw [bareArguments, evaluateArguments]
      exact .pure _
  | (kind, value) :: rest => by
      rw [bareArguments, evaluateArguments, evaluateArguments]
      refine .bind (evaluate_bare settled value) fun v => ?_
      exact .bind (evaluateArguments_bare settled rest) fun others => .pure _

theorem evaluateItems_bare (settled : scene.Settled scope) :
    ∀ items : List (Expr Place),
      Alike scope (evaluateItems scene items) (evaluateItems scene (bareItems items))
  | [] => by
      rw [bareItems, evaluateItems]
      exact .pure _
  | first :: rest => by
      rw [bareItems, evaluateItems, evaluateItems]
      refine .bind (evaluate_bare settled first) fun v => ?_
      exact .bind (evaluateItems_bare settled rest) fun others => .pure _

theorem evaluateEntries_bare (settled : scene.Settled scope) :
    ∀ entries : List (Expr Place × Expr Place),
      Alike scope (evaluateEntries scene entries) (evaluateEntries scene (bareEntries entries))
  | [] => by
      rw [bareEntries, evaluateEntries]
      exact .pure _
  | (key, value) :: rest => by
      rw [bareEntries, evaluateEntries, evaluateEntries]
      refine .bind (evaluate_bare settled key) fun k => ?_
      refine .bind (evaluate_bare settled value) fun v => ?_
      exact .bind (evaluateEntries_bare settled rest) fun others => .pure _

end

/-- Expressions that differ in their marks alone evaluate alike. -/
theorem evaluate_of_bare (settled : scene.Settled scope) {e other : Expr Place}
    (same : e.bare = other.bare) : Alike scope (e.evaluate scene) (other.evaluate scene) :=
  (evaluate_bare settled e).trans (same ▸ (evaluate_bare settled other).symm)

end Expr

end StagePlan.Expression
