import Mathlib.Order.WellFounded
import StagePlan.Graph.Order
import StagePlan.Proofs.Graph.Reachability

namespace StagePlan.Graph

/-!
The order of an acyclic list holds every stage once, behind all on which it depends.
-/

variable {stages waiting : List Stage}

theorem isReady_iff {stage : Stage} :
    isReady waiting stage = true ↔ ∀ id ∈ stage.dependsOn, id ∉ waiting.map (·.id) := by
  simp [isReady]

theorem takeReady?_eq_some {listed others : List Stage} {ready : Stage}
    (taken : takeReady? waiting listed = some (ready, others)) :
    ∃ skipped rest, listed = skipped ++ ready :: rest ∧ others = skipped ++ rest ∧
      isReady waiting ready = true ∧ ∀ stage ∈ skipped, isReady waiting stage = false := by
  induction listed generalizing others with
  | nil => simp [takeReady?] at taken
  | cons stage rest ih =>
      cases free : isReady waiting stage with
      | true =>
          simp only [takeReady?, free, if_true, Option.some.injEq, Prod.mk.injEq] at taken
          obtain ⟨rfl, rfl⟩ := taken
          exact ⟨[], rest, rfl, rfl, free, by simp⟩
      | false =>
          simp only [takeReady?, free, Bool.false_eq_true, if_false, Option.map_eq_some_iff,
            Prod.mk.injEq] at taken
          obtain ⟨⟨_, later⟩, found, rfl, rfl⟩ := taken
          obtain ⟨skipped, tail, rfl, rfl, isFree, held⟩ := ih found
          exact ⟨stage :: skipped, tail, rfl, rfl, isFree, by simpa [free] using held⟩

theorem takeReady?_eq_none {listed : List Stage} (stuck : takeReady? waiting listed = none) :
    ∀ stage ∈ listed, isReady waiting stage = false := by
  induction listed with
  | nil => simp
  | cons stage rest ih =>
      cases free : isReady waiting stage with
      | true => simp [takeReady?, free] at stuck
      | false =>
          simp only [takeReady?, free, Bool.false_eq_true, if_false, Option.map_eq_none_iff] at stuck
          simpa [free] using ih stuck

/-- Among stages without a ring some stage waits for none of the others. -/
theorem Acyclic.exists_ready (acyclic : Acyclic waiting) (nonempty : waiting ≠ []) :
    ∃ stage ∈ waiting, isReady waiting stage = true := by
  obtain ⟨first, listed⟩ := List.exists_mem_of_ne_nil waiting nonempty
  obtain ⟨_, known, least⟩ := acyclic.wellFounded.has_min { id | id ∈ waiting.map (·.id) }
    ⟨first.id, List.mem_map_of_mem listed⟩
  obtain ⟨stage, member, rfl⟩ := List.mem_map.mp known
  exact ⟨stage, member, isReady_iff.mpr fun id named waits =>
    least id waits (.single (.of_mem member named))⟩

theorem takeReady?_of_acyclic (acyclic : Acyclic waiting) (nonempty : waiting ≠ []) :
    ∃ ready others, takeReady? waiting waiting = some (ready, others) := by
  cases taken : takeReady? waiting waiting with
  | some result => exact ⟨result.1, result.2, rfl⟩
  | none =>
      obtain ⟨stage, member, free⟩ := acyclic.exists_ready nonempty
      rw [takeReady?_eq_none taken stage member] at free
      contradiction

theorem orderFrom_perm {fuel : Nat} (acyclic : Acyclic waiting) (enough : waiting.length ≤ fuel) :
    (orderFrom fuel waiting).Perm waiting := by
  induction fuel generalizing waiting with
  | zero =>
      have empty : waiting = [] := List.eq_nil_of_length_eq_zero (by omega)
      subst empty
      exact .refl _
  | succ fuel ih =>
      by_cases nonempty : waiting = []
      · subst nonempty
        exact .refl _
      · obtain ⟨ready, others, taken⟩ := takeReady?_of_acyclic acyclic nonempty
        obtain ⟨skipped, rest, split, remaining, _, _⟩ := takeReady?_eq_some taken
        have front : (ready :: others).Perm waiting := by
          rw [split, remaining]
          exact List.perm_middle.symm
        have shorter : others.length ≤ fuel := by
          have size := front.length_eq
          simp only [List.length_cons] at size
          omega
        have included : others ⊆ waiting := fun stage member =>
          front.subset (List.mem_cons_of_mem ready member)
        simp only [orderFrom, taken]
        exact ((ih (acyclic.mono included) shorter).cons ready).trans front

/-- What holds a stage back while it waits comes ahead of it. -/
theorem orderFrom_inOrder {fuel : Nat} {before after : List Stage} {stage : Stage}
    (split : orderFrom fuel waiting = before ++ stage :: after) {id : String}
    (named : id ∈ stage.dependsOn) (listed : id ∈ waiting.map (·.id)) :
    id ∈ before.map (·.id) := by
  induction fuel generalizing waiting before with
  | zero => simp [orderFrom] at split
  | succ fuel ih =>
      cases taken : takeReady? waiting waiting with
      | none => simp [orderFrom, taken] at split
      | some result =>
          obtain ⟨ready, others⟩ := result
          obtain ⟨skipped, rest, whole, remaining, free, _⟩ := takeReady?_eq_some taken
          simp only [orderFrom, taken] at split
          cases before with
          | nil =>
              obtain ⟨rfl, _⟩ := List.cons.inj split
              exact absurd listed (isReady_iff.mp free id named)
          | cons head earlier =>
              obtain ⟨rfl, later⟩ := List.cons.inj split
              rw [List.map_cons, List.mem_cons]
              by_cases same : id = ready.id
              · exact .inl same
              · have waits : id ∈ others.map (·.id) := by
                  rw [whole] at listed
                  rw [remaining]
                  simp only [List.map_append, List.map_cons, List.mem_append, List.mem_cons,
                    same, false_or] at listed ⊢
                  exact listed
                exact .inr (ih later waits)

theorem topologicalOrder_perm (acyclic : Acyclic stages) :
    (topologicalOrder stages).Perm stages :=
  orderFrom_perm acyclic (Nat.le_refl _)

theorem topologicalOrder_inOrder (acyclic : Acyclic stages) (closed : Closed stages) :
    InOrder (topologicalOrder stages) := by
  intro before stage after split id named
  have member : stage ∈ stages := (topologicalOrder_perm acyclic).subset (by simp [split])
  exact orderFrom_inOrder split named (closed stage member id named)

end StagePlan.Graph
