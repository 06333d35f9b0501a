import Mathlib.Data.List.Nodup
import StagePlan.Proofs.Graph.Ordering

namespace StagePlan.Graph

/-!
Of all orders in which stages can stand behind those on which they depend, the one that is taken is
the least: none has an earlier stage of the list at the first place where they differ.
-/

variable {stages waiting others : List Stage}

/-- The places that the stages of an order have in a list. -/
def placesIn (stages order : List Stage) : List Nat :=
  order.map fun stage => (stages.map (·.id)).idxOf stage.id

/-- Every stage of an order stands behind those of the waiting stages on which it depends. -/
def InOrderAmong (waiting order : List Stage) : Prop :=
  ∀ before stage after, order = before ++ stage :: after →
    ∀ id ∈ stage.dependsOn, id ∈ waiting.map (·.id) → id ∈ before.map (·.id)

theorem InOrder.among (ordered : InOrder stages) (waiting : List Stage) :
    InOrderAmong waiting stages :=
  fun before stage after split id named _ => ordered before stage after split id named

/-- Whatever stands first in an order is ready. -/
theorem InOrderAmong.isReady_head {stage : Stage} {rest : List Stage}
    (ordered : InOrderAmong waiting (stage :: rest)) : isReady waiting stage = true :=
  isReady_iff.mpr fun id named waits => by simpa using ordered [] stage rest rfl id named waits

/-- When the first stage has been taken, the others are in order. -/
theorem InOrderAmong.tail {stage : Stage} {rest : List Stage}
    (ordered : InOrderAmong waiting (stage :: rest))
    (known : ∀ id ∈ others.map (·.id), id ∈ waiting.map (·.id) ∧ id ≠ stage.id) :
    InOrderAmong others rest := by
  intro before later after split id named waits
  obtain ⟨listed, other⟩ := known id waits
  have earlier := ordered (stage :: before) later after (by rw [split]; rfl) id named listed
  exact (List.mem_cons.mp earlier).resolve_left other

/-- Taking a stage out of a list with distinct ids leaves no stage with its id. -/
theorem ids_of_split {skipped rest : List Stage} {stage : Stage}
    (distinct : ((skipped ++ stage :: rest).map (·.id)).Nodup) :
    ∀ id ∈ (skipped ++ rest).map (·.id),
      id ∈ (skipped ++ stage :: rest).map (·.id) ∧ id ≠ stage.id := by
  intro id listed
  rw [List.map_append, List.map_cons, List.nodup_middle, List.nodup_cons] at distinct
  rw [List.map_append] at listed
  constructor
  · simp only [List.map_append, List.map_cons, List.mem_append, List.mem_cons] at listed ⊢
    exact listed.imp_right .inr
  · rintro rfl
    exact distinct.1 listed

/-- What is taken is the first of the stages that are ready. -/
theorem takeReady?_first {ready stage : Stage} {place : Stage → Nat}
    (ascending : waiting.Pairwise fun a b => place a < place b)
    (taken : takeReady? waiting waiting = some (ready, others)) (member : stage ∈ waiting)
    (free : isReady waiting stage = true) : stage = ready ∨ place ready < place stage := by
  obtain ⟨skipped, later, whole, _, _, held⟩ := takeReady?_eq_some taken
  rw [whole, List.mem_append, List.mem_cons] at member
  rcases member with early | here | late
  · rw [held stage early] at free
    contradiction
  · exact .inl here
  · rw [whole] at ascending
    exact .inr (List.rel_of_pairwise_cons (List.pairwise_append.mp ascending).2.1 late)

/-- Every other order of the waiting stages is greater than the one that is taken. -/
theorem orderFrom_least {fuel : Nat} {place : Stage → Nat}
    (ascending : waiting.Pairwise fun a b => place a < place b)
    (distinct : (waiting.map (·.id)).Nodup) {order : List Stage} (same : order.Perm waiting)
    (ordered : InOrderAmong waiting order) (enough : waiting.length ≤ fuel) :
    order = orderFrom fuel waiting ∨
      List.Lex (· < ·) ((orderFrom fuel waiting).map place) (order.map place) := by
  induction fuel generalizing waiting order with
  | zero =>
      have empty : waiting = [] := List.eq_nil_of_length_eq_zero (by omega)
      subst empty
      exact .inl same.eq_nil
  | succ fuel ih =>
      cases order with
      | nil =>
          have empty : waiting = [] := same.nil_eq.symm
          subst empty
          exact .inl rfl
      | cons first rest =>
          have free := ordered.isReady_head
          have member : first ∈ waiting := same.subset List.mem_cons_self
          cases taken : takeReady? waiting waiting with
          | none =>
              rw [takeReady?_eq_none taken first member] at free
              contradiction
          | some result =>
              obtain ⟨ready, left⟩ := result
              simp only [orderFrom, taken, List.map_cons]
              rcases takeReady?_first ascending taken member free with rfl | less
              · obtain ⟨skipped, later, whole, remaining, _, _⟩ := takeReady?_eq_some taken
                have kept : left.Sublist waiting := by
                  rw [whole, remaining]
                  exact (List.sublist_cons_self first later).append_left skipped
                have known : ∀ id ∈ left.map (·.id), id ∈ waiting.map (·.id) ∧ id ≠ first.id := by
                  rw [whole, remaining]
                  exact ids_of_split (whole ▸ distinct)
                have others : rest.Perm left := by
                  rw [whole] at same
                  rw [remaining]
                  exact (same.trans List.perm_middle).cons_inv
                have shorter : left.length ≤ fuel := by
                  have size := same.length_eq
                  rw [List.length_cons, others.length_eq] at size
                  omega
                rcases ih (ascending.sublist kept) (distinct.sublist (kept.map _)) others
                  (ordered.tail known) shorter with equal | greater
                · exact .inl (congrArg (first :: ·) equal)
                · exact .inr (.cons greater)
              · exact .inr (.rel less)

/-- Stages that are in order already are taken as they stand. -/
theorem orderFrom_of_inOrder {fuel : Nat} (ordered : InOrderAmong waiting waiting)
    (distinct : (waiting.map (·.id)).Nodup) (enough : waiting.length ≤ fuel) :
    orderFrom fuel waiting = waiting := by
  induction fuel generalizing waiting with
  | zero =>
      have empty : waiting = [] := List.eq_nil_of_length_eq_zero (by omega)
      subst empty
      rfl
  | succ fuel ih =>
      cases waiting with
      | nil => rfl
      | cons first rest =>
          have taken : takeReady? (first :: rest) (first :: rest) = some (first, rest) := by
            simp [takeReady?, ordered.isReady_head]
          have known : ∀ id ∈ rest.map (·.id), _ := @ids_of_split [] rest first distinct
          simp only [orderFrom, taken]
          rw [ih (ordered.tail known) (List.nodup_cons.mp distinct).2]
          simpa using enough

theorem placesIn_ascending (distinct : (stages.map (·.id)).Nodup) :
    stages.Pairwise fun a b =>
      (stages.map (·.id)).idxOf a.id < (stages.map (·.id)).idxOf b.id := by
  rw [List.pairwise_iff_getElem]
  intro i j first second less
  have place : ∀ k (inside : k < stages.length),
      (stages.map (·.id)).idxOf stages[k].id = k := by
    intro k inside
    have found := distinct.idxOf_getElem k (by simpa using inside)
    simpa using found
  rw [place i first, place j second]
  exact less

/-- The stages stand behind those on which they depend, and every other such order is greater. -/
structure LeastOrder (stages order : List Stage) : Prop where
  perm : order.Perm stages
  inOrder : InOrder order
  least : ∀ other, other.Perm stages → InOrder other →
    other = order ∨ List.Lex (· < ·) (placesIn stages order) (placesIn stages other)

theorem leastOrder_topologicalOrder (distinct : (stages.map (·.id)).Nodup)
    (closed : Closed stages) (acyclic : Acyclic stages) :
    LeastOrder stages (topologicalOrder stages) where
  perm := topologicalOrder_perm acyclic
  inOrder := topologicalOrder_inOrder acyclic closed
  least _ same ordered :=
    orderFrom_least (placesIn_ascending distinct) distinct same (ordered.among stages) (Nat.le_refl _)

end StagePlan.Graph
