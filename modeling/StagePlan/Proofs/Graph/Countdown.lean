import StagePlan.Graph.Countdown
import StagePlan.Proofs.Graph.CycleSearch
import StagePlan.Proofs.Graph.LeastOrder

namespace StagePlan.Graph

/-!
Counting takes the stages in the order in which they are found ready. A counter always says how many
dependencies of its stage name waiting stages, so that it never has to go below zero.
-/

variable {stages waiting : List Stage} {stage : Stage} {place : Nat} {id : String}

theorem mem_insertPlace {places : List Nat} {other : Nat} :
    other ∈ insertPlace place places ↔ other = place ∨ other ∈ places := by
  induction places with
  | nil => simp [insertPlace]
  | cons first rest ih =>
      simp only [insertPlace]
      split
      · simp
      · split
        · rename_i same
          simp [same]
        · simp [ih, or_left_comm]

theorem ascending_insertPlace {places : List Nat} (ascending : places.Pairwise (· < ·)) :
    (insertPlace place places).Pairwise (· < ·) := by
  induction places with
  | nil => simp [insertPlace]
  | cons first rest ih =>
      obtain ⟨least, others⟩ := List.pairwise_cons.mp ascending
      simp only [insertPlace]
      split
      · rename_i less
        refine List.pairwise_cons.mpr ⟨?_, ascending⟩
        simp only [List.mem_cons, forall_eq_or_imp]
        exact ⟨less, fun other listed => less.trans (least other listed)⟩
      · split
        · exact ascending
        · refine List.pairwise_cons.mpr ⟨?_, ih others⟩
          intro other listed
          rcases mem_insertPlace.mp listed with rfl | listed
          · omega
          · exact least other listed

/-- Every stage is released as often as it names the id. -/
theorem count_dependents (stages : List Stage) (id : String) (place : Nat) :
    (dependents stages id).count place =
      (stages[place]?.map fun stage => stage.dependsOn.count id).getD 0 := by
  have from_any : ∀ first : Nat,
      ((stages.zipIdx first).flatMap fun entry =>
        List.replicate (entry.1.dependsOn.count id) entry.2).count place =
      if first ≤ place then
        (stages[place - first]?.map fun stage => stage.dependsOn.count id).getD 0
      else 0 := by
    induction stages with
    | nil => simp
    | cons stage rest ih =>
        intro first
        rw [List.zipIdx_cons, List.flatMap_cons, List.count_append, ih, List.count_replicate]
        rcases Nat.lt_trichotomy first place with less | rfl | greater
        · obtain ⟨gap, rfl⟩ := Nat.exists_eq_add_of_lt less
          have inside : first + gap + 1 - first = gap + 1 := by omega
          have behind : first + gap + 1 - (first + 1) = gap := by omega
          simp [inside, behind, less.ne, show first + 1 ≤ first + gap + 1 by omega,
            show first ≤ first + gap + 1 by omega]
        · simp
        · simp [greater.ne', show ¬ first ≤ place by omega, show ¬ first + 1 ≤ place by omega]
  exact (from_any 0).trans (by simp)

theorem isReady_iff_waitsFor : isReady waiting stage = true ↔ waitsFor waiting stage = 0 := by
  simp [isReady, waitsFor, List.countP_eq_zero]

theorem isReady_of_subset {others : List Stage} (included : others ⊆ waiting)
    (free : isReady waiting stage = true) : isReady others stage = true := by
  rw [isReady_iff] at free ⊢
  exact fun id named waits => free id named (List.map_subset _ included waits)

/-- What a stage waits for is the stage that is taken, as often as it is named, and the others. -/
theorem waitsFor_split {skipped rest : List Stage}
    (distinct : ((skipped ++ stage :: rest).map (·.id)).Nodup) (other : Stage) :
    waitsFor (skipped ++ stage :: rest) other =
      waitsFor (skipped ++ rest) other + other.dependsOn.count stage.id := by
  have apart := ids_of_split distinct
  unfold waitsFor
  induction other.dependsOn with
  | nil => simp
  | cons id ids ih =>
      rw [List.countP_cons, List.countP_cons, List.count_cons, ih]
      by_cases same : id = stage.id
      · have gone : ((skipped ++ rest).map (·.id)).contains id = false := by
          rw [List.contains_eq_mem, decide_eq_false_iff_not]
          exact fun listed => (apart id listed).2 same
        have there : ((skipped ++ stage :: rest).map (·.id)).contains id = true := by
          simp [same]
        rw [gone, there]
        simp [same]
        omega
      · have both : ((skipped ++ stage :: rest).map (·.id)).contains id =
            ((skipped ++ rest).map (·.id)).contains id := by
          simp [same]
        rw [both]
        simp [same]
        omega

namespace Countdown

/-- A place has been counted down to `n`. -/
structure Released (count : Countdown) (place n : Nat) (after : Countdown) : Prop where
  here : after.pending[place]? = some n
  elsewhere : ∀ other, other ≠ place → after.pending[other]? = count.pending[other]?
  ascending : after.ready.Pairwise (· < ·)
  mem_ready : ∀ other, other ∈ after.ready ↔ other ∈ count.ready ∨ other = place ∧ n = 0

theorem exists_released {count : Countdown} {n : Nat}
    (counter : count.pending[place]? = some (n + 1)) (ascending : count.ready.Pairwise (· < ·)) :
    ∃ after, release? count place = some after ∧ Released count place n after := by
  have inside : place < count.pending.length := (List.getElem?_eq_some_iff.mp counter).1
  refine ⟨_, by rw [release?, counter], ?_⟩
  constructor
  case here => simp [inside]
  case elsewhere => exact fun other differs => List.getElem?_set_ne (Ne.symm differs)
  case ascending =>
    dsimp only
    split
    · exact ascending_insertPlace ascending
    · exact ascending
  case mem_ready =>
    intro other
    by_cases zero : n = 0
    · simp [mem_insertPlace, zero, or_comm]
    · simp [zero]

/-- Places can be released as often as their counters allow; those that come to zero are ready. -/
theorem foldlM_release? {places : List Nat} {count : Countdown}
    (enough : ∀ place ∈ places, ∃ n, count.pending[place]? = some n ∧ places.count place ≤ n)
    (ascending : count.ready.Pairwise (· < ·)) :
    ∃ after, places.foldlM release? count = some after ∧ after.ready.Pairwise (· < ·) ∧
      (∀ place, after.pending[place]? =
        count.pending[place]?.map fun n => n - places.count place) ∧
      ∀ place, place ∈ after.ready ↔
        place ∈ count.ready ∨ place ∈ places ∧ after.pending[place]? = some 0 := by
  induction places generalizing count with
  | nil => exact ⟨count, rfl, ascending, by simp, by simp⟩
  | cons first rest ih =>
      obtain ⟨m, counter, room⟩ := enough first List.mem_cons_self
      rw [List.count_cons_self] at room
      obtain ⟨n, rfl⟩ := Nat.exists_eq_add_one_of_ne_zero (show m ≠ 0 by omega)
      obtain ⟨next, step, released⟩ := exists_released counter ascending
      have enoughNext : ∀ place ∈ rest,
          ∃ n, next.pending[place]? = some n ∧ rest.count place ≤ n := by
        intro place listed
        by_cases same : place = first
        · subst same
          exact ⟨n, released.here, by omega⟩
        · obtain ⟨m, counts, fits⟩ := enough place (List.mem_cons_of_mem _ listed)
          rw [List.count_cons_of_ne (Ne.symm same)] at fits
          exact ⟨m, (released.elsewhere place same).trans counts, fits⟩
      obtain ⟨after, others, ordered, pending, ready⟩ := ih enoughNext released.ascending
      refine ⟨after, by rw [List.foldlM_cons, step]; exact others, ordered, ?_, ?_⟩
      · intro place
        rw [pending place]
        by_cases same : place = first
        · subst same
          simp [released.here, counter]
        · rw [released.elsewhere place same, List.count_cons_of_ne (Ne.symm same)]
      · intro place
        rw [ready place, released.mem_ready place, List.mem_cons]
        by_cases same : place = first
        · subst same
          have left : after.pending[place]? = some 0 ↔ n = rest.count place := by
            rw [pending place, released.here]
            simp
            omega
          by_cases again : place ∈ rest
          · have some_ := List.count_pos_iff.mpr again
            have more : n ≠ 0 := by omega
            simp [again, more]
          · have none : rest.count place = 0 := List.count_eq_zero.mpr again
            simp [again, left, none]
        · simp [same]

end Countdown

/-- The counters say how many dependencies name waiting stages, and the ready stages are known by
their places. Stages that have been taken wait for nothing. -/
structure Counts (stages waiting : List Stage) (count : Countdown) : Prop where
  kept : waiting.Sublist stages
  pending : ∀ place : Nat, count.pending[place]? = stages[place]?.map (waitsFor waiting)
  ascending : count.ready.Pairwise (· < ·)
  ready : ∀ place : Nat, place ∈ count.ready ↔
    ∃ stage ∈ waiting, stages[place]? = some stage ∧ isReady waiting stage = true
  taken : ∀ stage ∈ stages, stage ∉ waiting → isReady waiting stage = true

theorem counts_start (stages : List Stage) : Counts stages stages (Countdown.start stages) where
  kept := .refl stages
  pending := by simp [Countdown.start]
  ascending := List.pairwise_lt_range.filter _
  ready := by
    intro place
    simp only [Countdown.start, List.mem_filter, List.mem_range, List.getElem?_map,
      decide_eq_true_eq, Option.map_eq_some_iff, ← isReady_iff_waitsFor]
    constructor
    · rintro ⟨_, stage, found, free⟩
      exact ⟨stage, List.mem_of_getElem? found, found, free⟩
    · rintro ⟨stage, _, found, free⟩
      exact ⟨(List.getElem?_eq_some_iff.mp found).1, stage, found, free⟩
  taken := fun stage listed waits => absurd listed waits

theorem placeIn_of_getElem? (distinct : (stages.map (·.id)).Nodup)
    (found : stages[place]? = some stage) : (stages.map (·.id)).idxOf stage.id = place := by
  obtain ⟨inside, rfl⟩ := List.getElem?_eq_some_iff.mp found
  have whole := distinct.idxOf_getElem place (by simpa using inside)
  simpa using whole

theorem mem_dependents {place : Nat} :
    place ∈ dependents stages id ↔ ∃ stage, stages[place]? = some stage ∧ id ∈ stage.dependsOn := by
  rw [← List.count_pos_iff, count_dependents]
  cases stages[place]? <;> simp

/-- The stage that is taken is ready, and a stage that names it has waited so far. -/
theorem Counts.named_waits {count : Countdown} {skipped rest : List Stage} {other : Stage}
    (counts : Counts stages (skipped ++ stage :: rest) count)
    (free : isReady (skipped ++ stage :: rest) stage = true) (listed : other ∈ stages)
    (named : stage.id ∈ other.dependsOn) : other ∈ skipped ++ rest := by
  have held : ¬ isReady (skipped ++ stage :: rest) other = true := fun free =>
    isReady_iff.mp free stage.id named (by simp)
  have waits : other ∈ skipped ++ stage :: rest := by
    by_contra taken
    exact held (counts.taken other listed taken)
  have differs : other ≠ stage := by
    rintro rfl
    exact held free
  simpa [differs] using waits

/-- When the first ready stage is taken, those stages are ready that have been, and those that name
it and no other waiting stage. -/
theorem Counts.ready_behind {pending ready : List Nat} {skipped rest : List Stage}
    (distinct : (stages.map (·.id)).Nodup)
    (counts : Counts stages (skipped ++ stage :: rest) ⟨pending, place :: ready⟩)
    (found : stages[place]? = some stage)
    (free : isReady (skipped ++ stage :: rest) stage = true) (p : Nat) :
    (p ∈ ready ∨ (∃ other, stages[p]? = some other ∧ stage.id ∈ other.dependsOn) ∧
      stages[p]?.map (waitsFor (skipped ++ rest)) = some 0) ↔
    ∃ other ∈ skipped ++ rest, stages[p]? = some other ∧
      isReady (skipped ++ rest) other = true := by
  have fewer : skipped ++ rest ⊆ skipped ++ stage :: rest :=
    ((List.sublist_cons_self stage rest).append_left skipped).subset
  have unique : ((skipped ++ stage :: rest).map (·.id)).Nodup :=
    distinct.sublist (counts.kept.map _)
  obtain ⟨least, _⟩ := List.pairwise_cons.mp counts.ascending
  constructor
  · rintro (already | ⟨⟨other, at_, named⟩, zero⟩)
    · obtain ⟨other, listed, at_, before⟩ := (counts.ready p).mp (List.mem_cons_of_mem _ already)
      have differs : other ≠ stage := by
        rintro rfl
        have same : place = p :=
          (placeIn_of_getElem? distinct found).symm.trans (placeIn_of_getElem? distinct at_)
        exact absurd (least p already) (by omega)
      exact ⟨other, by simpa [differs] using listed, at_, isReady_of_subset fewer before⟩
    · refine ⟨other, counts.named_waits free (List.mem_of_getElem? at_) named, at_, ?_⟩
      rw [at_, Option.map_some, Option.some.injEq] at zero
      exact isReady_iff_waitsFor.mpr zero
  · rintro ⟨other, listed, at_, after⟩
    by_cases before : isReady (skipped ++ stage :: rest) other = true
    · have either := (counts.ready p).mpr ⟨other, fewer listed, at_, before⟩
      left
      apply (List.mem_cons.mp either).resolve_left
      rintro rfl
      rw [found, Option.some.injEq] at at_
      subst at_
      exact (ids_of_split unique _ (List.mem_map_of_mem listed)).2 rfl
    · rw [isReady_iff_waitsFor] at before after
      right
      refine ⟨⟨other, at_, ?_⟩, by rw [at_, Option.map_some, after]⟩
      rw [waitsFor_split unique, after, Nat.zero_add] at before
      exact List.count_pos_iff.mp (Nat.pos_of_ne_zero before)

/-- Taking the first ready stage releases all that name it, and the counters stay right. -/
theorem Counts.take {pending ready : List Nat} {skipped rest : List Stage}
    (distinct : (stages.map (·.id)).Nodup)
    (counts : Counts stages (skipped ++ stage :: rest) ⟨pending, place :: ready⟩)
    (found : stages[place]? = some stage)
    (free : isReady (skipped ++ stage :: rest) stage = true) :
    ∃ after, (dependents stages stage.id).foldlM Countdown.release? ⟨pending, ready⟩ = some after ∧
      Counts stages (skipped ++ rest) after := by
  have fewer : (skipped ++ rest).Sublist (skipped ++ stage :: rest) :=
    (List.sublist_cons_self stage rest).append_left skipped
  have split := waitsFor_split (distinct.sublist (counts.kept.map _))
  obtain ⟨least, ascending⟩ := List.pairwise_cons.mp counts.ascending
  have enough : ∀ p ∈ dependents stages stage.id,
      ∃ n, (Countdown.mk pending ready).pending[p]? = some n ∧
        (dependents stages stage.id).count p ≤ n := by
    intro p listed
    obtain ⟨other, at_, _⟩ := mem_dependents.mp listed
    refine ⟨waitsFor (skipped ++ stage :: rest) other, by rw [counts.pending p, at_]; rfl, ?_⟩
    rw [count_dependents, at_, split other]
    exact Nat.le_add_left _ _
  obtain ⟨after, released, ordered, counters, readyAfter⟩ :=
    Countdown.foldlM_release? enough ascending
  have pendingAfter : ∀ p : Nat,
      after.pending[p]? = stages[p]?.map (waitsFor (skipped ++ rest)) := by
    intro p
    rw [counters p, counts.pending p, count_dependents]
    cases stages[p]? with
    | none => rfl
    | some other => simp [split other]
  refine ⟨after, released, fewer.trans counts.kept, pendingAfter, ordered, ?_, ?_⟩
  · intro p
    rw [readyAfter p, pendingAfter p, mem_dependents]
    exact counts.ready_behind distinct found free p
  · intro other listed taken
    by_cases same : other = stage
    · exact isReady_of_subset fewer.subset (same ▸ free)
    · apply isReady_of_subset fewer.subset (counts.taken other listed _)
      simpa [same] using taken

/-- The first of the ready places is that of the stage which is taken first. -/
theorem Counts.first {pending ready : List Nat} (distinct : (stages.map (·.id)).Nodup)
    (counts : Counts stages waiting ⟨pending, place :: ready⟩) :
    ∃ stage others, stages[place]? = some stage ∧
      takeReady? waiting waiting = some (stage, others) := by
  obtain ⟨stage, member, found, free⟩ := (counts.ready place).mp List.mem_cons_self
  obtain ⟨least, _⟩ := List.pairwise_cons.mp counts.ascending
  cases taken : takeReady? waiting waiting with
  | none =>
      rw [takeReady?_eq_none taken stage member] at free
      contradiction
  | some result =>
      obtain ⟨first, others⟩ := result
      have ascending := (placesIn_ascending distinct).sublist counts.kept
      rcases takeReady?_first ascending taken member free with rfl | less
      · exact ⟨stage, others, found, rfl⟩
      · -- the place of the first ready stage is among the ready ones
        exfalso
        obtain ⟨skipped, rest, whole, _, firstFree, _⟩ := takeReady?_eq_some taken
        have listed : first ∈ waiting := by simp [whole]
        obtain ⟨p, at_⟩ := List.mem_iff_getElem?.mp (counts.kept.subset listed)
        rw [placeIn_of_getElem? distinct found, placeIn_of_getElem? distinct at_] at less
        have known : p ∈ place :: ready := (counts.ready p).mpr ⟨first, listed, at_, firstFree⟩
        rcases List.mem_cons.mp known with same | later
        · omega
        · exact absurd (least p later) (by omega)

/-- Counting never fails, and takes the stages one by one as they are found ready. -/
theorem Counts.places {steps : Nat} {count : Countdown} (distinct : (stages.map (·.id)).Nodup)
    (counts : Counts stages waiting count) (enough : waiting.length ≤ steps) :
    ∃ places, Countdown.places? stages steps count = some places ∧
      (places.filterMap fun place => stages[place]?) = orderFrom steps waiting := by
  induction steps generalizing waiting count with
  | zero =>
      have empty : waiting = [] := List.eq_nil_of_length_eq_zero (by omega)
      subst empty
      obtain ⟨pending, ready⟩ := count
      cases ready with
      | nil => exact ⟨[], by simp [Countdown.places?], rfl⟩
      | cons place ready => simpa using counts.ready place
  | succ steps ih =>
      obtain ⟨pending, ready⟩ := count
      cases ready with
      | nil =>
          refine ⟨[], by simp [Countdown.places?], ?_⟩
          cases taken : takeReady? waiting waiting with
          | none => simp [orderFrom, taken]
          | some result =>
              obtain ⟨skipped, rest, whole, _, free, _⟩ := takeReady?_eq_some taken
              have listed : result.1 ∈ waiting := by simp [whole]
              obtain ⟨p, at_⟩ := List.mem_iff_getElem?.mp (counts.kept.subset listed)
              simpa using (counts.ready p).mpr ⟨result.1, listed, at_, free⟩
      | cons place ready =>
          obtain ⟨stage, others, found, taken⟩ := counts.first distinct
          obtain ⟨skipped, rest, rfl, rfl, free, _⟩ := takeReady?_eq_some taken
          obtain ⟨after, released, countsAfter⟩ := counts.take distinct found free
          have shorter : (skipped ++ rest).length ≤ steps := by
            simp only [List.length_append, List.length_cons] at enough ⊢
            omega
          obtain ⟨places, counted, order⟩ := ih countsAfter shorter
          refine ⟨place :: places, ?_, ?_⟩
          · simp [Countdown.places?, found, released, counted]
          · rw [List.filterMap_cons, found, order]
            simp [orderFrom, taken]

/-- Counting gives the order. -/
theorem order?_eq (distinct : (stages.map (·.id)).Nodup) :
    Countdown.order? stages = some (topologicalOrder stages) := by
  obtain ⟨places, counted, order⟩ := (counts_start stages).places distinct (Nat.le_refl _)
  rw [Countdown.order?, counted, Option.map_some, order]
  rfl

/-- Of all orders in which the stages stand behind those on which they depend, the stages are put in
the least, and counting finds it without a counter that would go below zero. -/
theorem topologicalOrder_is_least (distinct : (stages.map (·.id)).Nodup) (closed : Closed stages)
    (acyclic : Acyclic stages) :
    (topologicalOrder stages).Perm stages ∧ InOrder (topologicalOrder stages) ∧
      (∀ order, order.Perm stages → InOrder order →
        order = topologicalOrder stages ∨
          List.Lex (· < ·) (placesIn stages (topologicalOrder stages)) (placesIn stages order)) ∧
      (InOrder stages → topologicalOrder stages = stages) ∧
      Countdown.order? stages = some (topologicalOrder stages) := by
  refine ⟨topologicalOrder_perm acyclic, topologicalOrder_inOrder acyclic closed, ?_, ?_,
    order?_eq distinct⟩
  · intro order same ordered
    exact orderFrom_least (placesIn_ascending distinct) distinct same (ordered.among stages)
      (Nat.le_refl _)
  · intro ordered
    exact orderFrom_of_inOrder (ordered.among stages) distinct (Nat.le_refl _)

/-- Stages written last to first, with a dependency that is written twice. -/
def launch : List Stage :=
  [{ id := "deploy", dependsOn := ["test", "bake", "test"] },
    { id := "test", dependsOn := ["bake"] },
    { id := "lint" },
    { id := "bake" }]

theorem topologicalOrder_is_least_launch :
    (topologicalOrder launch).map (·.id) = ["lint", "bake", "test", "deploy"] ∧
      (∀ order, order.Perm launch → InOrder order →
        order = topologicalOrder launch ∨ List.Lex (· < ·) [2, 3, 1, 0] (placesIn launch order)) ∧
      Countdown.order? launch = some (topologicalOrder launch) := by
  have distinct : (launch.map (·.id)).Nodup := by decide
  have closed : Closed launch := checkDependencies_closed (by decide)
  have acyclic : Acyclic launch := checkCycles_acyclic distinct (by decide +kernel)
  have places : placesIn launch (topologicalOrder launch) = [2, 3, 1, 0] := by decide +kernel
  obtain ⟨_, _, least, _, counted⟩ := topologicalOrder_is_least distinct closed acyclic
  exact ⟨by decide +kernel, fun order same ordered => places ▸ least order same ordered, counted⟩

end StagePlan.Graph
