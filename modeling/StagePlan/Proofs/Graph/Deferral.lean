import StagePlan.Graph.Deferral
import StagePlan.Proofs.Graph.Ordering
import StagePlan.Proofs.Graph.PlacementRun
import StagePlan.Proofs.Graph.Rings

namespace StagePlan.Graph

open Relation

/-!
The passes over the waiting stages come to an end, as every pass that places any leaves fewer. If a
pass places none, each of its stages waits for another one of them, so that they wait in a ring.
-/

variable {base stages placed : List Stage} {injected pending deferred : Pending}
  {loop next : Deferral}

namespace Deferral

/-- The second state is reached from the first by passes that go on. -/
def Leads : Deferral → Deferral → Prop :=
  ReflTransGen fun loop next => loop.turn = .goOn next

theorem turn_of_error {e : CompileError} (waits : loop.pending ≠ [])
    (failed : placePass loop.stages loop.pending = .error e) : loop.turn = .failed e := by
  simp [turn, waits, failed]

theorem turn_of_ok (waits : loop.pending ≠ [])
    (passed : placePass loop.stages loop.pending = .ok (placed, deferred)) :
    loop.turn = if deferred.length = loop.pending.length then .stuck deferred
      else .goOn ⟨placed, deferred⟩ := by
  simp [turn, waits, passed]

theorem turn_eq_goOn (goes : loop.turn = .goOn next) :
    placePass loop.stages loop.pending = .ok (next.stages, next.pending) := by
  have waits : loop.pending ≠ [] := by
    intro none
    simp [turn, none] at goes
  cases passed : placePass loop.stages loop.pending with
  | error e =>
      rw [turn_of_error waits passed] at goes
      contradiction
  | ok result =>
      rw [turn_of_ok waits passed] at goes
      split at goes
      · contradiction
      · cases goes
        rfl

end Deferral

theorem placePass_length_le (passed : placePass stages pending = .ok (placed, deferred)) :
    deferred.length ≤ pending.length := by
  obtain ⟨order, whole, _⟩ := placePass_run passed
  have size := whole.length_eq
  rw [List.length_append] at size
  omega

/-- A pass that can place nothing changes nothing. -/
theorem placePass_of_unplaceable
    (held : ∀ entry ∈ pending, isPlaceable stages entry.2 = false) :
    placePass stages pending = .ok (stages, pending) := by
  induction pending with
  | nil => rfl
  | cons entry rest ih =>
      obtain ⟨here, later⟩ := List.forall_mem_cons.mp held
      simp only [placePass, here, ih later]
      rfl

/-- If all stages are deferred, none of them could be placed. -/
theorem unplaceable_of_placePass (passed : placePass stages pending = .ok (placed, deferred))
    (all : deferred.length = pending.length) :
    deferred = pending ∧ ∀ entry ∈ pending, isPlaceable stages entry.2 = false := by
  induction pending generalizing deferred with
  | nil =>
      cases passed
      simp
  | cons entry rest ih =>
      obtain ⟨stage, placement⟩ := entry
      unfold placePass at passed
      split at passed
      · obtain ⟨_, _, others⟩ := bind_eq_ok.mp passed
        have fewer := placePass_length_le others
        rw [all, List.length_cons] at fewer
        omega
      · rename_i held
        obtain ⟨⟨_, left⟩, others, same⟩ := bind_eq_ok.mp passed
        cases same
        obtain ⟨rfl, heldLater⟩ := ih others (by simpa using all)
        exact ⟨rfl, List.forall_mem_cons.mpr ⟨by simpa using held, heldLater⟩⟩

namespace Deferral

theorem turn_eq_stuck_iff (waits : loop.pending ≠ []) :
    loop.turn = .stuck deferred ↔
      deferred = loop.pending ∧ ∀ entry ∈ loop.pending, isPlaceable loop.stages entry.2 = false := by
  constructor
  · intro stuck
    cases passed : placePass loop.stages loop.pending with
    | error e =>
        rw [turn_of_error waits passed] at stuck
        contradiction
    | ok result =>
        rw [turn_of_ok waits passed] at stuck
        split at stuck
        · rename_i all
          cases stuck
          exact unplaceable_of_placePass passed all
        · contradiction
  · rintro ⟨rfl, held⟩
    rw [turn_of_ok waits (placePass_of_unplaceable held), if_pos rfl]

theorem placePasses_of_ok {passes : Nat} (waits : pending ≠ [])
    (passed : placePass stages pending = .ok (placed, deferred)) :
    placePasses (passes + 1) stages pending =
      if deferred.length = pending.length then .error (unplaceable deferred)
      else placePasses passes placed deferred := by
  rw [placePasses, passed]
  · rfl
  · exact waits

/-- What the passes report is what `placePasses` reports if it is given enough of them. -/
theorem leads_placePasses {passes : Nat} (enough : pending.length ≤ passes) :
    ∃ last, Leads ⟨stages, pending⟩ last ∧
      last.turn.result? = some (placePasses passes stages pending) := by
  induction passes generalizing stages pending with
  | zero =>
      obtain rfl : pending = [] := List.eq_nil_of_length_eq_zero (by omega)
      exact ⟨_, .refl, rfl⟩
  | succ passes ih =>
      cases pending with
      | nil => exact ⟨_, .refl, rfl⟩
      | cons entry rest =>
          have waits : (entry :: rest) ≠ [] := List.cons_ne_nil _ _
          cases passed : placePass stages (entry :: rest) with
          | error e =>
              refine ⟨_, .refl, ?_⟩
              rw [turn_of_error waits passed]
              simp [Turn.result?, placePasses, passed, bind, Except.bind]
          | ok result =>
              obtain ⟨middle, deferred⟩ := result
              have here : turn ⟨stages, entry :: rest⟩ = _ := turn_of_ok waits passed
              by_cases all : deferred.length = (entry :: rest).length
              · refine ⟨_, .refl, ?_⟩
                rw [here, placePasses_of_ok waits passed, if_pos all, if_pos all]
                rfl
              · have fewer := placePass_length_le passed
                obtain ⟨last, onward, ends⟩ := @ih middle deferred (by omega)
                refine ⟨last, .head (here.trans (if_neg all)) onward, ?_⟩
                rw [ends, placePasses_of_ok waits passed, if_neg all]

theorem turn_ne_goOn {next : Deferral} {result : Except CompileError (List Stage)}
    (ends : loop.turn.result? = some result) : loop.turn ≠ .goOn next := by
  intro goes
  rw [goes] at ends
  contradiction

theorem result_unique {first last : Deferral} {one other : Except CompileError (List Stage)}
    (toFirst : Leads loop first) (endsFirst : first.turn.result? = some one)
    (toLast : Leads loop last) (endsLast : last.turn.result? = some other) : one = other := by
  have functional : Relator.RightUnique fun loop next : Deferral => loop.turn = .goOn next :=
    fun _ _ _ here there => Turn.goOn.inj (here.symm.trans there)
  have same : first = last := by
    rcases ReflTransGen.total_of_right_unique functional toFirst toLast with path | path
    · rcases path.cases_head with same | ⟨next, goes, _⟩
      · exact same
      · exact absurd goes (turn_ne_goOn endsFirst)
    · rcases path.cases_head with same | ⟨next, goes, _⟩
      · exact same.symm
      · exact absurd goes (turn_ne_goOn endsLast)
  subst same
  exact Option.some.inj (endsFirst.symm.trans endsLast)

/-- Up to a pass, stages have been placed one by one, and the others wait. -/
theorem Leads.run (path : Leads ⟨base, injected⟩ loop) :
    ∃ order, (order ++ loop.pending).Perm injected ∧ PlacementRun base order loop.stages := by
  induction path with
  | refl => exact ⟨[], .refl _, .done _⟩
  | tail _ goes ih =>
      obtain ⟨order, whole, run⟩ := ih
      obtain ⟨later, wholeLater, runLater⟩ := placePass_run (turn_eq_goOn goes)
      refine ⟨order ++ later, ?_, run.trans runLater⟩
      rw [List.append_assoc]
      exact (wholeLater.append_left order).trans whole

end Deferral

/-- The waiting stages as they depend on their targets. -/
def waitingStages (pending : Pending) : List Stage :=
  pending.map fun (stage, placement) => { id := stage.id, dependsOn := placement.targets }

theorem unplaceable_of_findRing? {ring : List String}
    (found : findRing? (waitingStages pending) = some ring) : unplaceable pending = .cycle ring := by
  rw [waitingStages] at found
  simp only [unplaceable, found]

theorem waitingStages_ids (pending : Pending) :
    (waitingStages pending).map (·.id) = pending.map (·.1.id) := by
  rw [waitingStages, List.map_map]
  rfl

theorem depends_waitingStages {a b : String} :
    Depends (waitingStages pending) a b ↔
      ∃ entry ∈ pending, entry.1.id = a ∧ b ∈ entry.2.targets := by
  simp [Depends, waitingStages]

/-- Every target of a waiting stage is there or waits too. -/
def Targeted (loop : Deferral) : Prop :=
  ∀ entry ∈ loop.pending, ∀ target ∈ entry.2.targets,
    target ∈ loop.stages.map (·.id) ∨ target ∈ loop.pending.map (·.1.id)

theorem Deferral.Leads.targeted (path : Leads ⟨base, injected⟩ loop)
    (known : Targeted ⟨base, injected⟩) : Targeted loop := by
  obtain ⟨order, whole, run⟩ := path.run
  intro entry waits target isTarget
  rw [run.ids.mem_iff, List.mem_append, or_assoc, ← List.mem_append, ← List.map_append,
    (whole.map _).mem_iff]
  exact known entry (whole.subset (List.mem_append_right _ waits)) target isTarget

/-- Stages none of which can be placed wait for each other in a ring, which the search finds. -/
theorem exists_ring_of_unplaceable (waits : loop.pending ≠ [])
    (held : ∀ entry ∈ loop.pending, isPlaceable loop.stages entry.2 = false)
    (targeted : Targeted loop) (distinct : (loop.pending.map (·.1.id)).Nodup) :
    ∃ ring, findRing? (waitingStages loop.pending) = some ring := by
  refine Option.ne_none_iff_exists'.mp fun none => ?_
  rw [← waitingStages_ids] at distinct
  have nonempty : waitingStages loop.pending ≠ [] := by simpa [waitingStages] using waits
  obtain ⟨stage, member, free⟩ := (acyclic_of_findRing? distinct none).exists_ready nonempty
  obtain ⟨entry, pending, rfl⟩ := List.mem_map.mp member
  -- a target of the stage is missing, and it does not wait either
  obtain ⟨target, isTarget, missing⟩ : ∃ target ∈ entry.2.targets,
      target ∉ loop.stages.map (·.id) := by
    simpa [isPlaceable] using held entry pending
  have waiting := (targeted entry pending target isTarget).resolve_left missing
  rw [← waitingStages_ids] at waiting
  exact isReady_iff.mp free target isTarget waiting

/-- Ids of waiting stages, each of which is to be placed relative to the next one; the first id comes
again at the end. -/
structure WaitingRing (pending : Pending) (ring : List String) : Prop where
  long : 2 ≤ ring.length
  closed : ring.head? = ring.getLast?
  waiting : ring ⊆ pending.map (·.1.id)
  relative : ring.IsChain fun id next => ∃ entry ∈ pending, entry.1.id = id ∧ next ∈ entry.2.targets

theorem IsRing.ids_listed {ring : List String} (closes : IsRing stages ring) :
    ring ⊆ stages.map (·.id) := by
  obtain ⟨long, closed, _, listed, _⟩ := closes
  match ring with
  | [] | [_] => simp at long
  | first :: second :: rest =>
      have nonempty : first :: second :: rest ≠ [] := List.cons_ne_nil _ _
      have back : (first :: second :: rest).getLast nonempty = first := by
        rw [List.head?_cons, List.getLast?_eq_some_getLast nonempty] at closed
        exact (Option.some.inj closed).symm
      intro id member
      rw [← List.dropLast_append_getLast nonempty, back, List.mem_append, List.mem_singleton]
        at member
      rcases member with inner | rfl
      · exact listed inner
      · exact listed List.mem_cons_self

theorem IsRing.waitingRing {ring : List String} (closes : IsRing (waitingStages pending) ring) :
    WaitingRing pending ring where
  long := closes.long
  closed := closes.closed
  waiting := waitingStages_ids pending ▸ closes.ids_listed
  relative := closes.linked.imp fun _ _ => depends_waitingStages.mp

/-- The passes end, with what `placeAll` reports. If all goes well, every stage has been placed once.
The passes give up only when no waiting stage can be placed, and then a ring of waiting stages is
found and reported. -/
theorem placeAll_ends (distinct : (injected.map (·.1.id)).Nodup)
    (known : Targeted ⟨base, injected⟩) :
    (∀ result, (∃ last, Deferral.Leads ⟨base, injected⟩ last ∧ last.turn.result? = some result) ↔
      result = placeAll base injected) ∧
    (∀ final, placeAll base injected = .ok final →
      (∃ order, order.Perm injected ∧ PlacementRun base order final) ∧
        (final.map bare).Perm ((base ++ injected.map (·.1)).map bare)) ∧
    ∀ loop, Deferral.Leads ⟨base, injected⟩ loop → loop.pending ≠ [] →
      (loop.turn = .stuck loop.pending ↔
        ∀ entry ∈ loop.pending, isPlaceable loop.stages entry.2 = false) ∧
      ∀ deferred, loop.turn = .stuck deferred →
        ∃ ring, findRing? (waitingStages deferred) = some ring ∧
          unplaceable deferred = .cycle ring ∧ WaitingRing deferred ring := by
  refine ⟨?ends, ?once, ?stuck⟩
  case ends =>
    obtain ⟨last, path, ends⟩ : ∃ last, Deferral.Leads ⟨base, injected⟩ last ∧
        last.turn.result? = some (placeAll base injected) :=
      Deferral.leads_placePasses (Nat.le_refl _)
    intro result
    constructor
    · rintro ⟨other, toOther, endsOther⟩
      exact Deferral.result_unique toOther endsOther path ends
    · rintro rfl
      exact ⟨last, path, ends⟩
  case once =>
    intro final succeeded
    obtain ⟨order, whole, run⟩ := placePasses_run succeeded
    exact ⟨⟨order, whole, run⟩,
      run.bare_perm.trans (((whole.map _).append_left base).map bare)⟩
  case stuck =>
    intro loop path waits
    refine ⟨by simp [Deferral.turn_eq_stuck_iff waits], fun deferred stuck => ?_⟩
    obtain ⟨rfl, held⟩ := (Deferral.turn_eq_stuck_iff waits).mp stuck
    obtain ⟨order, whole, _⟩ := path.run
    have apart : (loop.pending.map (·.1.id)).Nodup := by
      have all := (whole.map (·.1.id)).nodup_iff.mpr distinct
      rw [List.map_append] at all
      exact all.of_append_right
    obtain ⟨ring, found⟩ := exists_ring_of_unplaceable waits held (path.targeted known) apart
    exact ⟨ring, found, unplaceable_of_findRing? found, (isRing_of_findRing? found).waitingRing⟩

/-- Two stages that wait for each other, behind one that waits for a later stage. -/
def tangled : Pending :=
  [({ id := "report" }, .after ["scan"]), ({ id := "sign" }, .before ["bake", "seal"]),
    ({ id := "scan" }, .after ["bake"]), ({ id := "seal" }, .after ["sign", "report"])]

theorem placeAll_ends_tangled :
    (tangled.map (·.1.id)).Nodup ∧ Targeted ⟨[{ id := "bake" }], tangled⟩ ∧
      ∃ last, Deferral.Leads ⟨[{ id := "bake" }], tangled⟩ last ∧
        last.turn.result? = some (.error (.cycle ["sign", "seal", "sign"])) := by
  have distinct : (tangled.map (·.1.id)).Nodup := by decide
  have known : Targeted ⟨[{ id := "bake" }], tangled⟩ := by
    simp [Targeted, tangled, Placement.targets]
  have fails : placeAll [{ id := "bake" }] tangled =
      .error (.cycle ["sign", "seal", "sign"]) := by
    rfl
  exact ⟨distinct, known, ((placeAll_ends distinct known).1 _).mpr fails.symm⟩

end StagePlan.Graph
