import Mathlib.Logic.Relation
import StagePlan.Graph.Expansion

namespace StagePlan.Graph

open Relation

/-!
Following replacements. The search keeps the ids that wait, those that it has replaced and those
that it has found; what it finds is all that replacements lead to.
-/

variable {replaced : Bindings (List String)} {seen found pending dependsOn : List String}
  {id start : String}

def Replaces (replaced : Bindings (List String)) (id next : String) : Prop :=
  ∃ targets, replaced.find? id = some targets ∧ next ∈ targets

/-- Replacements lead from the first id to the second, which has none itself. -/
def Resolves (replaced : Bindings (List String)) (start id : String) : Prop :=
  ReflTransGen (Replaces replaced) start id ∧ replaced.find? id = none

/-- How many replacements are left for ids that have not been seen. -/
def unseenTargets (replaced : Bindings (List String)) (seen : List String) : Nat :=
  ((replaced.filter fun entry => !seen.contains entry.1).flatMap (·.2)).length

theorem unseenTargets_cons (entry : String × List String) (rest : Bindings (List String))
    (seen : List String) :
    unseenTargets (entry :: rest) seen =
      (if entry.1 ∈ seen then 0 else entry.2.length) + unseenTargets rest seen := by
  by_cases known : entry.1 ∈ seen <;> simp [unseenTargets, known]

theorem unseenTargets_anti (replaced : Bindings (List String)) (seen : List String)
    (id : String) : unseenTargets replaced (id :: seen) ≤ unseenTargets replaced seen := by
  induction replaced with
  | nil => exact Nat.le_refl _
  | cons entry rest ih =>
      rw [unseenTargets_cons, unseenTargets_cons]
      by_cases known : entry.1 ∈ seen
      · simp only [known, List.mem_cons, or_true, if_true]
        omega
      · simp only [known, if_false]
        split <;> omega

theorem unseenTargets_find? {targets : List String} (listed : replaced.find? id = some targets)
    (unseen : id ∉ seen) :
    targets.length + unseenTargets replaced (id :: seen) ≤ unseenTargets replaced seen := by
  induction replaced with
  | nil => simp [Bindings.find?] at listed
  | cons entry rest ih =>
      obtain ⟨key, value⟩ := entry
      rw [unseenTargets_cons, unseenTargets_cons]
      by_cases same : key = id
      · subst same
        simp only [Bindings.find?, if_true, Option.some.injEq] at listed
        subst listed
        have others := unseenTargets_anti rest seen key
        simp only [List.mem_cons, true_or, if_true, unseen, if_false]
        omega
      · simp only [Bindings.find?, same, if_false] at listed
        have others := ih listed
        simp only [List.mem_cons, same, false_or]
        omega

/-- What holds while replacements are followed: ids that have been seen have replacements, found
ids have none, and every replacement of a seen id is accounted for. -/
structure RewireState (replaced : Bindings (List String)) (seen found pending : List String) :
    Prop where
  seen_replaced : ∀ id ∈ seen, replaced.find? id ≠ none
  found_kept : ∀ id ∈ found, replaced.find? id = none
  followed : ∀ id ∈ seen, ∀ next, Replaces replaced id next →
    next ∈ seen ∨ next ∈ found ∨ next ∈ pending

namespace RewireState

theorem skip (state : RewireState replaced seen found (id :: pending)) (known : id ∈ seen) :
    RewireState replaced seen found pending where
  seen_replaced := state.seen_replaced
  found_kept := state.found_kept
  followed other listed next step := by
    rcases state.followed other listed next step with h | h | h
    · exact .inl h
    · exact .inr (.inl h)
    · rcases List.mem_cons.mp h with rfl | h
      · exact .inl known
      · exact .inr (.inr h)

theorem replace {targets : List String}
    (state : RewireState replaced seen found (id :: pending))
    (listed : replaced.find? id = some targets) :
    RewireState replaced (id :: seen) found (targets ++ pending) where
  seen_replaced other member := by
    rcases List.mem_cons.mp member with rfl | member
    · simp [listed]
    · exact state.seen_replaced other member
  found_kept := state.found_kept
  followed other member next step := by
    rcases List.mem_cons.mp member with rfl | member
    · obtain ⟨others, same, among⟩ := step
      rw [listed] at same
      cases same
      exact .inr (.inr (List.mem_append_left _ among))
    · rcases state.followed other member next step with h | h | h
      · exact .inl (List.mem_cons_of_mem _ h)
      · exact .inr (.inl h)
      · rcases List.mem_cons.mp h with rfl | h
        · exact .inl List.mem_cons_self
        · exact .inr (.inr (List.mem_append_right _ h))

theorem find (state : RewireState replaced seen found (id :: pending))
    (kept : replaced.find? id = none) :
    RewireState replaced seen (if found.contains id then found else found ++ [id]) pending where
  seen_replaced := state.seen_replaced
  found_kept other member := by
    rcases mem_noted.mp member with old | rfl
    · exact state.found_kept other old
    · exact kept
  followed other member next step := by
    rcases state.followed other member next step with h | h | h
    · exact .inl h
    · exact .inr (.inl (mem_noted.mpr (.inl h)))
    · rcases List.mem_cons.mp h with rfl | h
      · exact .inr (.inl (mem_noted.mpr (.inr rfl)))
      · exact .inr (.inr h)

end RewireState

theorem rewireFrom_state {steps : Nat} (state : RewireState replaced seen found pending)
    (enough : pending.length + unseenTargets replaced seen ≤ steps) :
    ∃ visited, RewireState replaced visited (rewireFrom replaced steps seen found pending) [] ∧
      seen ⊆ visited ∧ found ⊆ rewireFrom replaced steps seen found pending ∧
      ∀ id ∈ pending, id ∈ visited ∨ id ∈ rewireFrom replaced steps seen found pending := by
  -- each step takes one id away, or adds as many as it takes from the unseen replacements
  induction steps generalizing seen found pending with
  | zero =>
      cases pending with
      | nil => exact ⟨seen, state, fun _ h => h, fun _ h => h, by simp⟩
      | cons id rest => simp at enough
  | succ steps ih =>
      cases pending with
      | nil => exact ⟨seen, state, fun _ h => h, fun _ h => h, by simp⟩
      | cons id rest =>
          simp only [List.length_cons] at enough
          cases listed : replaced.find? id with
          | none =>
              simp only [rewireFrom, listed]
              obtain ⟨visited, done, seenKept, foundKept, reached⟩ :=
                ih (state.find listed) (by omega)
              refine ⟨visited, done, seenKept, fun x h => foundKept (mem_noted.mpr (.inl h)), ?_⟩
              intro x h
              rcases List.mem_cons.mp h with rfl | h
              · exact .inr (foundKept (mem_noted.mpr (.inr rfl)))
              · exact reached x h
          | some targets =>
              by_cases known : id ∈ seen
              · simp only [rewireFrom, listed, List.contains_eq_mem, known, decide_true, if_true]
                obtain ⟨visited, done, seenKept, foundKept, reached⟩ :=
                  ih (state.skip known) (by omega)
                refine ⟨visited, done, seenKept, foundKept, fun x h => ?_⟩
                rcases List.mem_cons.mp h with rfl | h
                · exact .inl (seenKept known)
                · exact reached x h
              · simp only [rewireFrom, listed, List.contains_eq_mem, known, decide_false,
                  Bool.false_eq_true, if_false]
                have used := unseenTargets_find? listed known
                obtain ⟨visited, done, seenKept, foundKept, reached⟩ :=
                  ih (state.replace listed) (by rw [List.length_append]; omega)
                refine ⟨visited, done, fun x h => seenKept (List.mem_cons_of_mem _ h), foundKept,
                  fun x h => ?_⟩
                rcases List.mem_cons.mp h with rfl | h
                · exact .inl (seenKept List.mem_cons_self)
                · exact reached x (List.mem_append_right _ h)

theorem unseenTargets_nil (replaced : Bindings (List String)) :
    unseenTargets replaced [] = (replaced.flatMap fun entry => entry.2).length := by
  have all : replaced.filter (fun entry => !([] : List String).contains entry.1) = replaced :=
    List.filter_eq_self.mpr (by simp)
  rw [unseenTargets, all]

/-- Every id to which replacements lead is found. -/
theorem mem_rewire_of_resolves (named : start ∈ dependsOn) (resolved : Resolves replaced start id) :
    id ∈ rewire replaced dependsOn := by
  obtain ⟨path, kept⟩ := resolved
  have initial : RewireState replaced [] [] dependsOn := ⟨by simp, by simp, by simp⟩
  obtain ⟨visited, done, _, _, reached⟩ :=
    rewireFrom_state initial (Nat.add_le_add_left (Nat.le_of_eq (unseenTargets_nil replaced)) _)
  have handled : id ∈ visited ∨ id ∈ rewire replaced dependsOn := by
    clear kept
    induction path with
    | refl => exact reached start named
    | @tail middle next _ step ih =>
        rcases ih with inside | out
        · rcases done.followed middle inside next step with h | h | h
          · exact .inl h
          · exact .inr h
          · contradiction
        · obtain ⟨_, listed, _⟩ := step
          rw [done.found_kept middle out] at listed
          contradiction
  rcases handled with inside | out
  · exact absurd kept (done.seen_replaced id inside)
  · exact out

/-- Whatever replacements keep holds of all that is found. -/
theorem rewireFrom_keeps {steps : Nat} (holds : String → Prop)
    (kept : ∀ id next, Replaces replaced id next → holds id → holds next)
    (foundHolds : ∀ id ∈ found, holds id ∧ replaced.find? id = none)
    (pendingHolds : ∀ id ∈ pending, holds id) :
    ∀ id ∈ rewireFrom replaced steps seen found pending, holds id ∧ replaced.find? id = none := by
  induction steps generalizing seen found pending with
  | zero => cases pending <;> exact foundHolds
  | succ steps ih =>
      cases pending with
      | nil => exact foundHolds
      | cons id rest =>
          rw [List.forall_mem_cons] at pendingHolds
          obtain ⟨here, later⟩ := pendingHolds
          cases listed : replaced.find? id with
          | none =>
              simp only [rewireFrom, listed]
              refine ih (fun other member => ?_) later
              rcases mem_noted.mp member with old | rfl
              · exact foundHolds other old
              · exact ⟨here, listed⟩
          | some targets =>
              simp only [rewireFrom, listed]
              split
              · exact ih foundHolds later
              · refine ih foundHolds fun other member => ?_
                rcases List.mem_append.mp member with target | waiting
                · exact kept id other ⟨targets, listed, target⟩ here
                · exact later other waiting

/-- The rewired dependencies are exactly the ids to which replacements lead from the written ones. -/
theorem mem_rewire :
    id ∈ rewire replaced dependsOn ↔ ∃ start ∈ dependsOn, Resolves replaced start id := by
  constructor
  · intro found
    have led : (∃ start ∈ dependsOn, ReflTransGen (Replaces replaced) start id) ∧
        replaced.find? id = none :=
      rewireFrom_keeps
        (fun id => ∃ start ∈ dependsOn, ReflTransGen (Replaces replaced) start id)
        (fun _ _ step ⟨start, named, path⟩ => ⟨start, named, path.tail step⟩)
        (by simp) (fun start named => ⟨start, named, .refl⟩) id found
    obtain ⟨⟨start, named, path⟩, kept⟩ := led
    exact ⟨start, named, path, kept⟩
  · rintro ⟨start, named, resolved⟩
    exact mem_rewire_of_resolves named resolved

end StagePlan.Graph
