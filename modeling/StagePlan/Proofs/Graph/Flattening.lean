import StagePlan.Proofs.Graph.Reachability
import StagePlan.Proofs.Graph.Repetition
import StagePlan.Proofs.Graph.Rewiring

namespace StagePlan.Graph

open Relation

/-!
Writing out replaced ids one by one, from left to right. If no id leads back to itself, every list can
be written out, and in one way. Following replacements with a worklist does the same but for copies:
when an id is met again, all it stands for has been found before.
-/

variable {replaced : Bindings (List String)} {seen found pending ids front out targets : List String}
  {id key : String}

/-- The list with every replaced id written out, as far as that leads. -/
inductive Flattens (replaced : Bindings (List String)) : List String → List String → Prop
  | nil : Flattens replaced [] []
  | kept {id : String} {rest out : List String} : replaced.find? id = none →
      Flattens replaced rest out → Flattens replaced (id :: rest) (id :: out)
  | replaced {id : String} {targets rest front out : List String} :
      replaced.find? id = some targets → Flattens replaced targets front →
      Flattens replaced rest out → Flattens replaced (id :: rest) (front ++ out)

namespace Flattens

theorem append {rest back : List String} (first : Flattens replaced ids front)
    (second : Flattens replaced rest back) : Flattens replaced (ids ++ rest) (front ++ back) := by
  induction first with
  | nil => exact second
  | kept none_ _ ih => exact .kept none_ ih
  | replaced listed inner _ _ ih =>
      rw [List.append_assoc]
      exact .replaced listed inner ih

/-- Ids that can be written out one by one can be written out as a list. -/
theorem exists_of_each (each : ∀ id ∈ ids, ∃ out, Flattens replaced [id] out) :
    ∃ out, Flattens replaced ids out := by
  induction ids with
  | nil => exact ⟨[], .nil⟩
  | cons id rest ih =>
      obtain ⟨here, others⟩ := List.forall_mem_cons.mp each
      obtain ⟨front, first⟩ := here
      obtain ⟨back, second⟩ := ih others
      exact ⟨front ++ back, first.append second⟩

/-- Of each id that is written out, replacements lead there from an id of the list. -/
theorem resolves (flattens : Flattens replaced ids out) (listed : id ∈ out) :
    ∃ start ∈ ids, Resolves replaced start id := by
  induction flattens with
  | nil => contradiction
  | @kept next rest out none_ _ ih =>
      rcases List.mem_cons.mp listed with rfl | later
      · exact ⟨id, List.mem_cons_self, .refl, none_⟩
      · obtain ⟨start, among, resolved⟩ := ih later
        exact ⟨start, List.mem_cons_of_mem _ among, resolved⟩
  | @replaced next targets rest front out found _ _ inner outer =>
      rcases List.mem_append.mp listed with here | later
      · obtain ⟨start, among, path, none_⟩ := inner here
        exact ⟨next, List.mem_cons_self, .head ⟨targets, found, among⟩ path, none_⟩
      · obtain ⟨start, among, resolved⟩ := outer later
        exact ⟨start, List.mem_cons_of_mem _ among, resolved⟩

theorem unique {other : List String} (flattens : Flattens replaced ids out)
    (also : Flattens replaced ids other) : other = out := by
  induction flattens generalizing other with
  | nil =>
      cases also
      rfl
  | kept none_ _ ih =>
      cases also with
      | kept _ later => rw [ih later]
      | replaced listed => simp [none_] at listed
  | replaced listed _ _ inner outer =>
      cases also with
      | kept none_ => simp [listed] at none_
      | replaced again front later =>
          rw [listed, Option.some.injEq] at again
          subst again
          rw [inner front, outer later]

end Flattens

/-- What becomes of a replaced id leads on from one of its replacements. -/
theorem Resolves.head (resolved : Resolves replaced key id)
    (listed : replaced.find? key = some targets) : ∃ next ∈ targets, Resolves replaced next id := by
  obtain ⟨path, none_⟩ := resolved
  rcases path.cases_head with rfl | ⟨next, ⟨others, found, among⟩, onward⟩
  · rw [listed] at none_
    contradiction
  · rw [listed] at found
    cases found
    exact ⟨next, among, onward, none_⟩

theorem resolves_of_kept (none_ : replaced.find? key = none) (resolved : Resolves replaced key id) :
    id = key := by
  obtain ⟨path, _⟩ := resolved
  rcases path.cases_head with rfl | ⟨_, ⟨_, found, _⟩, _⟩
  · rfl
  · rw [none_] at found
    contradiction

/-- No id leads back to itself. -/
def Unrolled (replaced : Bindings (List String)) : Prop :=
  ∀ id, ¬ TransGen (Replaces replaced) id id

namespace Unrolled

theorem wellFounded (unrolled : Unrolled replaced) :
    WellFounded fun next id => TransGen (Replaces replaced) id next := by
  refine wellFounded_of_listed (replaced.flatMap (·.2)) unrolled
    (fun _ _ _ first second => second.trans first) fun next id path => ?_
  obtain ⟨last, _, targets, listed, named⟩ := TransGen.tail'_iff.mp path
  exact List.mem_flatMap.mpr ⟨(last, targets), Bindings.mem_of_find? listed, named⟩

/-- Every list can be written out. -/
theorem exists_flattens (unrolled : Unrolled replaced) (ids : List String) :
    ∃ out, Flattens replaced ids out := by
  have each : ∀ id, ∃ out, Flattens replaced [id] out := by
    intro id
    induction id using unrolled.wellFounded.induction with
    | _ id ih =>
        cases listed : replaced.find? id with
        | none => exact ⟨[id], .kept listed .nil⟩
        | some targets =>
            obtain ⟨front, flattens⟩ := Flattens.exists_of_each fun next named =>
              ih next (.single ⟨targets, listed, named⟩)
            exact ⟨front ++ [], .replaced listed flattens .nil⟩
  exact Flattens.exists_of_each fun id _ => each id

/-- It is enough that each replacement ranks below the id that it replaces. -/
theorem of_rank (rank : String → Nat)
    (lower : ∀ entry ∈ replaced, ∀ next ∈ entry.2, rank next < rank entry.1) :
    Unrolled replaced := by
  have falls : ∀ id next, TransGen (Replaces replaced) id next → rank next < rank id := by
    intro id next path
    induction path with
    | single step =>
        obtain ⟨targets, listed, named⟩ := step
        exact lower _ (Bindings.mem_of_find? listed) _ named
    | tail _ step ih =>
        obtain ⟨targets, listed, named⟩ := step
        exact (lower _ (Bindings.mem_of_find? listed) _ named).trans ih
  exact fun id ring => Nat.lt_irrefl _ (falls id id ring)

end Unrolled

/-- Where the replacements of a seen id stand: those that still wait are at the front, and what the
others lead to has been found. -/
def Traced (replaced : Bindings (List String)) (found pending : List String) (key : String) : Prop :=
  ∃ front rest, pending = front ++ rest ∧ (∀ next ∈ front, TransGen (Replaces replaced) key next) ∧
    ∀ id, Resolves replaced key id → id ∈ found ∨ ∃ next ∈ front, Resolves replaced next id

namespace Traced

/-- When a seen id has come to the front again, all that it leads to has been found. -/
theorem settled (unrolled : Unrolled replaced) (traced : Traced replaced found (key :: pending) key)
    (resolved : Resolves replaced key id) : id ∈ found := by
  obtain ⟨front, rest, split, below, leads⟩ := traced
  cases front with
  | nil => simpa using leads id resolved
  | cons first others =>
      obtain rfl : key = first := (List.cons.inj split).1
      exact absurd (below key List.mem_cons_self) (unrolled key)

/-- The first id goes, with all that it leads to found. -/
theorem pop {found' : List String} (traced : Traced replaced found (id :: pending) key)
    (grows : found ⊆ found') (done : ∀ x, Resolves replaced id x → x ∈ found') :
    Traced replaced found' pending key := by
  obtain ⟨front, rest, split, below, leads⟩ := traced
  cases front with
  | nil => exact ⟨[], pending, rfl, by simp, fun x resolved => by
      simpa using Or.imp_left (@grows x) (leads x resolved)⟩
  | cons first others =>
      obtain ⟨rfl, rfl⟩ := List.cons.inj split
      refine ⟨others, rest, rfl, fun next among => below next (List.mem_cons_of_mem _ among), ?_⟩
      intro x resolved
      rcases leads x resolved with old | ⟨next, among, onward⟩
      · exact .inl (grows old)
      · rcases List.mem_cons.mp among with rfl | among
        · exact .inl (done x onward)
        · exact .inr ⟨next, among, onward⟩

/-- Replacements come in for the first id. -/
theorem push (traced : Traced replaced found (id :: pending) key)
    (listed : replaced.find? id = some targets) :
    Traced replaced found (targets ++ pending) key := by
  obtain ⟨front, rest, split, below, leads⟩ := traced
  cases front with
  | nil => exact ⟨[], _, rfl, by simp, leads⟩
  | cons first others =>
      obtain ⟨rfl, rfl⟩ := List.cons.inj split
      refine ⟨targets ++ others, rest, by simp, fun next among => ?_, fun x resolved => ?_⟩
      · rcases List.mem_append.mp among with target | among
        · exact (below id List.mem_cons_self).tail ⟨targets, listed, target⟩
        · exact below next (List.mem_cons_of_mem _ among)
      · rcases leads x resolved with old | ⟨next, among, onward⟩
        · exact .inl old
        · rcases List.mem_cons.mp among with rfl | among
          · obtain ⟨target, inside, further⟩ := onward.head listed
            exact .inr ⟨target, List.mem_append_left _ inside, further⟩
          · exact .inr ⟨next, List.mem_append_right _ among, onward⟩

theorem start (listed : replaced.find? key = some targets) :
    Traced replaced found (targets ++ pending) key :=
  ⟨targets, pending, rfl, fun _ among => .single ⟨targets, listed, among⟩,
    fun _ resolved => .inr (resolved.head listed)⟩

end Traced

theorem rewireFrom_eq_noteAll {steps : Nat} (unrolled : Unrolled replaced)
    (traced : ∀ key ∈ seen, Traced replaced found pending key)
    (enough : pending.length + unseenTargets replaced seen ≤ steps)
    (flattens : Flattens replaced pending out) :
    rewireFrom replaced steps seen found pending = noteAll found out := by
  induction steps generalizing seen found pending out with
  | zero =>
      cases flattens with
      | nil => rfl
      | kept => simp at enough
      | replaced => simp at enough
  | succ steps ih =>
      cases flattens with
      | nil => rfl
      | @kept id rest out none_ later =>
          rw [List.length_cons] at enough
          simp only [rewireFrom, none_]
          exact ih
            (fun key member => (traced key member).pop (fun x old => mem_noted.mpr (.inl old))
              fun x resolved => mem_noted.mpr (.inr (resolves_of_kept none_ resolved)))
            (by omega) later
      | @replaced id targets rest front out listed inner later =>
          rw [List.length_cons] at enough
          by_cases known : id ∈ seen
          · have settled : ∀ x, Resolves replaced id x → x ∈ found :=
              fun _ => (traced id known).settled unrolled
            have skipped := ih (fun key member => (traced key member).pop (fun _ old => old) settled)
              (by omega) later
            have copied : front ⊆ found := by
              intro x among
              obtain ⟨start, target, path, none_⟩ := inner.resolves among
              exact settled x ⟨path.head ⟨targets, listed, target⟩, none_⟩
            rw [noteAll_append, noteAll_of_subset copied]
            simpa [rewireFrom, listed, known] using skipped
          · have used := unseenTargets_find? listed known
            have tracedAll : ∀ key ∈ id :: seen, Traced replaced found (targets ++ rest) key := by
              intro key member
              rcases List.mem_cons.mp member with rfl | member
              · exact .start listed
              · exact (traced key member).push listed
            have opened := ih tracedAll (by rw [List.length_append]; omega) (inner.append later)
            simpa [rewireFrom, listed, known] using opened

/-- Following replacements that lead nowhere twice is writing them out from left to right, and
dropping later copies. -/
theorem rewire_eq_dedup (unrolled : Unrolled replaced) (flattens : Flattens replaced ids out) :
    rewire replaced ids = dedup out :=
  rewireFrom_eq_noteAll unrolled (by simp)
    (Nat.add_le_add_left (Nat.le_of_eq (unseenTargets_nil replaced)) _) flattens

end StagePlan.Graph
