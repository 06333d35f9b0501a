import Mathlib.Data.List.Forall2

namespace StagePlan

/-!
Lists whose members match one by one.
-/

variable {α β γ : Type}

theorem forall₂_of_mem {r s : α → β → Prop} {l : List α} {m : List β}
    (matched : List.Forall₂ r l m) (step : ∀ a ∈ l, ∀ b ∈ m, r a b → s a b) :
    List.Forall₂ s l m := by
  induction matched with
  | nil => exact .nil
  | cons head _ ih =>
      apply List.Forall₂.cons
      · exact step _ List.mem_cons_self _ List.mem_cons_self head
      · apply ih
        intro a listed b among
        exact step a (List.mem_cons_of_mem _ listed) b (List.mem_cons_of_mem _ among)

/-- Two lists that both match a third one in between. -/
theorem forall₂_through {r : α → β → Prop} {s : β → γ → Prop} {t : α → γ → Prop}
    {l : List α} {m : List β} {n : List γ} (before : List.Forall₂ r l m)
    (after : List.Forall₂ s m n) (compose : ∀ a ∈ l, ∀ b c, r a b → s b c → t a c) :
    List.Forall₂ t l n := by
  induction before generalizing n with
  | nil =>
      cases after
      exact .nil
  | cons head _ ih =>
      cases after with
      | cons next others =>
          apply List.Forall₂.cons
          · exact compose _ List.mem_cons_self _ _ head next
          · apply ih others
            intro a listed
            exact compose a (List.mem_cons_of_mem _ listed)

theorem exists_left {relates : α → β → Prop} {lefts : List α} {rights : List β}
    (related : List.Forall₂ relates lefts rights) {b : β} (listed : b ∈ rights) :
    ∃ a ∈ lefts, relates a b := by
  induction related with
  | nil => simp at listed
  | cons first _ ih =>
      rcases List.mem_cons.mp listed with rfl | later
      · exact ⟨_, List.mem_cons_self, first⟩
      · obtain ⟨a, member, relation⟩ := ih later
        exact ⟨a, List.mem_cons_of_mem _ member, relation⟩

theorem exists_right {relates : α → β → Prop} {lefts : List α} {rights : List β}
    (related : List.Forall₂ relates lefts rights) {a : α} (listed : a ∈ lefts) :
    ∃ b ∈ rights, relates a b :=
  exists_left related.flip listed

end StagePlan
