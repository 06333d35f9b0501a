import Mathlib.Data.List.Perm.Basic
import StagePlan.Proofs.Matching
import StagePlan.Proofs.Value.Parts

namespace StagePlan.Value

/-!
Values that are alike but for the order of the entries of their maps. What is required of two numbers
that stand at the same place is left open. The relation is followed through maps by what is known of
permutations: entries that match one by one still do when both lists are brought into another order.
-/

variable {same other : Number → Number → Prop} {xs ys : List Value}
  {first second : List (String × Value)}

mutual

/-- Values of one shape, with numbers that are the same in a given sense at the same places. The
entries of a map may stand in any order. -/
def Alike (same : Number → Number → Prop) : Value → Value → Prop
  | .null, .null => True
  | .bool a, .bool b => a = b
  | .number m, .number n => same m n
  | .string s, .string t => s = t
  | .list xs, .list ys => AlikeItems same xs ys
  | .map xs, .map ys => ∃ ordered, ordered.Perm ys ∧ AlikeEntries same xs ordered
  | _, _ => False

def AlikeItems (same : Number → Number → Prop) : List Value → List Value → Prop
  | [], [] => True
  | x :: xs, y :: ys => Alike same x y ∧ AlikeItems same xs ys
  | _, _ => False

/-- Entries that match one by one. -/
def AlikeEntries (same : Number → Number → Prop) :
    List (String × Value) → List (String × Value) → Prop
  | [], [] => True
  | (key, x) :: xs, (name, y) :: ys => (key = name ∧ Alike same x y) ∧ AlikeEntries same xs ys
  | _, _ => False

end

/-- Values that differ by nothing but the order of the entries of their maps. -/
def Reordered : Value → Value → Prop :=
  Alike (· = ·)

/-- Two entries with one key and values that are alike. -/
def AlikeEntry (same : Number → Number → Prop) (x y : String × Value) : Prop :=
  x.1 = y.1 ∧ Alike same x.2 y.2

theorem alikeItems_iff : AlikeItems same xs ys ↔ List.Forall₂ (Alike same) xs ys := by
  induction xs generalizing ys with
  | nil => cases ys <;> simp [AlikeItems]
  | cons x xs ih => cases ys <;> simp [AlikeItems, ih]

theorem alikeEntries_iff :
    AlikeEntries same first second ↔ List.Forall₂ (AlikeEntry same) first second := by
  induction first generalizing second with
  | nil => cases second <;> simp [AlikeEntries]
  | cons x xs ih => cases second <;> simp [AlikeEntries, AlikeEntry, ih]

@[simp] theorem alike_list :
    Alike same (.list xs) (.list ys) ↔ List.Forall₂ (Alike same) xs ys := by
  rw [Alike, alikeItems_iff]

@[simp] theorem alike_map :
    Alike same (.map first) (.map second) ↔
      ∃ ordered, ordered.Perm second ∧ List.Forall₂ (AlikeEntry same) first ordered := by
  simp only [Alike, alikeEntries_iff]

theorem Alike.refl {v : Value} (reflexive : ∀ n, HasNumber n v → same n n) : Alike same v v := by
  induction v using parts_induction with
  | null => trivial
  | bool b => rfl
  | number n => exact reflexive n .here
  | string text => rfl
  | list items ih =>
      rw [alike_list, List.forall₂_same]
      intro item listed
      apply ih item listed
      intro n inside
      exact reflexive n (.item listed inside)
  | map entries ih =>
      rw [alike_map]
      refine ⟨entries, List.Perm.refl _, ?_⟩
      rw [List.forall₂_same]
      intro entry listed
      refine ⟨rfl, ih entry listed ?_⟩
      intro n inside
      exact reflexive n (.entry listed inside)

/-- Induction on values that are alike. -/
@[elab_as_elim]
theorem Alike.parts {motive : ∀ v w, Alike same v w → Prop} (null : motive .null .null trivial)
    (bool : ∀ b, motive (.bool b) (.bool b) rfl)
    (number : ∀ m n (related : same m n), motive (.number m) (.number n) related)
    (string : ∀ text, motive (.string text) (.string text) rfl)
    (list : ∀ xs ys (alike : Alike same (.list xs) (.list ys)),
      List.Forall₂ (fun x y => ∃ related, motive x y related) xs ys → motive _ _ alike)
    (map : ∀ first second (alike : Alike same (.map first) (.map second)) ordered,
      ordered.Perm second →
        List.Forall₂ (fun x y => x.1 = y.1 ∧ ∃ related, motive x.2 y.2 related) first ordered →
          motive _ _ alike)
    {v w : Value} (alike : Alike same v w) : motive v w alike := by
  induction v using parts_induction generalizing w with
  | null =>
      cases w with
      | null => exact null
      | _ => exact False.elim alike
  | bool b =>
      cases w with
      | bool other_b =>
          obtain rfl : b = other_b := alike
          exact bool b
      | _ => exact False.elim alike
  | number m =>
      cases w with
      | number n => exact number m n alike
      | _ => exact False.elim alike
  | string text =>
      cases w with
      | string other_text =>
          obtain rfl : text = other_text := alike
          exact string text
      | _ => exact False.elim alike
  | list items ih =>
      cases w with
      | list ys =>
          apply list items ys alike
          apply forall₂_of_mem (alike_list.mp alike)
          intro item listed y _ related
          exact ⟨related, ih item listed related⟩
      | _ => simp [Alike] at alike
  | map entries ih =>
      cases w with
      | map ys =>
          obtain ⟨ordered, perm, matched⟩ := alike_map.mp alike
          apply map entries ys alike ordered perm
          apply forall₂_of_mem matched
          intro entry listed y _ related
          exact ⟨related.1, related.2, ih entry listed related.2⟩
      | _ => simp [Alike] at alike

theorem Alike.imp {v w : Value} (alike : Alike same v w)
    (step : ∀ m n, HasNumber m v → HasNumber n w → same m n → other m n) : Alike other v w := by
  induction alike using Alike.parts with
  | null => trivial
  | bool b => rfl
  | number m n related => exact step m n .here .here related
  | string text => rfl
  | list xs ys _ each =>
      rw [alike_list]
      apply forall₂_of_mem each
      intro x listed y among both
      obtain ⟨_, ih⟩ := both
      apply ih
      intro m n inside other_inside
      exact step m n (.item listed inside) (.item among other_inside)
  | map first second _ ordered perm each =>
      rw [alike_map]
      refine ⟨ordered, perm, ?_⟩
      apply forall₂_of_mem each
      intro x listed y among both
      obtain ⟨key, _, ih⟩ := both
      refine ⟨key, ih ?_⟩
      intro m n inside other_inside
      exact step m n (.entry listed inside) (.entry (perm.mem_iff.mp among) other_inside)

theorem Alike.symm {v w : Value} (symmetric : ∀ m n, same m n → same n m)
    (alike : Alike same v w) : Alike same w v := by
  induction alike using Alike.parts with
  | null => trivial
  | bool b => rfl
  | number m n related => exact symmetric m n related
  | string text => rfl
  | list xs ys _ each =>
      rw [alike_list]
      apply List.Forall₂.flip
      apply each.imp
      intro x y both
      obtain ⟨_, ih⟩ := both
      exact ih
  | map first second _ ordered perm each =>
      rw [alike_map]
      have back : List.Forall₂ (AlikeEntry same) ordered first := by
        apply List.Forall₂.flip
        apply each.imp
        intro x y both
        obtain ⟨key, _, ih⟩ := both
        exact ⟨key.symm, ih⟩
      obtain ⟨moved, matched, perm_first⟩ := List.perm_comp_forall₂ perm.symm back
      exact ⟨moved, perm_first, matched⟩

/-- A value that is alike to one that is alike to a third. -/
theorem Alike.trans {early late whole : Number → Number → Prop} {u v w : Value}
    (compose : ∀ l m n, early l m → late m n → whole l n) (before : Alike early u v)
    (after : Alike late v w) : Alike whole u w := by
  induction before using Alike.parts generalizing w with
  | null => cases w <;> simp_all [Alike]
  | bool b => cases w <;> simp_all [Alike]
  | string text => cases w <;> simp_all [Alike]
  | number l m related =>
      cases w with
      | number n => exact compose l m n related after
      | _ => exact False.elim after
  | list xs ys _ each =>
      cases w with
      | list zs =>
          rw [alike_list] at after ⊢
          apply forall₂_through each after
          intro x _ y z both next
          obtain ⟨_, ih⟩ := both
          exact ih next
      | _ => simp [Alike] at after
  | map first second _ ordered perm each =>
      cases w with
      | map zs =>
          rw [alike_map] at after ⊢
          obtain ⟨reached, perm_reached, matched⟩ := after
          -- the entries of the third map, brought into the order of the first one
          obtain ⟨last, matched_last, perm_last⟩ := List.perm_comp_forall₂ perm matched
          refine ⟨last, perm_last.trans perm_reached, ?_⟩
          apply forall₂_through each matched_last
          intro x _ y z both next
          obtain ⟨key, _, ih⟩ := both
          exact ⟨key.trans next.1, ih next.2⟩
      | _ => simp [Alike] at after

theorem Reordered.refl (v : Value) : Reordered v v :=
  Alike.refl fun _ _ => rfl

theorem Reordered.symm {v w : Value} (reordered : Reordered v w) : Reordered w v :=
  Alike.symm (fun _ _ => Eq.symm) reordered

theorem Reordered.trans {u v w : Value} (before : Reordered u v) (after : Reordered v w) :
    Reordered u w := by
  apply Alike.trans _ before after
  intro l m n first second
  exact first.trans second

section Invariants

variable {v w : Value}

theorem Alike.hasNumber {n : Number} (alike : Alike same v w) (inside : HasNumber n v) :
    ∃ m, HasNumber m w ∧ same n m := by
  induction inside generalizing w with
  | here =>
      cases w with
      | number m => exact ⟨m, .here, alike⟩
      | _ => simp [Alike] at alike
  | item listed _ ih =>
      cases w with
      | list ys =>
          rw [alike_list] at alike
          obtain ⟨y, among, related⟩ := exists_right alike listed
          obtain ⟨m, inside, together⟩ := ih related
          exact ⟨m, .item among inside, together⟩
      | _ => simp [Alike] at alike
  | entry listed _ ih =>
      cases w with
      | map ys =>
          rw [alike_map] at alike
          obtain ⟨ordered, perm, matched⟩ := alike
          obtain ⟨y, among, related⟩ := exists_right matched listed
          obtain ⟨m, inside, together⟩ := ih related.2
          exact ⟨m, .entry (perm.mem_iff.mp among) inside, together⟩
      | _ => simp [Alike] at alike

theorem names_of_matched (matched : List.Forall₂ (fun x y => x.1 = y.1) first second) :
    Bindings.names first = Bindings.names second := by
  induction matched with
  | nil => rfl
  | cons head _ ih => rw [Bindings.names_cons, Bindings.names_cons, head, ih]

theorem Alike.wellFormed (alike : Alike same v w) (formed : v.WellFormed) : w.WellFormed := by
  induction alike using Alike.parts with
  | null => exact formed
  | bool b => exact formed
  | number m n => trivial
  | string text => exact formed
  | list xs ys _ each =>
      rw [WellFormed, wellFormedItems_iff] at formed ⊢
      intro y among
      obtain ⟨x, listed, _, ih⟩ := exists_left each among
      exact ih (formed x listed)
  | map first second _ ordered perm each =>
      rw [WellFormed, wellFormedEntries_iff] at formed ⊢
      constructor
      · have names : (Bindings.names ordered).Perm (Bindings.names second) := perm.map _
        rw [Bindings.Distinct, ← names.nodup_iff,
          ← names_of_matched (each.imp fun _ _ both => both.1)]
        exact formed.1
      · intro y among
        obtain ⟨x, listed, _, _, ih⟩ := exists_left each (perm.mem_iff.mpr among)
        exact ih (formed.2 x listed)

end Invariants

end StagePlan.Value
