import Mathlib.Data.List.Nodup
import Mathlib.Data.List.Perm.Subperm
import Mathlib.Tactic.Tauto
import StagePlan.Proofs.Value.Reordering
import StagePlan.Value.Equality

namespace StagePlan

/-!
The two equalities of values. Maps are compared by looking up each key of the first one in the
second. Since keys are distinct and the lengths are equal, that leaves no entry of the second map
over: the maps match entry by entry in some order. So both equalities say that values are alike, and
what numbers have to do with each other is all in which they differ.
-/

namespace Binary64

variable {x y : Binary64}

theorem equals_symm (x y : Binary64) : x.equals y = y.equals x := by
  rw [Bool.eq_iff_iff]
  simp only [equals, Bool.and_eq_true, Bool.or_eq_true, decide_eq_true_eq]
  tauto

theorem equals_self (counted : x.isNaN = false) : x.equals x = true := by
  simp [equals, counted]

end Binary64

namespace Number

theorem equals_symm (m n : Number) : m.equals n = n.equals m := by
  cases m <;> cases n <;> simp only [equals, Binary64.equals_symm]
  rw [decide_eq_decide]
  exact eq_comm

theorem equals_of_strictlyEquals {m n : Number} (same : m.strictlyEquals n = true) :
    m.equals n = true := by
  cases m <;> cases n
  · exact same
  · cases same
  · cases same
  · exact same

end Number

namespace Value

variable {same : Number → Number → Prop} {first second : List (String × Value)}

/-- Every entry of the first list has one under its key in the second. Those make up the second list
if it is no longer than the first. -/
theorem exists_matched (found : ∀ entry ∈ first, ∃ y, Bindings.find? entry.1 second = some y ∧
    Alike same entry.2 y) :
    ∃ ordered, List.Forall₂ (AlikeEntry same) first ordered ∧ ordered ⊆ second := by
  induction first with
  | nil => exact ⟨[], .nil, List.nil_subset _⟩
  | cons entry rest ih =>
      rw [List.forall_mem_cons] at found
      obtain ⟨⟨y, here, related⟩, later⟩ := found
      obtain ⟨ordered, matched, among⟩ := ih later
      refine ⟨(entry.1, y) :: ordered, .cons ⟨rfl, related⟩ matched, ?_⟩
      exact List.cons_subset.mpr ⟨Bindings.mem_of_find? here, among⟩

theorem alike_map_iff (distinct : Bindings.Distinct first) (apart : Bindings.Distinct second) :
    Alike same (.map first) (.map second) ↔ first.length = second.length ∧
      ∀ entry ∈ first, ∃ y, Bindings.find? entry.1 second = some y ∧ Alike same entry.2 y := by
  rw [alike_map]
  constructor
  · intro alike
    obtain ⟨ordered, perm, matched⟩ := alike
    refine ⟨matched.length_eq.trans perm.length_eq, ?_⟩
    intro entry listed
    obtain ⟨z, among, key, related⟩ := exists_right matched listed
    refine ⟨z.2, ?_, related⟩
    rw [key]
    exact Bindings.find?_of_mem apart (perm.mem_iff.mp among)
  · intro compared
    obtain ⟨long, found⟩ := compared
    obtain ⟨ordered, matched, among⟩ := exists_matched found
    -- distinct entries of a list that are as many as it has are all of them
    have once : ordered.Nodup := by
      have names : (Bindings.names ordered).Nodup :=
        names_of_matched (matched.imp fun _ _ both => both.1) ▸ distinct
      exact List.Nodup.of_map _ names
    have enough : second.length ≤ ordered.length := by
      exact Nat.le_of_eq (long.symm.trans matched.length_eq)
    exact ⟨ordered, (List.subperm_of_subset once among).perm_of_length_le enough, matched⟩

section Computed

variable {equal other : Number → Number → Bool} {v w : Value}

theorem equalItems_iff {xs ys : List Value} :
    equalItems equal xs ys = true ↔ List.Forall₂ (fun x y => equalsBy equal x y = true) xs ys := by
  induction xs generalizing ys with
  | nil => cases ys <;> simp [equalItems]
  | cons x xs ih => cases ys <;> simp [equalItems, ih]

theorem equalEntries_iff :
    equalEntries equal first second = true ↔ ∀ entry ∈ first,
      ∃ y, Bindings.find? entry.1 second = some y ∧ equalsBy equal entry.2 y = true := by
  induction first with
  | nil => simp [equalEntries]
  | cons entry rest ih =>
      obtain ⟨key, x⟩ := entry
      rw [equalEntries, Bool.and_eq_true, ih, List.forall_mem_cons]
      cases found : Bindings.find? key second <;> simp

/-- Comparing two values tells whether they are alike. -/
theorem equalsBy_iff (formed : v.WellFormed) (other_formed : w.WellFormed) :
    equalsBy equal v w = true ↔ Alike (fun m n => equal m n = true) v w := by
  induction v using parts_induction generalizing w with
  | null => cases w <;> simp [equalsBy, Alike]
  | bool b => cases w <;> simp [equalsBy, Alike]
  | number n => cases w <;> simp [equalsBy, Alike]
  | string text => cases w <;> simp [equalsBy, Alike]
  | list items ih =>
      cases w with
      | list ys =>
          rw [WellFormed, wellFormedItems_iff] at formed other_formed
          rw [equalsBy, equalItems_iff, alike_list]
          have each (x : Value) (listed : x ∈ items) (y : Value) (among : y ∈ ys) :=
            ih x listed (formed x listed) (other_formed y among)
          constructor
          · intro matched
            exact forall₂_of_mem matched fun x listed y among => (each x listed y among).mp
          · intro matched
            exact forall₂_of_mem matched fun x listed y among => (each x listed y among).mpr
      | _ => simp [equalsBy, Alike]
  | map entries ih =>
      cases w with
      | map ys =>
          rw [WellFormed, wellFormedEntries_iff] at formed other_formed
          rw [equalsBy, Bool.and_eq_true, beq_iff_eq, equalEntries_iff,
            alike_map_iff formed.1 other_formed.1, and_congr_right_iff]
          intro _
          apply forall₂_congr
          intro entry listed
          apply exists_congr
          intro y
          rw [and_congr_right_iff]
          intro found
          have among := Bindings.mem_of_find? found
          exact ih entry listed (formed.2 entry listed) (other_formed.2 _ among)
      | _ => simp [equalsBy, Alike]

end Computed

section Laws

variable {a b : Value}

theorem strictlyEquals_iff (formed : a.WellFormed) (other_formed : b.WellFormed) :
    a.strictlyEquals b = true ↔ Alike (fun m n => m.strictlyEquals n = true) a b :=
  equalsBy_iff formed other_formed

theorem equals_iff (formed : a.WellFormed) (other_formed : b.WellFormed) :
    a.equals b = true ↔ Alike (fun m n => m.equals n = true) a b :=
  equalsBy_iff formed other_formed

theorem equals_symm (formed : a.WellFormed) (other_formed : b.WellFormed) :
    a.equals b = b.equals a := by
  have back (m n : Number) (same : m.equals n = true) : n.equals m = true := by
    rw [Number.equals_symm, same]
  rw [Bool.eq_iff_iff, equals_iff formed other_formed, equals_iff other_formed formed]
  exact ⟨Alike.symm back, Alike.symm back⟩

theorem equals_self (formed : a.WellFormed)
    (counted : ∀ x, HasNumber (.float x) a → x.isNaN = false) : a.equals a = true := by
  rw [equals_iff formed formed]
  apply Alike.refl
  intro n inside
  cases n with
  | integer n => simp [Number.equals]
  | float x => exact Binary64.equals_self (counted x inside)

theorem equals_of_strictlyEquals (formed : a.WellFormed) (other_formed : b.WellFormed)
    (same : a.strictlyEquals b = true) : a.equals b = true := by
  rw [strictlyEquals_iff formed other_formed] at same
  rw [equals_iff formed other_formed]
  apply same.imp
  intro m n _ _ related
  exact Number.equals_of_strictlyEquals related

/-- A value may be replaced by a reordered one. -/
theorem equals_of_reordered {c : Value} (formed : a.WellFormed) (other_formed : b.WellFormed)
    (reordered : Reordered a c) (same : a.equals b = true) : c.equals b = true := by
  rw [equals_iff formed other_formed] at same
  rw [equals_iff (reordered.wellFormed formed) other_formed]
  apply Alike.trans _ reordered.symm same
  intro l m n moved related
  rw [moved]
  exact related

theorem equals_congr_left {c : Value} (formed : a.WellFormed) (other_formed : b.WellFormed)
    (reordered : Reordered a c) : c.equals b = a.equals b := by
  rw [Bool.eq_iff_iff]
  constructor
  · intro same
    exact equals_of_reordered (reordered.wellFormed formed) other_formed reordered.symm same
  · exact equals_of_reordered formed other_formed reordered

theorem equals_eq_strictlyEquals (formed : a.WellFormed) (other_formed : b.WellFormed)
    (whole : ∀ n, HasNumber n a → ∃ i, n = .integer i)
    (other_whole : ∀ n, HasNumber n b → ∃ i, n = .integer i) :
    a.equals b = a.strictlyEquals b := by
  rw [Bool.eq_iff_iff]
  constructor
  · intro same
    rw [equals_iff formed other_formed] at same
    rw [strictlyEquals_iff formed other_formed]
    apply same.imp
    intro m n inside other_inside related
    obtain ⟨i, rfl⟩ := whole m inside
    obtain ⟨j, rfl⟩ := other_whole n other_inside
    exact related
  · exact equals_of_strictlyEquals formed other_formed

theorem equals_compares_contents (a b : Value) (formed : a.WellFormed)
    (other_formed : b.WellFormed) :
    a.equals b = b.equals a ∧
    ((∀ x, HasNumber (.float x) a → x.isNaN = false) → a.equals a = true) ∧
    (a.strictlyEquals b = true → a.equals b = true) ∧
    (∀ c d, Reordered a c → Reordered b d → c.equals d = a.equals b) ∧
    ((∀ n, HasNumber n a ∨ HasNumber n b → ∃ i, n = .integer i) →
      a.equals b = a.strictlyEquals b) := by
  refine ⟨equals_symm formed other_formed, equals_self formed,
    equals_of_strictlyEquals formed other_formed, ?_, ?_⟩
  · intro c d moved other_moved
    have formed_c := moved.wellFormed formed
    have formed_d := other_moved.wellFormed other_formed
    calc c.equals d
      _ = a.equals d := equals_congr_left formed formed_d moved
      _ = d.equals a := equals_symm formed formed_d
      _ = b.equals a := equals_congr_left other_formed formed other_moved
      _ = a.equals b := equals_symm other_formed formed
  · intro whole
    apply equals_eq_strictlyEquals formed other_formed
    · intro n inside
      exact whole n (.inl inside)
    · intro n inside
      exact whole n (.inr inside)

end Laws

/-- Quotas that are partly written as decimals, and reordered ones. -/
theorem equals_compares_contents_quotas :
    let half := Value.float (Binary64.ofRatio false 1 2)
    let a := Value.map [("cpu", .ofInt 2), ("zones", .list [.map [("eu", .ofInt 1), ("us", half)]])]
    let b := Value.map [("zones", .list [.map [("us", half), ("eu", .float (Binary64.ofInt 1))]]),
      ("cpu", .float (Binary64.ofInt 2))]
    let c := Value.map [("zones", .list [.map [("us", half), ("eu", .ofInt 1)]]), ("cpu", .ofInt 2)]
    let w := Value.list [.ofInt 2, .string "2"]
    a.WellFormed ∧ b.WellFormed ∧ Reordered a c ∧ a.strictlyEquals b = false ∧
      a.equals b = true ∧ b.equals a = true ∧ c.equals b = true ∧ a.equals a = true ∧
      a.strictlyEquals c = true ∧ a.equals c = true ∧ w.equals w = w.strictlyEquals w := by
  intro half a b c w
  have formed : a.WellFormed := by
    simp [a, half, WellFormed, WellFormedItems, WellFormedEntries, Bindings.Distinct, Value.ofInt,
      Value.float]
  have other_formed : b.WellFormed := by
    simp [b, half, WellFormed, WellFormedItems, WellFormedEntries, Bindings.Distinct, Value.float]
  have moved : Reordered a c := by
    rw [Reordered, alike_map]
    refine ⟨_, List.Perm.swap _ _ _, .cons ⟨rfl, Reordered.refl _⟩ (.cons ⟨rfl, ?_⟩ .nil)⟩
    rw [alike_list]
    refine .cons ?_ .nil
    rw [alike_map]
    exact ⟨_, List.Perm.swap _ _ _,
      .cons ⟨rfl, Reordered.refl _⟩ (.cons ⟨rfl, Reordered.refl _⟩ .nil)⟩
  have counted : ∀ x, HasNumber (.float x) a → x.isNaN = false := by
    intro x inside
    obtain rfl : x = Binary64.ofRatio false 1 2 := by
      simpa [a, half, Value.ofInt, Value.float, Number.ofInt, fitsInt64] using inside
    decide +kernel
  have whole : ∀ n, HasNumber n w ∨ HasNumber n w → ∃ i, n = .integer i := by
    intro n inside
    exact ⟨2, by simpa [w, Value.ofInt, Number.ofInt, fitsInt64] using inside⟩
  have alike : a.equals b = true := by decide +kernel
  have same : a.strictlyEquals c = true := by decide +kernel
  obtain ⟨symmetric, reflexive, _, reordered, _⟩ :=
    equals_compares_contents a b formed other_formed
  obtain ⟨_, _, weaker, _, _⟩ :=
    equals_compares_contents a c formed (moved.wellFormed formed)
  have trivially : w.WellFormed := by simp [w, WellFormed, WellFormedItems, Value.ofInt]
  obtain ⟨_, _, _, _, wholly⟩ := equals_compares_contents w w trivially trivially
  refine ⟨formed, other_formed, moved, by decide +kernel, alike, symmetric ▸ alike, ?_,
    reflexive counted, same, weaker same, wholly whole⟩
  rw [reordered c b moved (Reordered.refl b)]
  exact alike

end Value

end StagePlan
