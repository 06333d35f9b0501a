import StagePlan.Value.Basic

namespace StagePlan.Value

/-!
The parts of values. What is shown of a list or a map from its items or entries is shown of every
value, so a proof need not follow the functions on items and entries next to those on values.
-/

variable {items : List Value} {entries : List (String × Value)}

/-- Induction on the parts of a value. -/
@[elab_as_elim]
theorem parts_induction {motive : Value → Prop} (null : motive .null)
    (bool : ∀ b, motive (.bool b)) (number : ∀ n, motive (.number n))
    (string : ∀ text, motive (.string text))
    (list : ∀ items, (∀ item ∈ items, motive item) → motive (.list items))
    (map : ∀ entries, (∀ entry ∈ entries, motive entry.2) → motive (.map entries)) :
    ∀ v, motive v
  | .null => null
  | .bool b => bool b
  | .number n => number n
  | .string text => string text
  | .list items =>
      list items fun item _ => parts_induction null bool number string list map item
  | .map entries =>
      map entries fun entry _ => parts_induction null bool number string list map entry.2
termination_by v => sizeOf v
decreasing_by
  · rename_i listed
    have smaller := List.sizeOf_lt_of_mem listed
    simp
    omega
  · rename_i listed
    have smaller := List.sizeOf_lt_of_mem listed
    obtain ⟨key, value⟩ := entry
    simp at smaller ⊢
    omega

theorem wellFormedItems_iff : WellFormedItems items ↔ ∀ item ∈ items, item.WellFormed := by
  induction items with
  | nil => simp [WellFormedItems]
  | cons item rest ih => simp [WellFormedItems, ih]

theorem wellFormedEntries_iff :
    WellFormedEntries entries ↔ ∀ entry ∈ entries, entry.2.WellFormed := by
  induction entries with
  | nil => simp [WellFormedEntries]
  | cons entry rest ih => simp [WellFormedEntries, ih]

/-- A number that stands somewhere in a value. -/
inductive HasNumber (n : Number) : Value → Prop
  | here : HasNumber n (.number n)
  | item {items : List Value} {item : Value} (listed : item ∈ items)
      (inside : HasNumber n item) : HasNumber n (.list items)
  | entry {entries : List (String × Value)} {entry : String × Value} (listed : entry ∈ entries)
      (inside : HasNumber n entry.2) : HasNumber n (.map entries)

variable {n : Number}

@[simp] theorem hasNumber_number {m : Number} : HasNumber n (.number m) ↔ n = m := by
  constructor
  · intro inside
    cases inside
    rfl
  · intro same
    rw [same]
    exact .here

@[simp] theorem hasNumber_list : HasNumber n (.list items) ↔ ∃ item ∈ items, HasNumber n item := by
  constructor
  · intro inside
    cases inside with
    | item listed inside => exact ⟨_, listed, inside⟩
  · intro inside
    obtain ⟨item, listed, inside⟩ := inside
    exact .item listed inside

@[simp] theorem hasNumber_map :
    HasNumber n (.map entries) ↔ ∃ entry ∈ entries, HasNumber n entry.2 := by
  constructor
  · intro inside
    cases inside with
    | entry listed inside => exact ⟨_, listed, inside⟩
  · intro inside
    obtain ⟨entry, listed, inside⟩ := inside
    exact .entry listed inside

@[simp] theorem not_hasNumber_null : ¬ HasNumber n .null :=
  nofun

@[simp] theorem not_hasNumber_bool {b : Bool} : ¬ HasNumber n (.bool b) :=
  nofun

@[simp] theorem not_hasNumber_string {text : String} : ¬ HasNumber n (.string text) :=
  nofun

section Everywhere

variable {α : Type} {f : α → Number} {p : α → Prop}

theorem forall_hasNumber_list :
    (∀ x, HasNumber (f x) (.list items) → p x) ↔
      ∀ item ∈ items, ∀ x, HasNumber (f x) item → p x := by
  constructor
  · intro each item listed x inside
    exact each x (.item listed inside)
  · intro each x inside
    obtain ⟨item, listed, inside⟩ := hasNumber_list.mp inside
    exact each item listed x inside

theorem forall_hasNumber_map :
    (∀ x, HasNumber (f x) (.map entries) → p x) ↔
      ∀ entry ∈ entries, ∀ x, HasNumber (f x) entry.2 → p x := by
  constructor
  · intro each entry listed x inside
    exact each x (.entry listed inside)
  · intro each x inside
    obtain ⟨entry, listed, inside⟩ := hasNumber_map.mp inside
    exact each entry listed x inside

end Everywhere

end StagePlan.Value
