import StagePlan.Proofs.Json.Values
import StagePlan.Proofs.Value.Parts

namespace StagePlan

/-!
Values of which their documents say all. What lies in such a list or map is of the same kind, and a
value comes back as it is from any depth at which it is not too deep.
-/

namespace Value

variable {items : List Value} {entries : List (String × Value)}

theorem itemsReadBack_iff : ItemsReadBack items ↔ ∀ item ∈ items, item.ReadsBack := by
  induction items with
  | nil => simp [ItemsReadBack]
  | cons item rest ih => simp [ItemsReadBack, ih]

theorem entriesReadBack_iff : EntriesReadBack entries ↔ ∀ entry ∈ entries, entry.2.ReadsBack := by
  induction entries with
  | nil => simp [EntriesReadBack]
  | cons entry rest ih => simp [EntriesReadBack, ih]

theorem nonFiniteItem?_eq_none :
    nonFiniteItem? items = none ↔ ∀ item ∈ items, item.nonFinite? = none := by
  induction items with
  | nil => simp [nonFiniteItem?]
  | cons item rest ih => simp [nonFiniteItem?, ih]

theorem nonFiniteAmong?_eq_none :
    nonFiniteAmong? entries = none ↔ ∀ entry ∈ entries, entry.2.nonFinite? = none := by
  induction entries with
  | nil => simp [nonFiniteAmong?]
  | cons entry rest ih => simp [nonFiniteAmong?, ih]

theorem itemNesting_le {n : Nat} : itemNesting items ≤ n ↔ ∀ item ∈ items, item.nesting ≤ n := by
  induction items with
  | nil => simp [itemNesting]
  | cons item rest ih => rw [itemNesting, Nat.max_le, ih, List.forall_mem_cons]

theorem entryNesting_le {n : Nat} :
    entryNesting entries ≤ n ↔ ∀ entry ∈ entries, entry.2.nesting ≤ n := by
  induction entries with
  | nil => simp [entryNesting]
  | cons entry rest ih => rw [entryNesting, Nat.max_le, ih, List.forall_mem_cons]

/-- A value of which its document says all: its maps have distinct keys, and its decimals are finite
and are read as what was written. -/
structure Faithful (v : Value) : Prop where
  formed : v.WellFormed
  back : v.ReadsBack
  finite : v.nonFinite? = none

theorem faithful_string (text : String) : (Value.string text).Faithful :=
  ⟨trivial, trivial, rfl⟩

theorem faithful_bool (b : Bool) : (Value.bool b).Faithful :=
  ⟨trivial, trivial, rfl⟩

theorem faithful_list : (Value.list items).Faithful ↔ ∀ item ∈ items, item.Faithful := by
  constructor
  · intro faithful item listed
    exact ⟨wellFormedItems_iff.mp faithful.formed item listed,
      itemsReadBack_iff.mp faithful.back item listed,
      nonFiniteItem?_eq_none.mp faithful.finite item listed⟩
  · intro each
    exact ⟨wellFormedItems_iff.mpr fun item listed => (each item listed).formed,
      itemsReadBack_iff.mpr fun item listed => (each item listed).back,
      nonFiniteItem?_eq_none.mpr fun item listed => (each item listed).finite⟩

theorem faithful_map :
    (Value.map entries).Faithful ↔
      Bindings.Distinct entries ∧ ∀ entry ∈ entries, entry.2.Faithful := by
  constructor
  · intro faithful
    refine ⟨faithful.formed.1, fun entry listed => ?_⟩
    exact ⟨wellFormedEntries_iff.mp faithful.formed.2 entry listed,
      entriesReadBack_iff.mp faithful.back entry listed,
      nonFiniteAmong?_eq_none.mp faithful.finite entry listed⟩
  · rintro ⟨distinct, each⟩
    exact ⟨⟨distinct, wellFormedEntries_iff.mpr fun entry listed => (each entry listed).formed⟩,
      entriesReadBack_iff.mpr fun entry listed => (each entry listed).back,
      nonFiniteAmong?_eq_none.mpr fun entry listed => (each entry listed).finite⟩

theorem Faithful.number? {n : Number} (faithful : (Value.number n).Faithful) :
    Json.number? n.documentChars = some n := by
  cases n with
  | integer n => exact Json.number?_integer n
  | float x =>
      apply faithful.back
      have finite := faithful.finite
      rw [nonFinite?] at finite
      by_contra infinite
      simp [infinite] at finite

/-- A faithful value that is not too deep where `depth` lists and maps are open around it. -/
structure Legible (depth : Nat) (v : Value) : Prop extends v.Faithful where
  shallow : depth + v.nesting ≤ Json.depthLimit

namespace Legible

variable {depth : Nat}

theorem item (legible : (Value.list items).Legible depth) {item : Value}
    (listed : item ∈ items) : item.Legible (depth + 1) := by
  have shallow := legible.shallow
  have below := itemNesting_le.mp (Nat.le_refl _) item listed
  rw [nesting] at shallow
  exact ⟨faithful_list.mp legible.toFaithful item listed, by omega⟩

theorem entry (legible : (Value.map entries).Legible depth) {entry : String × Value}
    (listed : entry ∈ entries) : entry.2.Legible (depth + 1) := by
  have shallow := legible.shallow
  have below := entryNesting_le.mp (Nat.le_refl _) entry listed
  rw [nesting] at shallow
  exact ⟨(faithful_map.mp legible.toFaithful).2 entry listed, by omega⟩

theorem value?_contents {v : Value} (legible : v.Legible depth) :
    (Json.contents depth v).value? = some v := by
  rw [(Json.holds_contents legible.formed legible.back depth).shallow legible.shallow,
    (documented_eq_iff v).mpr legible.finite]

theorem contents_list (legible : (Value.list items).Legible depth) :
    Json.contents depth (.list items) = .list true (Json.itemContents (depth + 1) items) := by
  have shallow := legible.shallow
  rw [nesting] at shallow
  rw [Json.contents, Json.within, if_pos (by omega)]

theorem contents_map (legible : (Value.map entries).Legible depth) :
    Json.contents depth (.map entries) = .map true (Json.entryContents (depth + 1) entries) := by
  have shallow := legible.shallow
  rw [nesting] at shallow
  rw [Json.contents, Json.within, if_pos (by omega)]

end Legible

end Value

end StagePlan
