import Mathlib.Data.List.Sort
import Mathlib.Data.String.Basic
import StagePlan.Proofs.Json.Faithful
import StagePlan.Proofs.Success
import StagePlan.Proofs.Value.Reordering

namespace StagePlan

/-!
Canonical documents. Sorting the entries of every map is a reordering, and all values that are
reordered ones of each other have the same sorted one. What is read of a canonical document is the
sorted value, so the document tells values apart up to the order of entries, and no further.
-/

namespace Value

variable {v w : Value} {entries : List (String × Value)}

/-- The keys of every map stand in ascending order. -/
inductive Ascending : Value → Prop
  | null : Ascending .null
  | bool (b : Bool) : Ascending (.bool b)
  | number (n : Number) : Ascending (.number n)
  | string (text : String) : Ascending (.string text)
  | list {items : List Value} (each : ∀ item ∈ items, Ascending item) : Ascending (.list items)
  | map {entries : List (String × Value)} (keys : (Bindings.names entries).Pairwise (· < ·))
      (each : ∀ entry ∈ entries, Ascending entry.2) : Ascending (.map entries)

/-- An entry whose value is sorted. -/
def sortedEntry (entry : String × Value) : String × Value :=
  (entry.1, entry.2.sorted)

/-- The order of entries by their keys. -/
def KeyLe (x y : String × Value) : Prop :=
  x.1 ≤ y.1

instance : DecidableRel KeyLe :=
  fun x y => inferInstanceAs (Decidable (x.1 ≤ y.1))

instance : Std.Total KeyLe where
  total x y := le_total x.1 y.1

instance : IsTrans (String × Value) KeyLe where
  trans _ _ _ first second := le_trans first second

theorem insertSorted_eq (entry : String × Value) (entries : List (String × Value)) :
    insertSorted entry entries = entries.orderedInsert KeyLe entry := by
  induction entries with
  | nil => rfl
  | cons other rest ih =>
      by_cases below : entry.1 ≤ other.1 <;>
        simp [insertSorted, List.orderedInsert, KeyLe, below, ih]

theorem sortedItems_eq (items : List Value) : sortedItems items = items.map sorted := by
  induction items with
  | nil => rfl
  | cons item rest ih => rw [sortedItems, List.map_cons, ih]

theorem sortedEntries_eq (entries : List (String × Value)) :
    sortedEntries entries = (entries.map sortedEntry).insertionSort KeyLe := by
  induction entries with
  | nil => rfl
  | cons entry rest ih =>
      obtain ⟨key, value⟩ := entry
      rw [sortedEntries, insertSorted_eq, ih]
      rfl

theorem sortedEntries_perm (entries : List (String × Value)) :
    (sortedEntries entries).Perm (entries.map sortedEntry) := by
  rw [sortedEntries_eq]
  exact List.perm_insertionSort KeyLe _

theorem names_sortedEntries (entries : List (String × Value)) :
    (Bindings.names (sortedEntries entries)).Perm (Bindings.names entries) := by
  have same : Bindings.names (entries.map sortedEntry) = Bindings.names entries := by
    simp [Bindings.names, sortedEntry]
  rw [← same]
  exact (sortedEntries_perm entries).map _

theorem reordered_sorted (v : Value) : Reordered v v.sorted := by
  induction v using parts_induction with
  | null => trivial
  | bool b => rfl
  | number n => rfl
  | string text => rfl
  | list items ih =>
      rw [sorted, sortedItems_eq, Reordered, alike_list, List.forall₂_map_right_iff,
        List.forall₂_same]
      exact ih
  | map entries ih =>
      rw [sorted, Reordered, alike_map]
      refine ⟨entries.map sortedEntry, (sortedEntries_perm entries).symm, ?_⟩
      rw [List.forall₂_map_right_iff, List.forall₂_same]
      intro entry listed
      exact ⟨rfl, ih entry listed⟩

theorem ascending_sorted (formed : v.WellFormed) : v.sorted.Ascending := by
  induction v using parts_induction with
  | null => exact .null
  | bool b => exact .bool b
  | number n => exact .number n
  | string text => exact .string text
  | list items ih =>
      rw [WellFormed, wellFormedItems_iff] at formed
      rw [sorted, sortedItems_eq]
      apply Ascending.list
      intro item among
      obtain ⟨original, listed, here⟩ := List.mem_map.mp among
      rw [← here]
      exact ih original listed (formed original listed)
  | map entries ih =>
      rw [WellFormed, wellFormedEntries_iff] at formed
      rw [sorted]
      apply Ascending.map
      · have ordered : (Bindings.names (sortedEntries entries)).Pairwise (· ≤ ·) := by
          rw [sortedEntries_eq, Bindings.names, List.pairwise_map]
          exact List.pairwise_insertionSort KeyLe _
        have distinct : (Bindings.names (sortedEntries entries)).Nodup :=
          (names_sortedEntries entries).nodup_iff.mpr formed.1
        exact (ordered.and distinct).imp fun both => lt_of_le_of_ne both.1 both.2
      · intro entry among
        have listed := (sortedEntries_perm entries).mem_iff.mp among
        obtain ⟨original, listed, here⟩ := List.mem_map.mp listed
        rw [← here]
        exact ih original listed (formed.2 original listed)

/-- Of all reorderings of a value only one has its keys in ascending order. -/
theorem eq_of_ascending (reordered : Reordered v w) (first : v.Ascending) (second : w.Ascending) :
    v = w := by
  unfold Reordered at reordered
  induction reordered using Alike.parts with
  | null => rfl
  | bool b => rfl
  | number m n same => rw [same]
  | string text => rfl
  | list xs ys _ each =>
      cases first with
      | list ascending =>
          cases second with
          | list other_ascending =>
              have same : List.Forall₂ (· = ·) xs ys := by
                apply forall₂_of_mem each
                intro x listed y among both
                obtain ⟨_, ih⟩ := both
                exact ih (ascending x listed) (other_ascending y among)
              rw [List.forall₂_eq_eq_eq] at same
              rw [same]
  | map entries others _ ordered perm each =>
      cases first with
      | map keys ascending =>
          cases second with
          | map other_keys other_ascending =>
              have same : List.Forall₂ (· = ·) entries ordered := by
                apply forall₂_of_mem each
                intro x listed y among both
                obtain ⟨key, _, ih⟩ := both
                have above := other_ascending y (perm.mem_iff.mp among)
                exact Prod.ext key (ih (ascending x listed) above)
              rw [List.forall₂_eq_eq_eq] at same
              subst same
              rw [Bindings.names, List.pairwise_map] at keys other_keys
              rw [perm.eq_of_pairwise _ keys other_keys]
              intro x y _ _ before after
              exact absurd after (lt_asymm before)

theorem sorted_eq_iff (formed : v.WellFormed) (other_formed : w.WellFormed) :
    v.sorted = w.sorted ↔ Reordered v w := by
  constructor
  · intro same
    have moved := v.reordered_sorted
    rw [same] at moved
    exact moved.trans w.reordered_sorted.symm
  · intro reordered
    have moved := v.reordered_sorted.symm.trans (reordered.trans w.reordered_sorted)
    exact eq_of_ascending moved (ascending_sorted formed) (ascending_sorted other_formed)

section Documents

variable {same : Number → Number → Prop}

theorem nonFinite?_eq_none_iff :
    v.nonFinite? = none ↔ ∀ x, HasNumber (.float x) v → x.isFinite = true := by
  induction v using parts_induction with
  | null => simp [nonFinite?]
  | bool b => simp [nonFinite?]
  | number n => cases n <;> simp [nonFinite?]
  | string text => simp [nonFinite?]
  | list items ih =>
      rw [nonFinite?, nonFiniteItem?_eq_none, forall_hasNumber_list]
      exact forall₂_congr ih
  | map entries ih =>
      rw [nonFinite?, nonFiniteAmong?_eq_none, forall_hasNumber_map]
      exact forall₂_congr ih

theorem readsBack_iff :
    v.ReadsBack ↔ ∀ x, HasNumber (.float x) v → x.isFinite = true →
      Json.number? (Number.float x).documentChars = some (.float x) := by
  induction v using parts_induction with
  | null => simp [ReadsBack]
  | bool b => simp [ReadsBack]
  | number n => cases n <;> simp [ReadsBack]
  | string text => simp [ReadsBack]
  | list items ih =>
      rw [ReadsBack, itemsReadBack_iff, forall_hasNumber_list]
      exact forall₂_congr ih
  | map entries ih =>
      rw [ReadsBack, entriesReadBack_iff, forall_hasNumber_map]
      exact forall₂_congr ih

theorem Alike.nesting_le {n : Nat} (alike : Alike same v w) (shallow : v.nesting ≤ n) :
    w.nesting ≤ n := by
  induction alike using Alike.parts generalizing n with
  | null => exact shallow
  | bool b => exact shallow
  | number l m => exact shallow
  | string text => exact shallow
  | list xs ys _ each =>
      cases n with
      | zero => simp [nesting] at shallow
      | succ n =>
          rw [nesting, Nat.add_le_add_iff_right, itemNesting_le] at shallow ⊢
          intro y among
          obtain ⟨x, listed, _, ih⟩ := exists_left each among
          exact ih (shallow x listed)
  | map first second _ ordered perm each =>
      cases n with
      | zero => simp [nesting] at shallow
      | succ n =>
          rw [nesting, Nat.add_le_add_iff_right, entryNesting_le] at shallow ⊢
          intro y among
          obtain ⟨x, listed, _, _, ih⟩ := exists_left each (perm.mem_iff.mpr among)
          exact ih (shallow x listed)

theorem finite_of_sorted :
    v.sorted.nonFinite? = none ↔ ∀ x, HasNumber (.float x) v → x.isFinite = true :=
  v.nonFinite?_sorted.trans nonFinite?_eq_none_iff

theorem canonical_eq_ok {text : String} :
    v.canonical = .ok text ↔
      (∀ x, HasNumber (.float x) v → x.isFinite = true) ∧ v.sorted.document = text := by
  rw [← finite_of_sorted, canonical]
  cases v.sorted.nonFinite? <;> simp

theorem canonical_eq_error :
    (∃ x, v.canonical = .error x) ↔ ∃ x, HasNumber (.float x) v ∧ x.isFinite = false := by
  have finite : v.sorted.nonFinite? = none ↔ ¬ ∃ x, HasNumber (.float x) v ∧ x.isFinite = false := by
    simp [finite_of_sorted]
  rw [canonical]
  cases odd : v.sorted.nonFinite? with
  | none => simpa using finite.mp odd
  | some x => simpa [odd] using finite

/-- A value whose document can be read: its maps have distinct keys, its decimals are read as they
were written, and it is not too deep. -/
structure Encodable (v : Value) : Prop where
  formed : v.WellFormed
  back : v.ReadsBack
  shallow : v.nesting ≤ Json.depthLimit

/-- The canonical document of a value is read as the sorted value. -/
theorem value?_canonical (readable : v.Encodable) {text : String} (written : v.canonical = .ok text) :
    Json.value? text = some v.sorted := by
  obtain ⟨finite, here⟩ := canonical_eq_ok.mp written
  have moved := v.reordered_sorted
  have inside {x : Binary64} (within : HasNumber (.float x) v.sorted) : HasNumber (.float x) v := by
    obtain ⟨n, among, same⟩ := moved.symm.hasNumber within
    rw [same]
    exact among
  have back : v.sorted.ReadsBack :=
    readsBack_iff.mpr fun x within => readsBack_iff.mp readable.back x (inside within)
  have plain : v.sorted.documented = v.sorted := by
    rw [documented_eq_iff, nonFinite?_eq_none_iff]
    exact fun x within => finite x (inside within)
  rw [← here, Json.value?_document (moved.wellFormed readable.formed) back,
    if_pos (moved.nesting_le readable.shallow), plain]

theorem canonical_eq_iff (first : v.Encodable) (second : w.Encodable) {text other : String}
    (written : v.canonical = .ok text) (other_written : w.canonical = .ok other) :
    text = other ↔ Reordered v w := by
  rw [← sorted_eq_iff first.formed second.formed]
  constructor
  · intro same
    have read := value?_canonical first written
    rw [same, value?_canonical second other_written] at read
    exact (Option.some.inj read).symm
  · intro same
    rw [← (canonical_eq_ok.mp written).2, same, (canonical_eq_ok.mp other_written).2]

/-- A value has a canonical document unless a number in it is not finite. The document is read as the
value with the keys of every map in ascending order, and values have the same one just if they are
reordered ones of each other. -/
theorem canonical_tells_contents (v : Value) (readable : v.Encodable) :
    ((∃ x, v.canonical = .error x) ↔ ∃ x, HasNumber (.float x) v ∧ x.isFinite = false) ∧
    (∀ text, v.canonical = .ok text →
      ∃ w, Json.value? text = some w ∧ Reordered v w ∧ w.Ascending) ∧
    ∀ w text other, w.Encodable → v.canonical = .ok text → w.canonical = .ok other →
      (text = other ↔ Reordered v w) := by
  refine ⟨canonical_eq_error, ?_, ?_⟩
  · intro text written
    exact ⟨v.sorted, value?_canonical readable written, v.reordered_sorted,
      ascending_sorted readable.formed⟩
  · intro w text other other_readable written other_written
    exact canonical_eq_iff readable other_readable written other_written

end Documents

/-- Labels with a line break and a map that is not in order. -/
def labels : Value :=
  .map [("zone", .string "a\nb"),
    ("size", .map [("share", .float (.ofRatio false 1 2)), ("cpu", .ofInt 2)])]

/-- The same labels in another order. -/
def movedLabels : Value :=
  .map [("size", .map [("cpu", .ofInt 2), ("share", .float (.ofRatio false 1 2))]),
    ("zone", .string "a\nb")]

def labelsDocument : String :=
  "\x7b\"size\":\x7b\"cpu\":2,\"share\":0.5\x7d,\"zone\":\"a\\nb\"\x7d"

theorem canonical_tells_contents_labels :
    labels.Encodable ∧ movedLabels.Encodable ∧
      labels.canonical = .ok labelsDocument ∧
      (∃ w, Json.value? labelsDocument = some w ∧ Reordered labels w ∧ w.Ascending) ∧
      Reordered labels movedLabels := by
  have half : Json.number? (Number.float (.ofRatio false 1 2)).documentChars =
      some (.float (.ofRatio false 1 2)) := by
    decide +kernel
  have readable : labels.Encodable := by
    refine ⟨?_, ⟨trivial, ⟨fun _ => half, trivial, trivial⟩, trivial⟩, by decide +kernel⟩
    simp [labels, WellFormed, WellFormedEntries, Bindings.Distinct, Value.ofInt, Value.float]
  have moved_readable : movedLabels.Encodable := by
    refine ⟨?_, ⟨⟨trivial, ⟨fun _ => half, trivial⟩⟩, trivial, trivial⟩, by decide +kernel⟩
    simp [movedLabels, WellFormed, WellFormedEntries, Bindings.Distinct, Value.ofInt, Value.float]
  have written : labels.canonical = .ok labelsDocument :=
    eq_ok_of_toOption (by decide +kernel)
  have moved_written : movedLabels.canonical = .ok labelsDocument :=
    eq_ok_of_toOption (by decide +kernel)
  obtain ⟨_, read, told⟩ := canonical_tells_contents labels readable
  exact ⟨readable, moved_readable, written, read _ written,
    (told movedLabels _ _ moved_readable written moved_written).mp rfl⟩

end Value

end StagePlan
