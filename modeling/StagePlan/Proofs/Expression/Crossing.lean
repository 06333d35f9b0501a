import StagePlan.Expression.Conversion

namespace StagePlan

/-!
Values on their way through an evaluation. A document's value that enters one leaves it as it was,
and whatever leaves is well formed. A number passes a tree of JSON on the way out, which keeps it
whole or decimal as it is; a map is built again from its keys, each of which is found.
-/

namespace Value

theorem wellFormedEntries_bind {entries : Bindings Value} {name : String} {value : Value}
    (formed : WellFormedEntries entries) (also : value.WellFormed) :
    WellFormedEntries (entries.bind name value) := by
  induction entries with
  | nil => exact ⟨also, trivial⟩
  | cons entry rest ih =>
      obtain ⟨key, old⟩ := entry
      rw [Bindings.bind]
      split
      · exact ⟨also, formed.2⟩
      · exact ⟨formed.1, ih formed.2⟩

theorem wellFormed_map_ofPairs {pairs : List (String × Value)} (formed : WellFormedEntries pairs) :
    (Value.map (Bindings.ofPairs pairs)).WellFormed := by
  refine ⟨Bindings.distinct_ofPairs pairs, ?_⟩
  have bound (entries : Bindings Value) (before : WellFormedEntries entries) :
      WellFormedEntries
        (pairs.foldl (fun (entries : Bindings Value) pair => entries.bind pair.1 pair.2) entries) := by
    induction pairs generalizing entries with
    | nil => exact before
    | cons pair rest ih => exact ih formed.2 _ (wellFormedEntries_bind before formed.1)
  exact bound [] trivial

end Value

namespace Expression.Dynamic

/-- What fits in 64 bits with a sign fits in a word. -/
theorem isWord_of_fitsInt64 {n : Int} (fits : fitsInt64 n = true) : Json.isWord n = true := by
  have wider : (Nat.pow 2 63 : Int) ≤ (Json.wordBound : Int) := by decide
  simp only [fitsInt64, Json.isWord, Bool.and_eq_true, decide_eq_true_eq] at fits ⊢
  omega

/-- A whole number stays whole where it fits, and is the nearest double where it does not, whether
a tree can hold it or not. -/
@[simp] theorem toNumber_int (n : Int) : toNumber (.int n) = .ok (.ofInt n) := by
  by_cases fits : fitsInt64 n = true
  · have held : (treeNumber? (.int n)).bind TreeNumber.int64? = some (Int64.ofInt n) := by
      rw [treeNumber?, if_pos (isWord_of_fitsInt64 fits)]
      exact if_pos fits
    rw [toNumber, held, Number.ofInt, if_pos fits]
  · have held : (treeNumber? (.int n)).bind TreeNumber.int64? = Option.none := by
      rw [treeNumber?]
      split
      · exact if_neg fits
      · rfl
    rw [toNumber, held, Number.ofInt, if_neg fits]
    rfl

/-- A decimal stays a decimal: a tree never holds it as a whole number, and one that is not finite
is not held at all. -/
@[simp] theorem toNumber_float (x : Binary64) : toNumber (.float x) = .ok (.float x) := by
  have held : (treeNumber? (.float x)).bind TreeNumber.int64? = Option.none := by
    rw [treeNumber?]
    split <;> rfl
  rw [toNumber, held]
  rfl

section Keys

variable {α : Type}

/-- Entries under texts. -/
def underTexts (entries : Bindings α) : List (Dynamic × α) :=
  entries.map fun entry => (.string entry.1 false, entry.2)

theorem find?_underTexts (entries : Bindings α) (same : Dynamic → Bool) {name : String}
    (exactly : ∀ key, same (.string key false) = decide (key = name)) :
    ((underTexts entries).find? fun entry => same entry.1).map (·.2) = entries.find? name := by
  induction entries with
  | nil => rfl
  | cons entry rest ih =>
      obtain ⟨key, value⟩ := entry
      change (List.find? _ ((Dynamic.string key false, value) :: underTexts rest)).map (·.2) = _
      rw [List.find?_cons, exactly, Bindings.find?_cons]
      by_cases here : key = name
      · simp [here]
      · simpa [here] using ih

/-- Texts are the same key if they are the same text, among several entries or not. -/
theorem lookup?_underTexts (entries : Bindings α) (name : String) (safe : Bool) :
    lookup? (.string name safe) (underTexts entries) = entries.find? name := by
  have exactly (key : String) :
      equals (.string key false) (.string name safe) = decide (key = name) := by
    rw [equals]
    simp [string?, eq_comm]
  have alone (key : String) :
      sameKey (.string key false) (.string name safe) = decide (key = name) := by
    rw [sameKey, exactly]
    simp [mayShareKey, kind]
  rw [lookup?]
  split
  · exact find?_underTexts entries (fun key => equals key _) exactly
  · exact find?_underTexts entries (fun key => sameKey key _) alone

theorem mem_of_lookup? {entries : List (Dynamic × α)} {key : Dynamic} {value : α}
    (found : lookup? key entries = some value) : ∃ other, (other, value) ∈ entries := by
  rw [lookup?] at found
  obtain ⟨entry, first, rfl⟩ := Option.map_eq_some_iff.mp found
  refine ⟨entry.1, ?_⟩
  split at first
  · exact List.mem_of_find?_eq_some first
  · exact List.mem_of_find?_eq_some first

/-- What a map holds under one of its keys is the value of one of its entries. -/
theorem mem_of_ownValue? {entries : List (Dynamic × α)} {entry : Dynamic × α} {value : α}
    (listed : entry ∈ entries) (found : ownValue? entries entry = some value) :
    ∃ key, (key, value) ∈ entries := by
  rw [ownValue?, Option.or_eq_some_iff] at found
  rcases found with found | ⟨-, own⟩
  · exact mem_of_lookup? found
  · split at own
    · cases own
      exact ⟨entry.1, listed⟩
    · cases own

end Keys

section Maps

/-- Under distinct texts, every key is found with the value of its own entry. -/
theorem rebind_underTexts {entries built : Bindings Value} {entry : String × Value}
    (distinct : entries.Distinct) (listed : entry ∈ entries) :
    rebind (underTexts (entries.map fun entry => (entry.1, .ok entry.2))) built
        (.string entry.1 false, .ok entry.2) =
      .ok (built.bind entry.1 entry.2) := by
  have kept : Bindings.Distinct
      (entries.map fun entry => (entry.1, (.ok entry.2 : Except Fault Value))) := by
    rw [Bindings.Distinct, Bindings.names, List.map_map]
    exact distinct
  have found := Bindings.find?_of_mem kept (List.mem_map_of_mem listed)
  rw [rebind, ownValue?, lookup?_underTexts, found]
  rfl

/-- A map under distinct texts is built again as it was, its entries in their order. -/
theorem rebuild_underTexts {entries : Bindings Value} (distinct : entries.Distinct) :
    rebuild (underTexts (entries.map fun entry => (entry.1, .ok entry.2))) = .ok entries := by
  let all := underTexts (entries.map fun entry => (entry.1, (.ok entry.2 : Except Fault Value)))
  have run (part : Bindings Value) (within : part ⊆ entries) (built : Bindings Value) :
      (underTexts (part.map fun entry => (entry.1, .ok entry.2))).foldlM (rebind all) built =
        .ok (part.foldl (fun built entry => built.bind entry.1 entry.2) built) := by
    induction part generalizing built with
    | nil => rfl
    | cons entry rest ih =>
        obtain ⟨listed, later⟩ := List.cons_subset.mp within
        change (rebind all built (.string entry.1 false, .ok entry.2) >>= _) = _
        rw [rebind_underTexts distinct listed]
        exact ih later _
  rw [rebuild, run entries (List.Subset.refl _) []]
  exact congrArg _ (Bindings.ofPairs_of_distinct distinct)

/-- One key binds its text to the value of some entry. -/
theorem rebind_cases {entries : List (Dynamic × Except Fault Value)} {built after : Bindings Value}
    {entry : Dynamic × Except Fault Value} (listed : entry ∈ entries)
    (bound : rebind entries built entry = .ok after) :
    ∃ key value, (key, .ok value) ∈ entries ∧ after = built.bind entry.1.shown value := by
  rw [rebind] at bound
  split at bound
  · rename_i value taken
    cases bound
    cases found : ownValue? entries entry with
    | none =>
        rw [found] at taken
        cases taken
    | some held =>
        rw [found] at taken
        cases taken
        obtain ⟨key, among⟩ := mem_of_ownValue? listed found
        exact ⟨key, value, among, rfl⟩
  · cases bound

/-- A map that is built again is well formed if what its entries hold is. -/
theorem wellFormed_of_rebuild {entries : List (Dynamic × Except Fault Value)}
    {built : Bindings Value} (rebuilt : rebuild entries = .ok built)
    (each : ∀ key value, (key, .ok value) ∈ entries → value.WellFormed) :
    (Value.map built).WellFormed := by
  have run (part : List (Dynamic × Except Fault Value)) (within : part ⊆ entries)
      (before : Bindings Value) (formed : (Value.map before).WellFormed)
      (after : Bindings Value) (ran : part.foldlM (rebind entries) before = .ok after) :
      (Value.map after).WellFormed := by
    induction part generalizing before with
    | nil =>
        cases ran
        exact formed
    | cons entry rest ih =>
        obtain ⟨listed, later⟩ := List.cons_subset.mp within
        rw [List.foldlM_cons] at ran
        cases bound : rebind entries before entry with
        | error fault =>
            rw [bound] at ran
            cases ran
        | ok next =>
            rw [bound] at ran
            obtain ⟨key, value, among, rfl⟩ := rebind_cases listed bound
            exact ih later _ ⟨Bindings.distinct_bind formed.1 _ _,
              Value.wellFormedEntries_bind formed.2 (each key value among)⟩ ran
  exact run entries (List.Subset.refl _) [] ⟨List.nodup_nil, trivial⟩ built rebuilt

end Maps

mutual

/-- Induction on the value. Whole numbers fit where they came from, and keys stay distinct. -/
theorem toValue_ofValueAt (place : Identity) :
    ∀ v : Value, v.WellFormed → (ofValueAt place v).toValue = .ok v
  | .null, _ | .bool _, _ | .string _, _ => by
      simp only [ofValueAt, toValue]
  | .number (.integer n), _ => by
      rw [ofValueAt, toValue, toNumber_int, Number.ofInt_toInt]
      rfl
  | .number (.float x), _ => by
      rw [ofValueAt, toValue, toNumber_float]
      rfl
  | .list items, formed => by
      simp only [ofValueAt, toValue, toValues_ofItems place 0 items formed]
  | .map entries, formed => by
      rw [ofValueAt, toValue, toEntries_ofEntries place 0 entries formed.2,
        rebuild_underTexts formed.1]
      rfl

theorem toValues_ofItems (place : Identity) (position : Nat) :
    ∀ items : List Value, Value.WellFormedItems items →
      toValues (ofItems place position items) = .ok items
  | [], _ => rfl
  | item :: rest, formed => by
      rw [ofItems, toValues, toValue_ofValueAt _ item formed.1]
      dsimp only
      rw [toValues_ofItems place (position + 1) rest formed.2]

theorem toEntries_ofEntries (place : Identity) (position : Nat) :
    ∀ entries : List (String × Value), Value.WellFormedEntries entries →
      toEntries (ofEntries place position entries) =
        underTexts (entries.map fun entry => (entry.1, .ok entry.2))
  | [], _ => rfl
  | (key, value) :: rest, formed => by
      rw [ofEntries, toEntries, toValue_ofValueAt _ value formed.1,
        toEntries_ofEntries place (position + 1) rest formed.2]
      rfl

end

mutual

/-- What leaves an evaluation is well formed. Induction on the value of the evaluation. -/
theorem wellFormed_of_toValue : ∀ {input : Dynamic} {v : Value}, input.toValue = .ok v →
    v.WellFormed
  | .undefined _, _, carried | .function _, _, carried | .object _, _, carried
  | .invalid, _, carried => by
      rw [toValue] at carried
      cases carried
  | .none, _, carried | .bool _, _, carried | .string _ _, _, carried => by
      rw [toValue] at carried
      cases carried
      trivial
  | .int n, _, carried => by
      rw [toValue, toNumber_int] at carried
      cases carried
      trivial
  | .float x, _, carried => by
      rw [toValue, toNumber_float] at carried
      cases carried
      trivial
  | .sequence shape items _, v, carried => by
      unfold toValue at carried
      split at carried
      · cases carried
      · split at carried
        · rename_i values read
          cases carried
          exact wellFormedItems_of_toValues read
        · cases carried
  | .map _ entries _, v, carried => by
      rw [toValue] at carried
      cases rebuilt : rebuild (toEntries entries) with
      | error fault =>
          rw [rebuilt] at carried
          cases carried
      | ok built =>
          rw [rebuilt] at carried
          cases carried
          exact wellFormed_of_rebuild rebuilt (wellFormed_of_mem_toEntries entries)

theorem wellFormedItems_of_toValues : ∀ {items : List Dynamic} {values : List Value},
    toValues items = .ok values → Value.WellFormedItems values
  | [], _, carried => by
      cases carried
      trivial
  | item :: rest, _, carried => by
      rw [toValues] at carried
      split at carried
      · cases carried
      · rename_i value read
        split at carried
        · cases carried
        · rename_i values others
          cases carried
          exact ⟨wellFormed_of_toValue read, wellFormedItems_of_toValues others⟩

theorem wellFormed_of_mem_toEntries : ∀ (entries : List (Dynamic × Dynamic)) (key : Dynamic)
    (value : Value), (key, .ok value) ∈ toEntries entries → value.WellFormed
  | [], _, _, among => by cases among
  | (_, item) :: rest, key, value, among => by
      rw [toEntries] at among
      rcases List.mem_cons.mp among with here | later
      · have read : item.toValue = .ok value := (Prod.mk.inj here).2.symm
        exact wellFormed_of_toValue read
      · exact wellFormed_of_mem_toEntries rest key value later

end

/-- A document's value leaves an evaluation as it entered, wherever it was found there: whole numbers
and decimals apart, decimals that are not finite among them, and the entries of its maps in their
order at every depth. The keys of a map have to be distinct, as those of all that leaves are. -/
theorem leaves_unchanged_iff (place : Identity) (v : Value) :
    (ofValueAt place v).toValue = .ok v ↔ v.WellFormed :=
  ⟨wellFormed_of_toValue, toValue_ofValueAt place v⟩

example :
    let v : Value := .map [("zeta", .ofInt 3), ("alpha", .list [.float (.ofInt 3), .null, .string ""]),
      ("none", .map [("b", .float .nan), ("a", .float (.infinity true))])]
    (ofValue v).toValue = .ok v := by
  rfl

end Expression.Dynamic

end StagePlan
