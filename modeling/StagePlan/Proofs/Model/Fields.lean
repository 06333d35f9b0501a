import StagePlan.Model.Reading
import StagePlan.Model.Writing
import StagePlan.Proofs.Json.Faithful

namespace StagePlan

/-!
Records in documents. A record is written as a map that has its fields in a fixed order, those apart
that are left out. Each field is found again under its name, so that a record is read field by
field.
-/

open Json (contents itemContents entryContents)

/-- A value that may be left out, left out where it is null. -/
def dropNull (v? : Option Value) : Option Value :=
  v?.filter fun v => !v.isNull

/-- A list that is left out where it is empty. -/
def listIfAny (items : List Value) : Option Value :=
  if items.isEmpty then none else some (.list items)

section Writing

variable {name other : String} {v? : Option Value} {items : List Value}

@[simp] theorem entryOfText?_eq {text? : Option String} :
    entryOfText? name text? = entryOf? name (text?.map .string) := rfl

@[simp] theorem entryOfList_eq :
    entryOfList name items = entryOf? name (listIfAny items) := by
  cases items <;> rfl

@[simp] theorem getD_listIfAny : (listIfAny items).getD (.list []) = .list items := by
  cases items <;> rfl

@[simp] theorem faithful_listIfAny :
    (∀ v, listIfAny items = some v → v.Faithful) ↔ ∀ item ∈ items, item.Faithful := by
  cases items with
  | nil => simp [listIfAny]
  | cons first rest => simp [listIfAny, Value.faithful_list]

@[simp] theorem entryOf?_ite {c : Prop} [Decidable c] {v : Value} :
    (if c then [(name, v)] else []) = entryOf? name (if c then some v else none) := by
  split <;> rfl

@[simp] theorem entryOf?_ite_not {c : Prop} [Decidable c] {v : Value} :
    (if c then [] else [(name, v)]) = entryOf? name (if c then none else some v) := by
  split <;> rfl

@[simp] theorem find?_entryOf? :
    Bindings.find? other (entryOf? name v?) = if name = other then v? else none := by
  cases v? <;> simp [entryOf?, Bindings.find?]

theorem names_entryOf? : (Bindings.names (entryOf? name v?)).Sublist [name] := by
  cases v? <;> simp [entryOf?]

/-- Entries whose values are all faithful. -/
def Bindings.Faithful (entries : Bindings Value) : Prop :=
  ∀ entry ∈ entries, entry.2.Faithful

@[simp] theorem Bindings.faithful_append {first second : Bindings Value} :
    Faithful (first ++ second) ↔ first.Faithful ∧ second.Faithful :=
  List.forall_mem_append

@[simp] theorem Bindings.faithful_cons {entry : String × Value} {rest : Bindings Value} :
    Faithful (entry :: rest) ↔ entry.2.Faithful ∧ rest.Faithful :=
  List.forall_mem_cons

@[simp] theorem Bindings.faithful_nil : Faithful [] :=
  List.forall_mem_nil _

/-- No two fields of a record have one name. -/
theorem faithful_record {entries : Bindings Value} {known : List String}
    (ordered : entries.names.Sublist known) (distinct : known.Nodup) :
    (Value.map entries).Faithful ↔ entries.Faithful := by
  rw [Value.faithful_map, Bindings.Distinct, and_iff_right (ordered.nodup distinct)]
  rfl

@[simp] theorem faithful_entryOf? :
    (entryOf? name v?).Faithful ↔ ∀ v, v? = some v → v.Faithful := by
  cases v? <;> simp [entryOf?, Bindings.Faithful]

end Writing

section Reading

variable {depth : Nat} {entries : Bindings Value} {known : List String} {fields : Document.Fields}
  {name : String}

/-- What is found under a name among the fields of a record is what is read of the entry. -/
structure FieldsOf (depth : Nat) (entries : Bindings Value) (fields : Document.Fields) : Prop where
  legible : ∀ entry ∈ entries, entry.2.Legible depth
  lookup_eq : ∀ name, fields.lookup name = (entries.find? name).map (contents depth)

theorem exists_collectFields {found : Document.Fields} (distinct : entries.Distinct)
    (fresh : ∀ name ∈ entries.names, name ∉ found.map (·.1))
    (listed : ∀ name ∈ entries.names, name ∈ known) :
    ∃ fields, Document.collectFields known found (entryContents depth entries) = some fields ∧
      ∀ name, fields.lookup name =
        ((entries.find? name).map (contents depth)).or (found.lookup name) := by
  induction entries generalizing found with
  | nil => exact ⟨found, rfl, fun name => rfl⟩
  | cons entry rest ih =>
      obtain ⟨key, value⟩ := entry
      obtain ⟨once, distinct⟩ := List.nodup_cons.mp distinct
      have absent : key ∉ found.map (·.1) := fresh key List.mem_cons_self
      have unseen : (found.any fun field => field.1 = key) = false := by
        rw [List.any_eq_false]
        intro field listed same
        exact absent (List.mem_map.mpr ⟨field, listed, of_decide_eq_true same⟩)
      have later_fresh : ∀ name ∈ Bindings.names rest,
          name ∉ ((key, contents depth value) :: found).map (·.1) := by
        intro name later
        rw [List.map_cons, List.mem_cons, not_or]
        have differs : name ≠ key := fun same => once (same ▸ later)
        exact ⟨differs, fresh name (List.mem_cons_of_mem _ later)⟩
      obtain ⟨fields, collected, lookup_eq⟩ := ih distinct later_fresh
        fun name later => listed name (List.mem_cons_of_mem _ later)
      refine ⟨fields, ?_, fun name => ?_⟩
      · have isKnown : key ∈ known := listed key List.mem_cons_self
        simpa [entryContents, Document.collectFields, Document.text?, Json.stringScalar, isKnown,
          unseen] using collected
      · rw [lookup_eq, List.lookup_cons, Bindings.find?]
        by_cases same : key = name
        · subst same
          simp [Bindings.find?_eq_none.mpr once]
        · have other : (name == key) = false := by simpa using Ne.symm same
          rw [if_neg same, other]

/-- Reading a record: its fields are found again if they are among those that are known. -/
theorem exists_fields (legible : (Value.map entries).Legible depth)
    (ordered : entries.names.Sublist known) :
    ∃ fields, Document.fields? known (contents depth (.map entries)) = some fields ∧
      FieldsOf (depth + 1) entries fields := by
  have nothing_found : ∀ name ∈ entries.names, name ∉ ([] : Document.Fields).map (·.1) := by simp
  obtain ⟨fields, collected, lookup_eq⟩ :=
    exists_collectFields legible.formed.1 nothing_found fun name listed => ordered.subset listed
  refine ⟨fields, ?_, fun entry listed => legible.entry listed, fun name => ?_⟩
  · rw [legible.contents_map]
    exact collected
  · rw [lookup_eq, List.lookup_nil, Option.or_none]

theorem option?_of_readNumber {α : Type} {read : Document → Option α} {text rest : List Char}
    {d : Document} (found : Json.readNumber text = some (d, rest)) :
    Document.option? read d = (read d).map some := by
  rcases Json.scalar_of_readNumber found with ⟨n, rfl⟩ | ⟨x?, rfl⟩ <;> rfl

/-- Only null stands for what was left out. -/
theorem option?_contents {α : Type} {read : Document → Option α} {v : Value}
    (faithful : v.Faithful) :
    Document.option? read (contents depth v) =
      if v.isNull then some none else (read (contents depth v)).map some := by
  have opened (d : Document) (compound : ∀ content, d ≠ .scalar content) :
      Document.option? read (Json.within depth d) = (read (Json.within depth d)).map some := by
    unfold Json.within
    split
    · cases d with
      | scalar content => exact absurd rfl (compound content)
      | list | map | named => rfl
    · rfl
  cases v with
  | null | bool | string => rfl
  | list items => exact opened _ nofun
  | map entries => exact opened _ nofun
  | number n =>
      obtain ⟨d, found, _⟩ := Json.readNumber_of_number? faithful.number?
      rw [contents, Json.numberContents, found]
      exact option?_of_readNumber found

/-- What was written item by item is read item by item. -/
theorem mapM_map_eq_some {α β γ : Type} {items : List α} {write : α → β} {read : β → Option γ}
    {kept : α → γ} (each : ∀ item ∈ items, read (write item) = some (kept item)) :
    (items.map write).mapM read = some (items.map kept) := by
  induction items with
  | nil => rfl
  | cons first rest ih =>
      have head := each first List.mem_cons_self
      have tail := ih fun item listed => each item (List.mem_cons_of_mem _ listed)
      simp [head, tail]

theorem itemContents_eq_map {items : List Value} :
    itemContents depth items = items.map (contents depth) := by
  induction items with
  | nil => rfl
  | cons first rest ih => rw [itemContents, ih, List.map_cons]

theorem entryContents_eq_map : entryContents depth entries =
    entries.map fun entry => (.scalar (Json.stringScalar entry.1), contents depth entry.2) := by
  induction entries with
  | nil => rfl
  | cons first rest ih => rw [entryContents, ih, List.map_cons]

theorem list?_contents {α β : Type} {items : List α} {write : α → Value}
    {read : Document → Option β} {kept : α → β}
    (legible : (Value.list (items.map write)).Legible depth)
    (reads : ∀ item ∈ items, (write item).Legible (depth + 1) →
      read (contents (depth + 1) (write item)) = some (kept item)) :
    Document.list? read (contents depth (.list (items.map write))) = some (items.map kept) := by
  rw [legible.contents_list, itemContents_eq_map, List.map_map]
  exact mapM_map_eq_some fun item listed =>
    reads item listed (legible.item (List.mem_map_of_mem listed))

theorem bindings?_contents {values : Bindings Value} (legible : (Value.map values).Legible depth) :
    Document.bindings? (contents depth (.map values)) = some values := by
  have read : (entryContents (depth + 1) values).mapM (fun entry => do
      let name ← entry.1.text?
      let value ← entry.2.value?
      pure (name, value)) = some (values.map fun entry => entry) := by
    rw [entryContents_eq_map]
    refine mapM_map_eq_some fun entry listed => ?_
    simp [Document.text?, Json.stringScalar, (legible.entry listed).value?_contents]
  rw [legible.contents_map]
  change Option.map Bindings.ofPairs _ = _
  rw [read, Option.map_some, List.map_id', Bindings.ofPairs_of_distinct legible.formed.1]

namespace FieldsOf

variable {α : Type}

theorem legible_of_find? (record : FieldsOf depth entries fields) {v : Value}
    (found : entries.find? name = some v) : v.Legible depth :=
  record.legible _ (Bindings.mem_of_find? found)

theorem optional_some (record : FieldsOf depth entries fields) {v : Value} {otherwise : α}
    {read : Document → Option α} (found : entries.find? name = some v) :
    fields.optional? name otherwise read = read (contents depth v) := by
  rw [Document.Fields.optional?, record.lookup_eq, found]
  rfl

theorem optional_none (record : FieldsOf depth entries fields) {otherwise : α}
    {read : Document → Option α} (missing : entries.find? name = none) :
    fields.optional? name otherwise read = some otherwise := by
  rw [Document.Fields.optional?, record.lookup_eq, missing]
  rfl

/-- A field that is written up to a default is read where leaving it out stands for the default. -/
theorem optional_getD (record : FieldsOf depth entries fields) {default v : Value} {a otherwise : α}
    {read : Document → Option α} (found : (entries.find? name).getD default = v)
    (left_out : default = v → otherwise = a)
    (reads : v.Legible depth → read (contents depth v) = some a) :
    fields.optional? name otherwise read = some a := by
  cases present : entries.find? name with
  | none =>
      rw [present, Option.getD_none] at found
      rw [record.optional_none present, left_out found]
  | some written =>
      obtain rfl : written = v := by simpa only [present, Option.getD_some] using found
      rw [record.optional_some present]
      exact reads (record.legible_of_find? present)

theorem required_text (record : FieldsOf depth entries fields) {text : String}
    (found : entries.find? name = some (.string text)) :
    fields.required? name Document.text? = some text := by
  rw [Document.Fields.required?, record.lookup_eq, found]
  rfl

theorem optional_text (record : FieldsOf depth entries fields) {text otherwise : String}
    (found : (entries.find? name).getD (.string otherwise) = .string text) :
    fields.optional? name otherwise Document.text? = some text :=
  record.optional_getD found Value.string.inj fun _ => rfl

theorem text? (record : FieldsOf depth entries fields) {text? : Option String}
    (found : entries.find? name = text?.map .string) :
    fields.optional? name none (Document.option? Document.text?) = some text? := by
  cases text? with
  | none => exact record.optional_none found
  | some text =>
      rw [record.optional_some found]
      rfl

theorem value (record : FieldsOf depth entries fields) {v otherwise : Value}
    (found : entries.find? name = some v) :
    fields.optional? name otherwise Document.value? = some v := by
  rw [record.optional_some found]
  exact (record.legible_of_find? found).value?_contents

/-- Null in the place of a value that may be left out is read as if it were left out. -/
theorem value? (record : FieldsOf depth entries fields) {v? : Option Value}
    (found : entries.find? name = v?) :
    fields.optional? name none (Document.option? Document.value?) = some (dropNull v?) := by
  cases v? with
  | none => exact record.optional_none found
  | some v =>
      have legible := record.legible_of_find? found
      rw [record.optional_some found, option?_contents legible.toFaithful, legible.value?_contents]
      cases null : v.isNull <;> simp [dropNull, Option.filter_some, null]

theorem bool (record : FieldsOf depth entries fields) {b : Bool}
    (found : entries.find? name = if b then some (.bool true) else none) :
    fields.optional? name false Document.bool? = some b := by
  cases b with
  | false => exact record.optional_none found
  | true =>
      rw [record.optional_some found]
      rfl

/-- A record that may be left out. -/
theorem record? (record : FieldsOf depth entries fields) {inner? : Option α} {write : α → Value}
    {read : Document → Option α} (found : entries.find? name = inner?.map write)
    (notNull : ∀ inner, (write inner).isNull = false)
    (reads : ∀ inner, (write inner).Legible depth →
      read (contents depth (write inner)) = some inner) :
    fields.optional? name none (Document.option? read) = some inner? := by
  cases inner? with
  | none => exact record.optional_none found
  | some inner =>
      have legible := record.legible_of_find? found
      rw [record.optional_some found, option?_contents legible.toFaithful, reads inner legible,
        notNull]
      rfl

/-- A list, which may be left out where it is empty. -/
theorem list (record : FieldsOf depth entries fields) {β : Type} {items : List α}
    {write : α → Value} {read : Document → Option β} {kept : α → β}
    (found : (entries.find? name).getD (.list []) = .list (items.map write))
    (reads : ∀ item ∈ items, (write item).Legible (depth + 1) →
      read (contents (depth + 1) (write item)) = some (kept item)) :
    fields.optional? name [] (Document.list? read) = some (items.map kept) := by
  refine record.optional_getD found (fun same => ?_) fun legible => list?_contents legible reads
  rw [List.map_eq_nil_iff.mp (Value.list.inj same).symm, List.map_nil]

theorem texts (record : FieldsOf depth entries fields) {texts : List String}
    (found : (entries.find? name).getD (.list []) = .list (texts.map .string)) :
    fields.optional? name [] (Document.list? Document.text?) = some texts := by
  have read : ∀ text ∈ texts, (Value.string text).Legible (depth + 1) →
      Document.text? (contents (depth + 1) (.string text)) = some text := fun _ _ _ => rfl
  rw [record.list found read, List.map_id']

theorem values (record : FieldsOf depth entries fields) {values : List Value}
    (found : (entries.find? name).getD (.list []) = .list values) :
    fields.optional? name [] (Document.list? Document.value?) = some values := by
  rw [← List.map_id' values] at found
  rw [record.list found fun _ _ legible => legible.value?_contents, List.map_id']

theorem oneOrMany (record : FieldsOf depth entries fields) {texts : List String}
    (found : (entries.find? name).getD (.list []) = .list (texts.map .string)) :
    fields.optional? name [] Document.oneOrMany? = some texts := by
  refine record.optional_getD found (fun same => ?_) fun legible => ?_
  · exact (List.map_eq_nil_iff.mp (Value.list.inj same).symm).symm
  · have read : (texts.map Value.string).mapM Value.string? = some (texts.map id) :=
      mapM_map_eq_some fun _ _ => rfl
    rw [Document.oneOrMany?, option?_contents legible.toFaithful, legible.value?_contents]
    simpa [Value.isNull] using read

theorem bindings (record : FieldsOf depth entries fields) {values : Bindings Value}
    (found : (entries.find? name).getD (.map []) = .map values) :
    fields.optional? name [] Document.bindings? = some values :=
  record.optional_getD found Value.map.inj bindings?_contents

end FieldsOf

end Reading

end StagePlan
