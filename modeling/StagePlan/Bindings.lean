namespace StagePlan

/-!
Names bound to things, in the order in which they were first bound. Binding a name again replaces
the thing and keeps the place, so the names of a list that was built by `Bindings.bind` are
distinct.
-/

abbrev Bindings (α : Type) := List (String × α)

namespace Bindings

variable {α : Type}

def find? (name : String) : Bindings α → Option α
  | [] => none
  | (key, value) :: rest => if key = name then some value else find? name rest

def has (name : String) (entries : Bindings α) : Bool :=
  entries.any fun entry => entry.1 = name

def names (entries : Bindings α) : List String :=
  entries.map (·.1)

/-- Binds `name`, at its first place if it is bound already and at the end otherwise. -/
def bind (name : String) (value : α) : Bindings α → Bindings α
  | [] => [(name, value)]
  | (key, old) :: rest =>
      if key = name then (key, value) :: rest else (key, old) :: bind name value rest

/-- Binds every pair of a list in turn: of two pairs with one name the last value counts, at the
place of the first. -/
def ofPairs (pairs : List (String × α)) : Bindings α :=
  pairs.foldl (fun entries pair => entries.bind pair.1 pair.2) []

def erase (name : String) (entries : Bindings α) : Bindings α :=
  entries.filter fun entry => entry.1 ≠ name

/-- No name is bound twice. -/
def Distinct (entries : Bindings α) : Prop :=
  entries.names.Nodup

@[simp] theorem names_nil : names ([] : Bindings α) = [] := rfl

@[simp] theorem names_cons (entry : String × α) (entries : Bindings α) :
    names (entry :: entries) = entry.1 :: names entries := rfl

@[simp] theorem names_append (first second : Bindings α) :
    names (first ++ second) = names first ++ names second :=
  List.map_append

@[simp] theorem find?_nil {name : String} : find? name ([] : Bindings α) = none := rfl

@[simp] theorem find?_cons {key name : String} {value : α} {rest : Bindings α} :
    find? name ((key, value) :: rest) = if key = name then some value else find? name rest := rfl

@[simp] theorem find?_append (first second : Bindings α) (name : String) :
    find? name (first ++ second) = (find? name first).or (find? name second) := by
  induction first with
  | nil => rfl
  | cons entry rest ih =>
      obtain ⟨key, value⟩ := entry
      rw [List.cons_append, find?, find?, ih]
      split <;> rfl

theorem find?_bind (entries : Bindings α) (name other : String) (value : α) :
    find? other (entries.bind name value) =
      if name = other then some value else find? other entries := by
  induction entries with
  | nil => rfl
  | cons entry rest ih =>
      obtain ⟨key, old⟩ := entry
      by_cases same : key = name
      · subst same
        by_cases asked : key = other <;> simp [bind, find?, asked]
      · by_cases asked : key = other
        · have different : name ≠ other := fun h => same (asked.trans h.symm)
          simp [bind, find?, asked, different, Ne.symm different]
        · simp [bind, find?, same, asked, ih]

theorem has_eq_isSome (entries : Bindings α) (name : String) :
    entries.has name = (entries.find? name).isSome := by
  induction entries with
  | nil => rfl
  | cons entry rest ih =>
      obtain ⟨key, value⟩ := entry
      by_cases same : key = name
      · simp [has, find?, same]
      · simpa [has, find?, same] using ih

theorem mem_of_find? {entries : Bindings α} {name : String} {value : α}
    (found : entries.find? name = some value) : (name, value) ∈ entries := by
  induction entries with
  | nil => simp [find?] at found
  | cons entry rest ih =>
      obtain ⟨key, old⟩ := entry
      by_cases same : key = name
      · simp only [find?, same, if_true, Option.some.injEq] at found
        rw [same, found]
        exact List.mem_cons_self
      · simp only [find?, same, if_false] at found
        exact List.mem_cons_of_mem _ (ih found)

theorem find?_of_mem {entries : Bindings α} (distinct : entries.Distinct) {entry : String × α}
    (listed : entry ∈ entries) : entries.find? entry.1 = some entry.2 := by
  induction entries with
  | nil => contradiction
  | cons other rest ih =>
      obtain ⟨fresh, others⟩ := List.nodup_cons.mp distinct
      obtain ⟨key, value⟩ := other
      rcases List.mem_cons.mp listed with here | later
      · simp [here]
      · have named : entry.1 ∈ names rest := List.mem_map_of_mem later
        have different : key ≠ entry.1 := by
          intro same
          exact fresh (same ▸ named)
        rw [find?_cons, if_neg different]
        exact ih others later

theorem mem_of_find?_ofPairs {pairs : List (String × α)} {name : String} {value : α}
    (found : (ofPairs pairs).find? name = some value) : (name, value) ∈ pairs := by
  have from_any : ∀ entries : Bindings α,
      (pairs.foldl (fun entries pair => entries.bind pair.1 pair.2) entries).find? name =
        some value → entries.find? name = some value ∨ (name, value) ∈ pairs := by
    clear found
    induction pairs with
    | nil => exact fun _ known => .inl known
    | cons pair rest ih =>
        intro entries known
        rcases ih (entries.bind pair.1 pair.2) known with known | later
        · rw [find?_bind] at known
          split at known
          · rename_i same
            cases known
            exact .inr (same ▸ List.mem_cons_self)
          · exact .inl known
        · exact .inr (List.mem_cons_of_mem _ later)
  rcases from_any [] found with known | listed
  · simp [find?] at known
  · exact listed

theorem names_bind (entries : Bindings α) (name : String) (value : α) :
    names (entries.bind name value) =
      if name ∈ entries.names then entries.names else entries.names ++ [name] := by
  induction entries with
  | nil => simp [bind]
  | cons entry rest ih =>
      obtain ⟨key, old⟩ := entry
      by_cases same : key = name
      · simp [bind, same]
      · have other : name ≠ key := fun h => same h.symm
        simp only [bind, same, if_false, names_cons, ih, List.mem_cons, other, false_or]
        split <;> simp

theorem find?_eq_none {entries : Bindings α} {name : String} :
    entries.find? name = none ↔ name ∉ entries.names := by
  induction entries with
  | nil => simp [find?]
  | cons entry rest ih =>
      obtain ⟨key, value⟩ := entry
      by_cases same : key = name
      · simp [find?, same]
      · simp [find?, same, Ne.symm same, ih]

theorem mem_names_of_find? {entries : Bindings α} {name : String} {value : α}
    (found : entries.find? name = some value) : name ∈ entries.names :=
  List.mem_map_of_mem (mem_of_find? found)

theorem mem_names_bind {entries : Bindings α} {name other : String} {value : α} :
    name ∈ (entries.bind other value).names ↔ name ∈ entries.names ∨ name = other := by
  rw [names_bind]
  split
  · rename_i known
    exact ⟨.inl, fun either => either.elim id fun same => same ▸ known⟩
  · rw [List.mem_append, List.mem_singleton]

theorem mem_names_bindAll {pairs : List (String × α)} {entries : Bindings α} {name : String} :
    name ∈ names (pairs.foldl (fun entries pair => entries.bind pair.1 pair.2) entries) ↔
      name ∈ entries.names ∨ name ∈ pairs.map (·.1) := by
  induction pairs generalizing entries with
  | nil => simp
  | cons pair rest ih =>
      rw [List.foldl_cons, ih, mem_names_bind, List.map_cons, List.mem_cons, or_assoc]

theorem mem_names_ofPairs {pairs : List (String × α)} {name : String} :
    name ∈ (ofPairs pairs).names ↔ name ∈ pairs.map (·.1) :=
  mem_names_bindAll.trans (by simp)

theorem distinct_bind {entries : Bindings α} (distinct : entries.Distinct) (name : String)
    (value : α) : (entries.bind name value).Distinct := by
  simp only [Distinct, names_bind] at *
  split
  · exact distinct
  · rename_i absent
    exact List.nodup_append.mpr ⟨distinct, by simp, by
      intro a known b fresh
      simp only [List.mem_singleton] at fresh
      exact fun h => absent (fresh ▸ h ▸ known)⟩

theorem bind_of_absent {entries : Bindings α} {name : String} (absent : name ∉ entries.names)
    (value : α) : entries.bind name value = entries ++ [(name, value)] := by
  induction entries with
  | nil => rfl
  | cons entry rest ih =>
      obtain ⟨key, old⟩ := entry
      rw [names_cons, List.mem_cons, not_or] at absent
      rw [bind, if_neg (Ne.symm absent.1), ih absent.2, List.cons_append]

/-- Pairs with distinct names are bound as they are. -/
theorem ofPairs_of_distinct {pairs : Bindings α} (distinct : pairs.Distinct) :
    ofPairs pairs = pairs := by
  have from_any : ∀ entries : Bindings α, Distinct (entries ++ pairs) →
      pairs.foldl (fun entries pair => entries.bind pair.1 pair.2) entries = entries ++ pairs := by
    clear distinct
    induction pairs with
    | nil => simp
    | cons pair rest ih =>
        intro entries distinct
        have absent : pair.1 ∉ entries.names := by
          intro bound
          rw [Distinct, names, List.map_append, List.nodup_append] at distinct
          exact distinct.2.2 pair.1 bound pair.1 (by simp) rfl
        have longer : Distinct ((entries ++ [pair]) ++ rest) := by
          rw [List.append_assoc]
          exact distinct
        rw [List.foldl_cons, bind_of_absent absent, ih _ longer, List.append_assoc]
        rfl
  exact from_any [] distinct

theorem distinct_bindAll {entries : Bindings α} (distinct : entries.Distinct)
    (pairs : List (String × α)) :
    Distinct (pairs.foldl (fun entries pair => entries.bind pair.1 pair.2) entries) := by
  induction pairs generalizing entries with
  | nil => exact distinct
  | cons pair rest ih => exact ih (distinct_bind distinct _ _)

theorem distinct_ofPairs (pairs : List (String × α)) : (ofPairs pairs).Distinct :=
  distinct_bindAll (by simp [Distinct]) pairs

/-- Entries with distinct names cover what was bound before. -/
theorem find?_bindAll {pairs : Bindings α} (distinct : pairs.Distinct) (entries : Bindings α)
    (name : String) :
    find? name (pairs.foldl (fun entries pair => entries.bind pair.1 pair.2) entries) =
      (pairs.find? name).or (entries.find? name) := by
  induction pairs generalizing entries with
  | nil => rfl
  | cons pair rest ih =>
      obtain ⟨key, value⟩ := pair
      obtain ⟨fresh, distinct⟩ := List.nodup_cons.mp distinct
      rw [List.foldl_cons, ih distinct, find?_bind]
      by_cases same : key = name
      · subst same
        rw [find?_eq_none.mpr fresh]
        simp [find?]
      · simp [find?, same]

end Bindings

end StagePlan
