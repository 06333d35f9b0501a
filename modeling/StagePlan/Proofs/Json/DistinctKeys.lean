import StagePlan.Json.Reader
import StagePlan.Proofs.Expression.Carried
import StagePlan.Proofs.Json.Numbers

namespace StagePlan.Json

/-!
Whatever a text is read as has distinct keys at every depth: of two entries with one key the last
one counts.
-/

variable {text rest : List Char} {d : Document} {v : Value}

theorem wellFormed_of_readString (read : readString text = some (d, rest))
    (held : d.value? = some v) : v.WellFormed := by
  obtain ⟨⟨pieces, behind⟩, _, same⟩ := Option.map_eq_some_iff.mp read
  dsimp only at same
  split at same <;> cases same <;> cases held
  trivial

theorem wellFormed_of_readNumber (read : readNumber text = some (d, rest))
    (held : d.value? = some v) : v.WellFormed := by
  rcases scalar_of_readNumber read with ⟨n, rfl⟩ | ⟨_ | x, rfl⟩ <;> cases held <;> trivial

theorem wellFormed_within {depth : Nat} (content : d.value? = some v → v.WellFormed)
    (held : (within depth d).value? = some v) : v.WellFormed := by
  rw [within] at held
  split at held
  · exact content held
  · cases held

theorem wellFormed_list {items : List Document} {depth : Nat}
    (each : ∀ values, Document.itemValues? items = some values → Value.WellFormedItems values)
    (held : (within depth (.list true items)).value? = some v) : v.WellFormed := by
  refine wellFormed_within (fun held => ?_) held
  obtain ⟨values, read, rfl⟩ := Option.map_eq_some_iff.mp held
  exact each values read

theorem wellFormed_map {entries : List (Document × Document)} {depth : Nat}
    (each : ∀ pairs, Document.entryValues? entries = some pairs → Value.WellFormedEntries pairs)
    (held : (within depth (.map true entries)).value? = some v) : v.WellFormed := by
  refine wellFormed_within (fun held => ?_) held
  obtain ⟨pairs, read, rfl⟩ := Option.map_eq_some_iff.mp held
  exact Value.wellFormed_map_ofPairs (each pairs read)

theorem wellFormedItems_cons {item : Document} {others : List Document} {values : List Value}
    (first : ∀ v, item.value? = some v → v.WellFormed)
    (later : ∀ values, Document.itemValues? others = some values → Value.WellFormedItems values)
    (held : Document.itemValues? (item :: others) = some values) :
    Value.WellFormedItems values := by
  rw [Document.itemValues?] at held
  split at held
  · rename_i value values here behind
    cases held
    exact ⟨first value here, later values behind⟩
  · cases held

theorem wellFormedEntries_cons {key item : Document} {others : List (Document × Document)}
    {pairs : List (String × Value)} (first : ∀ v, item.value? = some v → v.WellFormed)
    (later : ∀ pairs, Document.entryValues? others = some pairs → Value.WellFormedEntries pairs)
    (held : Document.entryValues? ((key, item) :: others) = some pairs) :
    Value.WellFormedEntries pairs := by
  rw [Document.entryValues?] at held
  split at held
  · rename_i name value pairs _ here behind
    cases held
    exact ⟨first value here, later pairs behind⟩
  · cases held

theorem wellFormedItems_nil : ∀ values, Document.itemValues? [] = some values →
    Value.WellFormedItems values := by
  rintro _ ⟨rfl⟩
  trivial

theorem wellFormedEntries_nil : ∀ pairs, Document.entryValues? [] = some pairs →
    Value.WellFormedEntries pairs := by
  rintro _ ⟨rfl⟩
  trivial

mutual

/-- Along the reader, by induction on its fuel. -/
theorem wellFormed_of_readDocument : ∀ {fuel depth : Nat} {text rest : List Char} {d : Document}
    {v : Value}, readDocument fuel depth text = some (d, rest) → d.value? = some v → v.WellFormed
  | 0, _, _, _, _, _, read, _ => by cases read
  | fuel + 1, depth, text, rest, d, v, read, held => by
      rw [readDocument] at read
      split at read
      · exact wellFormed_of_readString read held
      · split at read
        · cases read
          exact wellFormed_list wellFormedItems_nil held
        · split at read
          · rename_i items
            cases read
            exact wellFormed_list (fun _ => wellFormedItems_of_readItems items) held
          · cases read
      · split at read
        · cases read
          exact wellFormed_map wellFormedEntries_nil held
        · split at read
          · rename_i entries
            cases read
            exact wellFormed_map (fun _ => wellFormedEntries_of_readEntries entries) held
          · cases read
      · cases read
        cases held
        trivial
      · cases read
        cases held
        trivial
      · cases read
        cases held
        trivial
      · exact wellFormed_of_readNumber read held

theorem wellFormedItems_of_readItems : ∀ {fuel depth : Nat} {text rest : List Char}
    {items : List Document} {values : List Value},
    readItems fuel depth text = some (items, rest) → Document.itemValues? items = some values →
      Value.WellFormedItems values
  | 0, _, _, _, _, _, read, _ => by cases read
  | fuel + 1, depth, text, rest, items, values, read, held => by
      rw [readItems] at read
      split at read
      · cases read
      · rename_i item behind first
        have here := fun v => wellFormed_of_readDocument (v := v) first
        split at read
        · cases read
          exact wellFormedItems_cons here wellFormedItems_nil held
        · split at read
          · rename_i others
            cases read
            exact wellFormedItems_cons here (fun _ => wellFormedItems_of_readItems others) held
          · cases read
        · cases read

theorem wellFormedEntries_of_readEntries : ∀ {fuel depth : Nat} {text rest : List Char}
    {entries : List (Document × Document)} {pairs : List (String × Value)},
    readEntries fuel depth text = some (entries, rest) →
      Document.entryValues? entries = some pairs → Value.WellFormedEntries pairs
  | 0, _, _, _, _, _, read, _ => by cases read
  | fuel + 1, depth, text, rest, entries, pairs, read, held => by
      rw [readEntries] at read
      split at read
      · split at read
        · cases read
        · split at read
          · split at read
            · cases read
            · rename_i item behind first
              have here := fun v => wellFormed_of_readDocument (v := v) first
              split at read
              · cases read
                exact wellFormedEntries_cons here wellFormedEntries_nil held
              · split at read
                · rename_i others
                  cases read
                  exact wellFormedEntries_cons here
                    (fun _ => wellFormedEntries_of_readEntries others) held
                · cases read
              · cases read
          · cases read
      · cases read

end

/-- A value that a text is read as has distinct keys at every depth. -/
theorem wellFormed_of_value? {text : String} (read : value? text = some v) : v.WellFormed := by
  obtain ⟨d, whole, held⟩ := Option.bind_eq_some_iff.mp read
  unfold document? at whole
  dsimp only at whole
  split at whole
  · rename_i found
    split at whole <;> cases whole
    exact wellFormed_of_readDocument found held
  · cases whole

end StagePlan.Json
