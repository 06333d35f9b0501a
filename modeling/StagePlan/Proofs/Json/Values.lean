import StagePlan.Proofs.Json.Numbers
import StagePlan.Proofs.Json.Strings

namespace StagePlan

/-!
Documents of values, read back. `Json.contents` is what is read of the document of a value, wherever
it stands. The value that it holds is the one that was written, with null in place of what is not
finite, unless it is nested too deep to be read at all.
-/

namespace Value

mutual

/-- What the document of a value says: there is null where a number is not finite. -/
def documented : Value → Value
  | .number (.float x) => if x.isFinite then .number (.float x) else .null
  | .list items => .list (documentedItems items)
  | .map entries => .map (documentedEntries entries)
  | v => v

def documentedItems : List Value → List Value
  | [] => []
  | item :: rest => documented item :: documentedItems rest

def documentedEntries : List (String × Value) → List (String × Value)
  | [] => []
  | (key, value) :: rest => (key, documented value) :: documentedEntries rest

end

mutual

/-- How many lists and maps lie in one another. -/
def nesting : Value → Nat
  | .list items => itemNesting items + 1
  | .map entries => entryNesting entries + 1
  | _ => 0

def itemNesting : List Value → Nat
  | [] => 0
  | item :: rest => max (nesting item) (itemNesting rest)

def entryNesting : List (String × Value) → Nat
  | [] => 0
  | (_, value) :: rest => max (nesting value) (entryNesting rest)

end

mutual

/-- Every finite decimal of the tree is what its text is read as. -/
def ReadsBack : Value → Prop
  | .number (.float x) =>
      x.isFinite = true →
        Json.number? (Number.float x).documentChars = some (.float x)
  | .list items => ItemsReadBack items
  | .map entries => EntriesReadBack entries
  | _ => True

def ItemsReadBack : List Value → Prop
  | [] => True
  | item :: rest => ReadsBack item ∧ ItemsReadBack rest

def EntriesReadBack : List (String × Value) → Prop
  | [] => True
  | (_, value) :: rest => ReadsBack value ∧ EntriesReadBack rest

end

mutual

/-- The document of a value says what the value is, unless there is a number in it that is not
finite. -/
theorem documented_eq_iff : ∀ v : Value, v.documented = v ↔ v.nonFinite? = none
  | .number (.float x) => by
      simp only [documented, nonFinite?]
      split <;> simp
  | .list items => by
      simp only [documented, nonFinite?, Value.list.injEq, documentedItems_eq_iff items]
  | .map entries => by
      simp only [documented, nonFinite?, Value.map.injEq, documentedEntries_eq_iff entries]
  | .null | .bool _ | .number (.integer _) | .string _ => by simp only [documented, nonFinite?]

theorem documentedItems_eq_iff : ∀ items : List Value,
    documentedItems items = items ↔ nonFiniteItem? items = none
  | [] => by simp only [documentedItems, nonFiniteItem?]
  | item :: rest => by
      simp only [documentedItems, nonFiniteItem?, List.cons.injEq, Option.or_eq_none_iff,
        documented_eq_iff item, documentedItems_eq_iff rest]

theorem documentedEntries_eq_iff : ∀ entries : List (String × Value),
    documentedEntries entries = entries ↔ nonFiniteAmong? entries = none
  | [] => by simp only [documentedEntries, nonFiniteAmong?]
  | (key, value) :: rest => by
      simp only [documentedEntries, nonFiniteAmong?, List.cons.injEq, Prod.mk.injEq, true_and,
        Option.or_eq_none_iff, documented_eq_iff value, documentedEntries_eq_iff rest]

end

theorem nonFiniteAmong?_insertSorted (entry : String × Value) (entries : List (String × Value)) :
    nonFiniteAmong? (insertSorted entry entries) = none ↔
      entry.2.nonFinite? = none ∧ nonFiniteAmong? entries = none := by
  induction entries with
  | nil => simp [insertSorted, nonFiniteAmong?]
  | cons other rest ih =>
      rw [insertSorted]
      split
      · simp [nonFiniteAmong?]
      · simp only [nonFiniteAmong?, Option.or_eq_none_iff, ih]
        exact and_left_comm

mutual

/-- In whatever order, a value has a number that is not finite or has none. -/
theorem nonFinite?_sorted : ∀ v : Value, v.sorted.nonFinite? = none ↔ v.nonFinite? = none
  | .list items => by
      simp only [sorted, nonFinite?, nonFiniteItem?_sorted items]
  | .map entries => by
      simp only [sorted, nonFinite?, nonFiniteAmong?_sorted entries]
  | .null | .bool _ | .number _ | .string _ => by simp only [sorted]

theorem nonFiniteItem?_sorted : ∀ items : List Value,
    nonFiniteItem? (sortedItems items) = none ↔ nonFiniteItem? items = none
  | [] => by simp only [sortedItems]
  | item :: rest => by
      simp only [sortedItems, nonFiniteItem?, Option.or_eq_none_iff, nonFinite?_sorted item,
        nonFiniteItem?_sorted rest]

theorem nonFiniteAmong?_sorted : ∀ entries : List (String × Value),
    nonFiniteAmong? (sortedEntries entries) = none ↔ nonFiniteAmong? entries = none
  | [] => by simp only [sortedEntries]
  | (key, value) :: rest => by
      simp only [sortedEntries, nonFiniteAmong?_insertSorted, nonFiniteAmong?, Option.or_eq_none_iff,
        nonFinite?_sorted value, nonFiniteAmong?_sorted rest]

end

/-- Only what is finite stands for a text. -/
theorem nonFinite?_of_text {v : Value} {shown : String} (written : v.text = .ok shown) :
    v.nonFinite? = none := by
  have canonical_ (written : v.canonical = .ok shown) : v.nonFinite? = none := by
    rw [canonical] at written
    split at written
    · cases written
    · rename_i finite
      exact v.nonFinite?_sorted.mp finite
  unfold text at written
  split at written
  any_goals rfl
  · split at written
    · rename_i finite
      rw [nonFinite?, if_pos finite]
    · cases written
  · exact canonical_ written

theorem names_documentedEntries (entries : List (String × Value)) :
    Bindings.names (documentedEntries entries) = Bindings.names entries := by
  induction entries with
  | nil => rfl
  | cons entry rest ih =>
      obtain ⟨key, value⟩ := entry
      simp only [documentedEntries, Bindings.names_cons, ih]

end Value

namespace Json

open Value

/-- What is read where nothing is written. -/
def absence : Document :=
  .scalar { value? := some .null, absent := true }

/-- What the document of a number is read as. It has no digits if the number is not finite. -/
def numberContents (n : Number) : Document :=
  match readNumber n.documentChars with
  | some (d, _) => d
  | none => absence

mutual

/-- What the document of a value is read as, `depth` lists and maps being open around it. -/
def contents (depth : Nat) : Value → Document
  | .null => absence
  | .bool b => .scalar { bool? := some b, value? := some (.bool b) }
  | .number n => numberContents n
  | .string text => .scalar (stringScalar text)
  | .list items => within depth (.list true (itemContents (depth + 1) items))
  | .map entries => within depth (.map true (entryContents (depth + 1) entries))

def itemContents (depth : Nat) : List Value → List Document
  | [] => []
  | item :: rest => contents depth item :: itemContents depth rest

def entryContents (depth : Nat) : List (String × Value) → List (Document × Document)
  | [] => []
  | (key, value) :: rest =>
      (.scalar (stringScalar key), contents depth value) :: entryContents depth rest

end

/-- What a value with a nesting is read as at a depth: the value, or nothing if it lies too deep. -/
structure Holds {α : Type} (depth nesting : Nat) (found? : Option α) (value : α) : Prop where
  shallow : depth + nesting ≤ depthLimit → found? = some value
  deep : depth ≤ depthLimit → depthLimit < depth + nesting → found? = none

section Depth

variable {α β γ : Type} {depth nesting : Nat} {found? : Option α} {value : α}

theorem Holds.scalar (depth : Nat) (value : α) : Holds depth 0 (some value) value :=
  ⟨fun _ => rfl, fun room full => absurd room (Nat.not_le_of_lt full)⟩

theorem Holds.within {wrap : α → Value} {d : Document} (content : d.value? = found?.map wrap)
    (inner : Holds (depth + 1) nesting found? value) :
    Holds depth (nesting + 1) (within depth d).value? (wrap value) := by
  unfold Json.within
  constructor
  · intro fits
    rw [if_pos (by omega), content, inner.shallow (by omega)]
    rfl
  · intro room full
    split
    · rename_i open_
      rw [content, inner.deep (by omega) (by omega)]
      rfl
    · rfl

theorem Holds.list {docs : List Document} {items : List Value}
    (inner : Holds (depth + 1) nesting (Document.itemValues? docs) items) :
    Holds depth (nesting + 1) (Json.within depth (.list true docs)).value? (.list items) :=
  Holds.within rfl inner

theorem Holds.map {docs : List (Document × Document)} {entries : List (String × Value)}
    (distinct : Bindings.Distinct entries)
    (inner : Holds (depth + 1) nesting (Document.entryValues? docs) entries) :
    Holds depth (nesting + 1) (Json.within depth (.map true docs)).value? (.map entries) := by
  let wrap (pairs : List (String × Value)) : Value := .map (Bindings.ofPairs pairs)
  have whole : Holds depth (nesting + 1) (Json.within depth (.map true docs)).value?
      (wrap entries) := Holds.within rfl inner
  rwa [show wrap entries = .map entries from
    congrArg Value.map (Bindings.ofPairs_of_distinct distinct)] at whole

theorem Holds.both {first? : Option α} {others? : Option β} {first : α} {others : β} {m n : Nat}
    (combine : α → β → γ) (head : Holds depth m first? first)
    (tail : Holds depth n others? others) :
    Holds depth (max m n) (first?.bind fun a => others?.map (combine a))
      (combine first others) := by
  constructor
  · intro fits
    rw [head.shallow (by omega), tail.shallow (by omega)]
    rfl
  · intro room full
    by_cases shallow : depth + m ≤ depthLimit
    · rw [head.shallow shallow, tail.deep room (by omega)]
      rfl
    · rw [head.deep room (by omega)]
      rfl

theorem itemValues?_cons (item : Document) (rest : List Document) :
    Document.itemValues? (item :: rest) =
      item.value?.bind fun value => (Document.itemValues? rest).map (value :: ·) := by
  rw [Document.itemValues?]
  cases item.value? <;> cases Document.itemValues? rest <;> rfl

theorem entryValues?_cons (name : String) (item : Document) (rest : List (Document × Document)) :
    Document.entryValues? ((.scalar (stringScalar name), item) :: rest) =
      item.value?.bind fun value =>
        (Document.entryValues? rest).map ((name, value) :: ·) := by
  rw [Document.entryValues?]
  have key : (Document.scalar (stringScalar name)).value? = some (.string name) := rfl
  rw [key]
  cases item.value? <;> cases Document.entryValues? rest <;> rfl

end Depth

section Numbers

variable {text rest : List Char} {fuel depth : Nat} {c : Char}

/-- What a number begins with begins nothing else. -/
theorem ne_of_leads (leads : c = '-' ∨ c.isDigit = true) {other : Char}
    (odd : other ≠ '-' ∧ other.isDigit = false) : c ≠ other := by
  rintro rfl
  rcases leads with minus | digit
  · exact odd.1 minus
  · rw [odd.2] at digit
    cases digit

theorem isBlank_of_leads (leads : c = '-' ∨ c.isDigit = true) : isBlank c = false := by
  have space : c ≠ ' ' := ne_of_leads leads (by decide)
  have line : c ≠ '\n' := ne_of_leads leads (by decide)
  have tab : c ≠ '\t' := ne_of_leads leads (by decide)
  have carriage : c ≠ '\r' := ne_of_leads leads (by decide)
  simp [isBlank, space, line, tab, carriage]

theorem readDocument_of_leads (leads : c = '-' ∨ c.isDigit = true) :
    readDocument (fuel + 1) depth (c :: text) = readNumber (c :: text) := by
  have start : skipBlanks (c :: text) = c :: text := by
    simp [skipBlanks, isBlank_of_leads leads]
  rw [readDocument, start]
  split
  all_goals try rfl
  all_goals
    rename_i same
    exact absurd (List.cons.inj same).1 (ne_of_leads leads (by decide))

theorem readNumber_of_number? {n : Number} (back : number? text = some n) :
    ∃ d, readNumber text = some (d, []) ∧ d.value? = some (.number n) := by
  unfold number? at back
  split at back
  · rename_i d read
    refine ⟨d, read, ?_⟩
    obtain ⟨v, held, counted⟩ := Option.bind_eq_some_iff.mp back
    cases v <;> cases counted
    exact held
  · cases back

theorem leads_of_number? {n : Number} (back : number? text = some n) :
    ∃ c tail, text = c :: tail ∧ (c = '-' ∨ c.isDigit = true) := by
  obtain ⟨d, read, _⟩ := readNumber_of_number? back
  exact head_of_readNumber read

theorem readNumber_contents {n : Number} (back : number? n.documentChars = some n) :
    readNumber n.documentChars = some (numberContents n, []) := by
  obtain ⟨d, read, _⟩ := readNumber_of_number? back
  rw [numberContents, read]

theorem value?_numberContents {n : Number} (back : number? n.documentChars = some n) :
    (numberContents n).value? = some (.number n) := by
  obtain ⟨d, read, held⟩ := readNumber_of_number? back
  rwa [numberContents, read]

theorem readDocument_number {n : Number} (back : number? n.documentChars = some n)
    (ended : EndsNumber rest) :
    readDocument (fuel + 1) depth (n.documentChars ++ rest) = some (numberContents n, rest) := by
  obtain ⟨c, tail, whole, leads⟩ := leads_of_number? back
  have longer : readNumber (n.documentChars ++ rest) = _ := readNumber_append ended
  rw [readNumber_contents back] at longer
  rw [whole, List.cons_append] at longer ⊢
  rw [readDocument_of_leads leads]
  exact longer

/-- There is null in the place of what is not finite. -/
theorem readDocument_notFinite {x : Binary64} (infinite : ¬ x.isFinite = true) :
    readDocument (fuel + 1) depth ((Number.float x).documentChars ++ rest) =
      some (numberContents (.float x), rest) := by
  rw [numberContents, Number.documentChars, if_neg infinite]
  rfl

end Numbers

section Values

variable {rest : List Char}

/-- What the document of a value begins with is not taken for the end of a list. -/
theorem head_documentChars : ∀ {v : Value}, v.ReadsBack →
    ∃ c tail, v.documentChars = c :: tail ∧ isBlank c = false ∧ c ≠ ']'
  | .null, _ => ⟨_, _, rfl, by decide⟩
  | .bool true, _ => ⟨_, _, rfl, by decide⟩
  | .bool false, _ => ⟨_, _, rfl, by decide⟩
  | .string _, _ => ⟨_, _, rfl, by decide⟩
  | .list _, _ => ⟨_, _, by rw [documentChars], by decide⟩
  | .map _, _ => ⟨_, _, by rw [documentChars], by decide⟩
  | .number (.integer n), _ => by
      obtain ⟨c, tail, whole, leads⟩ := leads_of_number? (number?_integer n)
      exact ⟨c, tail, by rw [documentChars, whole], isBlank_of_leads leads,
        ne_of_leads leads (by decide)⟩
  | .number (.float x), back => by
      by_cases finite : x.isFinite = true
      · obtain ⟨c, tail, whole, leads⟩ := leads_of_number? (back finite)
        exact ⟨c, tail, by rw [documentChars, whole], isBlank_of_leads leads,
          ne_of_leads leads (by decide)⟩
      · refine ⟨'n', ['u', 'l', 'l'], ?_, by decide⟩
        rw [documentChars, Number.documentChars, if_neg finite]
        rfl

theorem itemsChars_cons (first second : Value) (others : List Value) :
    itemsChars (first :: second :: others) =
      documentChars first ++ ',' :: itemsChars (second :: others) := by
  rw [itemsChars]
  nofun

theorem entriesChars_cons (key : String) (value : Value) (second : String × Value)
    (others : List (String × Value)) :
    entriesChars ((key, value) :: second :: others) =
      documentString key ++
        ':' :: (documentChars value ++ ',' :: entriesChars (second :: others)) := by
  rw [entriesChars]
  · simp
  · nofun

theorem head_itemsChars (first : Value) (others : List Value)
    (back : ItemsReadBack (first :: others)) :
    ∃ c tail, itemsChars (first :: others) = c :: tail ∧ isBlank c = false ∧ c ≠ ']' := by
  obtain ⟨c, tail, whole, solid, more⟩ := head_documentChars back.1
  cases others with
  | nil => exact ⟨c, tail ++ [']'], by rw [itemsChars, whole]; rfl, solid, more⟩
  | cons second others =>
      exact ⟨c, tail ++ ',' :: itemsChars (second :: others),
        by rw [itemsChars_cons, whole]; rfl, solid, more⟩

theorem head_entriesChars (first : String × Value) (others : List (String × Value)) :
    ∃ tail, entriesChars (first :: others) = '"' :: tail := by
  obtain ⟨key, value⟩ := first
  cases others <;> exact ⟨_, rfl⟩

theorem readDocument_list {fuel depth : Nat} {c : Char} {tail : List Char}
    {items : List Document} (solid : isBlank c = false) (more : c ≠ ']')
    (read : readItems fuel (depth + 1) (c :: tail) = some (items, rest)) :
    readDocument (fuel + 1) depth ('[' :: c :: tail) =
      some (within depth (.list true items), rest) := by
  have opened : skipBlanks ('[' :: c :: tail) = '[' :: c :: tail := rfl
  have start : skipBlanks (c :: tail) = c :: tail := by simp [skipBlanks, solid]
  simp only [readDocument, opened, start]
  split
  · rename_i same
    exact absurd (List.cons.inj same).1 more
  · rw [read]

theorem readDocument_map {fuel depth : Nat} {tail : List Char}
    {entries : List (Document × Document)}
    (read : readEntries fuel (depth + 1) ('"' :: tail) = some (entries, rest)) :
    readDocument (fuel + 1) depth ('\x7b' :: '"' :: tail) =
      some (within depth (.map true entries), rest) := by
  have opened : skipBlanks ('\x7b' :: '"' :: tail) = '\x7b' :: '"' :: tail := rfl
  have start : skipBlanks ('"' :: tail) = '"' :: tail := rfl
  simp only [readDocument, opened, start]
  split
  · rename_i same
    exact absurd (List.cons.inj same).1 (by decide)
  · rw [read]

/-- An item that is followed by more of a list, or by its end. -/
theorem readItems_cons {fuel depth : Nat} {text : List Char} {item : Document}
    {others : List Document} {tail : List Char}
    (first : readDocument fuel depth text = some (item, ',' :: tail))
    (read : readItems fuel depth tail = some (others, rest)) :
    readItems (fuel + 1) depth text = some (item :: others, rest) := by
  have comma : skipBlanks (',' :: tail) = ',' :: tail := rfl
  simp only [readItems, first, comma, read]

theorem readItems_last {fuel depth : Nat} {text : List Char} {item : Document}
    (last : readDocument fuel depth text = some (item, ']' :: rest)) :
    readItems (fuel + 1) depth text = some ([item], rest) := by
  have bracket : skipBlanks (']' :: rest) = ']' :: rest := rfl
  simp only [readItems, last, bracket]

theorem documentString_append (name : String) (text : List Char) :
    documentString name ++ ':' :: text =
      '"' :: (name.toList.flatMap documentChar ++ '"' :: ':' :: text) := by
  simp [documentString]

theorem readEntries_cons {fuel depth : Nat} {name : String} {text : List Char} {item : Document}
    {others : List (Document × Document)} {tail : List Char}
    (first : readDocument fuel depth text = some (item, ',' :: tail))
    (read : readEntries fuel depth tail = some (others, rest)) :
    readEntries (fuel + 1) depth (documentString name ++ ':' :: text) =
      some ((.scalar (stringScalar name), item) :: others, rest) := by
  have quote (tail : List Char) : skipBlanks ('"' :: tail) = '"' :: tail := rfl
  have colon : skipBlanks (':' :: text) = ':' :: text := rfl
  have comma : skipBlanks (',' :: tail) = ',' :: tail := rfl
  simp only [documentString_append, readEntries, quote, readString_documentString, colon, first,
    comma, read]

theorem readEntries_last {fuel depth : Nat} {name : String} {text : List Char} {item : Document}
    (last : readDocument fuel depth text = some (item, '\x7d' :: rest)) :
    readEntries (fuel + 1) depth (documentString name ++ ':' :: text) =
      some ([(.scalar (stringScalar name), item)], rest) := by
  have quote (tail : List Char) : skipBlanks ('"' :: tail) = '"' :: tail := rfl
  have colon : skipBlanks (':' :: text) = ':' :: text := rfl
  have brace : skipBlanks ('\x7d' :: rest) = '\x7d' :: rest := rfl
  simp only [documentString_append, readEntries, quote, readString_documentString, colon, last,
    brace]

mutual

/-- Induction on the value. A reader has fuel for two steps for each character that it reads. -/
theorem readDocument_contents : ∀ {v : Value}, v.ReadsBack →
    ∀ {fuel : Nat} (depth : Nat) (rest : List Char), 2 * v.documentChars.length < fuel →
      EndsNumber rest →
        readDocument fuel depth (v.documentChars ++ rest) = some (contents depth v, rest)
  | .null, _, fuel + 1, _, _, _, _ => rfl
  | .bool true, _, fuel + 1, _, _, _, _ => rfl
  | .bool false, _, fuel + 1, _, _, _, _ => rfl
  | .string text, _, fuel + 1, depth, rest, _, _ => by
      have whole : documentString text ++ rest =
          '"' :: (text.toList.flatMap documentChar ++ '"' :: rest) := by
        simp [documentString]
      rw [documentChars, whole, contents]
      exact readString_documentString text
  | .number (.integer n), _, fuel + 1, depth, rest, _, ended => by
      rw [documentChars, contents]
      exact readDocument_number (number?_integer n) ended
  | .number (.float x), back, fuel + 1, depth, rest, _, ended => by
      rw [documentChars, contents]
      by_cases finite : x.isFinite = true
      · exact readDocument_number (back finite) ended
      · exact readDocument_notFinite finite
  | .list [], _, fuel + 1, _, _, _, _ => rfl
  | .list (first :: others), back, fuel + 1, depth, rest, enough, _ => by
      rw [documentChars, List.length_cons] at enough
      have read := readItems_contents first others back (depth + 1) rest (by omega : _ < fuel)
      obtain ⟨c, tail, whole, solid, more⟩ := head_itemsChars first others back
      rw [documentChars, List.cons_append, whole, List.cons_append, contents]
      rw [whole, List.cons_append] at read
      exact readDocument_list solid more read
  | .map [], _, fuel + 1, _, _, _, _ => rfl
  | .map (first :: others), back, fuel + 1, depth, rest, enough, _ => by
      rw [documentChars, List.length_cons] at enough
      have read := readEntries_contents first others back (depth + 1) rest (by omega : _ < fuel)
      obtain ⟨tail, whole⟩ := head_entriesChars first others
      rw [documentChars, List.cons_append, whole, List.cons_append, contents]
      rw [whole, List.cons_append] at read
      exact readDocument_map read

theorem readItems_contents : ∀ (first : Value) (others : List Value),
    ItemsReadBack (first :: others) → ∀ {fuel : Nat} (depth : Nat) (rest : List Char),
      2 * (itemsChars (first :: others)).length < fuel →
        readItems fuel depth (itemsChars (first :: others) ++ rest) =
          some (itemContents depth (first :: others), rest)
  | first, [], back, fuel + 1, depth, rest, enough => by
      rw [itemsChars, List.length_append, List.length_singleton] at enough
      have read := readDocument_contents back.1 depth (']' :: rest) (by omega : _ < fuel)
        (.bracket rest)
      rw [itemsChars, List.append_assoc]
      exact readItems_last read
  | first, second :: others, back, fuel + 1, depth, rest, enough => by
      rw [itemsChars_cons, List.length_append, List.length_cons] at enough
      have read := readDocument_contents back.1 depth
        (',' :: (itemsChars (second :: others) ++ rest)) (by omega : _ < fuel) (.comma _)
      have read_others := readItems_contents second others back.2 depth rest (by omega : _ < fuel)
      rw [itemsChars_cons, List.append_assoc, List.cons_append, itemContents]
      exact readItems_cons read read_others

theorem readEntries_contents : ∀ (first : String × Value) (others : List (String × Value)),
    EntriesReadBack (first :: others) → ∀ {fuel : Nat} (depth : Nat) (rest : List Char),
      2 * (entriesChars (first :: others)).length < fuel →
        readEntries fuel depth (entriesChars (first :: others) ++ rest) =
          some (entryContents depth (first :: others), rest)
  | (key, value), [], back, fuel + 1, depth, rest, enough => by
      rw [entriesChars] at enough
      simp only [List.length_append, List.length_cons, List.length_nil] at enough
      have read := readDocument_contents back.1 depth ('\x7d' :: rest) (by omega : _ < fuel)
        (.brace rest)
      have whole : entriesChars [(key, value)] ++ rest =
          documentString key ++ ':' :: (documentChars value ++ '\x7d' :: rest) := by
        simp [entriesChars]
      rw [whole]
      exact readEntries_last read
  | (key, value), second :: others, back, fuel + 1, depth, rest, enough => by
      rw [entriesChars_cons] at enough
      simp only [List.length_append, List.length_cons] at enough
      have read := readDocument_contents back.1 depth
        (',' :: (entriesChars (second :: others) ++ rest)) (by omega : _ < fuel) (.comma _)
      have read_others :=
        readEntries_contents second others back.2 depth rest (by omega : _ < fuel)
      have whole : entriesChars ((key, value) :: second :: others) ++ rest =
          documentString key ++ ':' ::
            (documentChars value ++ ',' :: (entriesChars (second :: others) ++ rest)) := by
        rw [entriesChars_cons]
        simp
      rw [whole, entryContents]
      exact readEntries_cons read read_others

end

mutual

theorem holds_contents : ∀ {v : Value}, v.WellFormed → v.ReadsBack → ∀ depth : Nat,
    Holds depth v.nesting (contents depth v).value? v.documented
  | .null, _, _, depth | .bool _, _, _, depth | .string _, _, _, depth => Holds.scalar depth _
  | .number (.integer n), _, _, depth => by
      rw [contents, value?_numberContents (number?_integer n)]
      exact Holds.scalar depth _
  | .number (.float x), _, back, depth => by
      rw [contents, documented]
      split
      · rename_i finite
        rw [value?_numberContents (back finite)]
        exact Holds.scalar depth _
      · rename_i infinite
        rw [numberContents, Number.documentChars, if_neg infinite]
        exact Holds.scalar depth _
  | .list items, formed, back, depth =>
      Holds.list (holds_itemContents items formed back (depth + 1))
  | .map entries, formed, back, depth => by
      have distinct : Bindings.Distinct (documentedEntries entries) := by
        rw [Bindings.Distinct, names_documentedEntries]
        exact formed.1
      exact Holds.map distinct (holds_entryContents entries formed.2 back (depth + 1))

theorem holds_itemContents : ∀ items : List Value, WellFormedItems items → ItemsReadBack items →
    ∀ depth : Nat, Holds depth (itemNesting items)
      (Document.itemValues? (itemContents depth items)) (documentedItems items)
  | [], _, _, depth => Holds.scalar depth []
  | item :: rest, formed, back, depth => by
      rw [itemContents, itemValues?_cons]
      exact Holds.both List.cons (holds_contents formed.1 back.1 depth)
        (holds_itemContents rest formed.2 back.2 depth)

theorem holds_entryContents : ∀ entries : List (String × Value), WellFormedEntries entries →
    EntriesReadBack entries → ∀ depth : Nat, Holds depth (entryNesting entries)
      (Document.entryValues? (entryContents depth entries)) (documentedEntries entries)
  | [], _, _, depth => Holds.scalar depth []
  | (key, value) :: rest, formed, back, depth => by
      rw [entryContents, entryValues?_cons]
      exact Holds.both (fun value entries => (key, value) :: entries)
        (holds_contents formed.1 back.1 depth) (holds_entryContents rest formed.2 back.2 depth)

end

theorem document?_document {v : Value} (back : v.ReadsBack) :
    document? v.document = some (contents 0 v) := by
  have read := readDocument_contents back 0 []
    (show _ < 2 * v.documentChars.length + 2 by omega) .done
  rw [List.append_nil] at read
  simp only [document?, Value.document, String.toList_ofList, read]
  rfl

/-- What the document of a value is read as. -/
theorem value?_document {v : Value} (formed : v.WellFormed) (back : v.ReadsBack) :
    value? v.document = if v.nesting ≤ depthLimit then some v.documented else none := by
  have held := holds_contents formed back 0
  rw [value?, document?_document back, Option.bind_some]
  split
  · rename_i shallow
    exact held.shallow (by omega)
  · rename_i deep
    exact held.deep (by omega) (by omega)

/-- If the document of a value is read as anything, then as what it says. -/
theorem documented_of_value? {v w : Value} (formed : w.WellFormed) (back : w.ReadsBack)
    (read : value? w.document = some v) : v = w.documented := by
  rw [value?_document formed back] at read
  split at read
  · exact (Option.some.inj read).symm
  · cases read

end Values

end Json

end StagePlan
