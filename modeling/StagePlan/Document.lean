import StagePlan.Value.Basic

namespace StagePlan

/-!
Documents: what a text in one of the notations holds, before it is known what is wanted of it. A
scalar carries everything that it can be read as, so a number without quotes may serve as a text in
one notation and not in the other. `Document.value?` reads a value; records, options and lists of
the models are read by the functions after it.
-/

/-- What a scalar can be read as. A scalar for which nothing is present cannot be read at all, but
may stand where nobody looks. -/
structure Scalar where
  text? : Option String := none
  bool? : Option Bool := none
  count? : Option Nat := none
  value? : Option Value := none
  /-- It may stand for a thing that was left out. -/
  absent : Bool := false
  /-- It says that a thing was left out, in words that do not. -/
  contradicts : Bool := false
  /-- It may stand for a list or record without anything in it. -/
  empty : Bool := false

inductive Document where
  | scalar (content : Scalar)
  /-- `positional` lists may stand for a record, one item for each field in order. -/
  | list (positional : Bool) (items : List Document)
  /-- With `choices`, an entry with nothing under it may stand for the name of its key. -/
  | map (choices : Bool) (entries : List (Document × Document))
  /-- A list or map with a name for what it is. It holds no value, but serves where a list, map or
  record is wanted. -/
  | named (content : Document)

namespace Document

def unreadable : Document :=
  .scalar {}

/-- A list or map without a name for what it is. -/
def bare : Document → Document
  | .named content => bare content
  | d => d

def text? : Document → Option String
  | .scalar s => s.text?
  | _ => none

def bool? : Document → Option Bool
  | .scalar s => s.bool?
  | _ => none

def count? : Document → Option Nat
  | .scalar s => s.count?
  | _ => none

mutual

/-- The value that a document holds. Of two entries with one key the last counts, at the place of
the first. -/
def value? : Document → Option Value
  | .scalar s => s.value?
  | .list _ items => (itemValues? items).map .list
  | .map _ entries => (entryValues? entries).map fun pairs => .map (Bindings.ofPairs pairs)
  | .named _ => none

def itemValues? : List Document → Option (List Value)
  | [] => some []
  | item :: rest =>
      match value? item, itemValues? rest with
      | some value, some values => some (value :: values)
      | _, _ => none

def entryValues? : List (Document × Document) → Option (List (String × Value))
  | [] => some []
  | (key, item) :: rest =>
      match value? key, value? item, entryValues? rest with
      | some (.string name), some value, some values => some ((name, value) :: values)
      | _, _, _ => none

end

/-- A thing that may be left out. -/
def option? {α : Type} (read : Document → Option α) : Document → Option (Option α)
  | .scalar s =>
      if s.absent then some none
      else if s.contradicts then none
      else (read (.scalar s)).map some
  | d => (read d).map some

/-- A list whose items are read alike. -/
def list? {α : Type} (read : Document → Option α) (d : Document) : Option (List α) :=
  match d.bare with
  | .scalar s => if s.empty then some [] else none
  | .list _ items => items.mapM read
  | _ => none

/-- A map from names to values; a name may be any scalar that has a text. -/
def bindings? (d : Document) : Option (Bindings Value) :=
  match d.bare with
  | .scalar s => if s.empty then some [] else none
  | .map _ entries =>
      (entries.mapM fun (entry : Document × Document) => do
        let name ← entry.1.text?
        let value ← entry.2.value?
        pure (name, value)).map Bindings.ofPairs
  | _ => none

/-- One text or a list of them, or nothing. The texts must be strings in the notation. -/
def oneOrMany? : Document → Option (List String)
  | d => do
      match ← option? value? d with
      | none => pure []
      | some (.string text) => pure [text]
      | some (.list items) => items.mapM Value.string?
      | some _ => none

/-- A name out of a fixed list. -/
def choice? : Document → Option String
  | .scalar s => s.text?
  | .map true [(key, .scalar s)] => if s.absent then key.text? else none
  | _ => none

/-- The fields of a record that are present, with their documents. -/
abbrev Fields := List (String × Document)

/-- Collects the known fields of a record. A known field may come once; others are passed over. -/
def collectFields (known : List String) : Fields → List (Document × Document) → Option Fields
  | found, [] => some found
  | found, (key, item) :: rest => do
      let name ← key.text?
      if known.contains name then
        if found.any fun field => field.1 = name then none
        else collectFields known ((name, item) :: found) rest
      else collectFields known found rest

/-- The fields of a document that stands for a record with the given field names. -/
def fields? (known : List String) (d : Document) : Option Fields :=
  match d.bare with
  | .scalar s => if s.empty then some [] else none
  | .list positional items =>
      if positional && items.length ≤ known.length then some (known.zip items) else none
  | .map _ entries => collectFields known [] entries
  | .named _ => none

namespace Fields

/-- A field that must be present. -/
def required? {α : Type} (fields : Fields) (name : String) (read : Document → Option α) :
    Option α :=
  (fields.lookup name).bind read

/-- A field that stands for `otherwise` when it is not present. -/
def optional? {α : Type} (fields : Fields) (name : String) (otherwise : α)
    (read : Document → Option α) : Option α :=
  match fields.lookup name with
  | some d => read d
  | none => some otherwise

end Fields

end Document

end StagePlan
