import StagePlan.Expression.Fault
import StagePlan.Text.Search
import StagePlan.Value.Written

namespace StagePlan.Expression

/-!
Values during evaluation. They extend the values of documents by the undefined value, whole numbers
of any size, sequences that are not lists, maps with keys of any kind, functions, and objects that
live in the store of an evaluation.
-/

/-- What a sequence was made by. -/
inductive Shape where
  | list
  /-- A pair of a key and its members, which can also be asked for by name. -/
  | grouped
  /-- Items that are produced one after the other, with a number of items known beforehand or not. -/
  | stream (sized : Bool)
  deriving DecidableEq, Inhabited, Repr

/-- A number that points into the store. -/
inductive Handle where
  | record (index : Nat)
  | loop (index : Nat)
  | callable (index : Nat)
  deriving DecidableEq, Inhabited, Repr

/-- What a map stands for. -/
inductive Role where
  | entries
  /-- The named arguments of a call. -/
  | arguments
  /-- What an object can be asked for, where the object is shown by a text of its own. -/
  | view (text : String)
  deriving DecidableEq, Inhabited, Repr

/-- Where a list or map was found. Two of them are the same one if they were found in one place; one
that was just made has not been found anywhere. -/
inductive Identity where
  | fresh
  /-- Under a name of the scope and then at a position in every list or map on the way. -/
  | scope (name : String) (path : List Nat)
  /-- In a value that was bound to a name, the bindings being numbered. -/
  | bound (number : Nat) (path : List Nat)
  | object (handle : Handle)
  deriving DecidableEq, Inhabited, Repr

namespace Identity

def isFresh : Identity → Bool
  | .fresh => true
  | _ => false

/-- The identity of what lies at a position in a list or map. -/
def child (position : Nat) : Identity → Identity
  | .scope name path => .scope name (position :: path)
  | .bound number path => .bound number (position :: path)
  | _ => .fresh

end Identity

inductive Dynamic where
  /-- No value. A silent one counts as false where others cannot be tested. -/
  | undefined (silent : Bool)
  | none
  | bool (b : Bool)
  | int (n : Int)
  | float (x : Binary64)
  /-- A text, and whether it is known to need no escaping. -/
  | string (text : String) (safe : Bool)
  | sequence (shape : Shape) (items : List Dynamic) (identity : Identity)
  | map (role : Role) (entries : List (Dynamic × Dynamic)) (identity : Identity)
  | function (name : String)
  | object (handle : Handle)
  /-- Stands among items for those of a value that cannot have any. -/
  | invalid
  deriving Inhabited

/-- The kinds of values, in the order in which values of different kinds are compared. -/
inductive Kind where
  | undefined | none | bool | number | string | list | map | iterable | plain | invalid
  deriving DecidableEq, Repr

namespace Kind

def rank : Kind → Nat
  | .undefined => 0
  | .none => 1
  | .bool => 2
  | .number => 3
  | .string => 4
  | .list => 5
  | .map => 6
  | .iterable => 7
  | .plain => 8
  | .invalid => 9

end Kind

namespace Dynamic

def text (text : String) : Dynamic := .string text false

def chars (text : List Char) : Dynamic := .string (String.ofList text) false

def list (items : List Dynamic) : Dynamic := .sequence .list items .fresh

def stream (items : List Dynamic) : Dynamic := .sequence (.stream true) items .fresh

/-- Items of which nobody knows beforehand how many there are. -/
def unsized (items : List Dynamic) : Dynamic := .sequence (.stream false) items .fresh

def kind : Dynamic → Kind
  | .undefined _ => .undefined
  | .none => .none
  | .bool _ => .bool
  | .int _ | .float _ => .number
  | .string .. => .string
  | .sequence (.stream _) .. => .iterable
  | .sequence .. => .list
  | .map .. => .map
  | .function _ => .plain
  | .object _ => .map
  | .invalid => .invalid

/-- A value on its own, which may not be invalid. -/
def valid (v : Dynamic) : Except Fault Dynamic :=
  match v with
  | .invalid => .error .operation
  | v => .ok v

def isUndefined : Dynamic → Bool
  | .undefined _ => true
  | _ => false

/-- Whether the value is missing in a way that must not go unnoticed. -/
def isMissing : Dynamic → Bool
  | .undefined silent => !silent
  | _ => false

def isNone : Dynamic → Bool
  | .none => true
  | _ => false

/-- Whether the value is a text that needs no escaping. -/
def isSafe : Dynamic → Bool
  | .string _ safe => safe
  | _ => false

/-- Whether the value holds the named arguments of a call. -/
def isArguments : Dynamic → Bool
  | .map .arguments .. => true
  | _ => false

def string? : Dynamic → Option String
  | .string text _ => some text
  | _ => Option.none

mutual

/-- A document's value as a value of an expression, found at the given place. -/
def ofValueAt (place : Identity) : Value → Dynamic
  | .null => .none
  | .bool b => .bool b
  | .number (.integer n) => .int n.toInt
  | .number (.float x) => .float x
  | .string text => .string text false
  | .list items => .sequence .list (ofItems place 0 items) place
  | .map entries => .map .entries (ofEntries place 0 entries) place

def ofItems (place : Identity) (position : Nat) : List Value → List Dynamic
  | [] => []
  | item :: rest => ofValueAt (place.child position) item :: ofItems place (position + 1) rest

def ofEntries (place : Identity) (position : Nat) :
    List (String × Value) → List (Dynamic × Dynamic)
  | [] => []
  | (key, value) :: rest =>
      (.string key false, ofValueAt (place.child position) value) :: ofEntries place (position + 1) rest

end

/-- A document's value that has just been made. -/
def ofValue (value : Value) : Dynamic :=
  ofValueAt .fresh value

mutual

/-- A value that is found at a place from now on, save for what has been found before. -/
def foundAt (place : Identity) : Dynamic → Dynamic
  | .sequence shape items .fresh => .sequence shape (foundItems place 0 items) place
  | .map role entries .fresh => .map role (foundEntries place 0 entries) place
  | v => v

def foundItems (place : Identity) (position : Nat) : List Dynamic → List Dynamic
  | [] => []
  | item :: rest => foundAt (place.child position) item :: foundItems place (position + 1) rest

def foundEntries (place : Identity) (position : Nat) :
    List (Dynamic × Dynamic) → List (Dynamic × Dynamic)
  | [] => []
  | (key, v) :: rest =>
      (key, foundAt (place.child position) v) :: foundEntries place (position + 1) rest

end

/-- Where a list or map was found. -/
def identity : Dynamic → Identity
  | .sequence _ _ identity | .map _ _ identity => identity
  | .object handle => .object handle
  | _ => .fresh

/-- Nothing, zero, and what is empty count as false. -/
def isTruthy : Dynamic → Bool
  | .undefined _ | .none => false
  | .bool b => b
  | .int n => decide (n ≠ 0)
  | .float x => !x.equals Binary64.zero
  | .string text _ => !text.isEmpty
  | .sequence (.stream false) .. => true
  | .sequence _ items _ => !items.isEmpty
  | .map _ entries _ => !entries.isEmpty
  | .function _ | .object _ => true
  | .invalid => false

/-- The number of characters, items or entries, where it is known. -/
def length? : Dynamic → Option Nat
  | .string text _ => some text.length
  | .sequence (.stream false) .. => Option.none
  | .sequence _ items _ => some items.length
  | .map _ entries _ => some entries.length
  | _ => Option.none

/-- The items of a value one after the other: the characters of a text, the keys of a map. Nothing
has no items, and numbers, booleans and functions cannot be asked. -/
def items? : Dynamic → Option (List Dynamic)
  | .undefined _ | .none => some []
  | .string text _ => some (text.toList.map fun c => .string (String.singleton c) false)
  | .sequence _ items _ => some items
  | .map _ entries _ => some (entries.map (·.1))
  | _ => Option.none

/-- The items of a value that can be taken apart into several. A text stays whole. -/
def parts? : Dynamic → Option (List Dynamic)
  | .string .. => Option.none
  | v => v.items?

/-- The items of a value that has to be there. -/
def iterate (v : Dynamic) : Except Fault (List Dynamic) :=
  if v.isMissing then .error .undefined
  else
    match v.items? with
    | some items => .ok items
    | Option.none => .error .operation

/-- The whole number that a decimal stands for: one of 64 bits, where the decimal just above them
stands for the largest. -/
def wholeOfFloat? (x : Binary64) : Option Int :=
  let largest : Int := Nat.pow 2 63
  if x.isIntegral && decide (-largest ≤ x.truncate) && decide (x.truncate ≤ largest) then
    some (min x.truncate (largest - 1))
  else Option.none

/-- The whole number that a value stands for, if it does. -/
def whole? : Dynamic → Option Int
  | .bool b => some (if b then 1 else 0)
  | .int n => some n
  | .float x => wholeOfFloat? x
  | _ => Option.none

/-- A whole number within bounds. -/
def wholeIn? (low high : Int) (v : Dynamic) : Option Int :=
  v.whole?.filter fun n => decide (low ≤ n) && decide (n ≤ high)

end Dynamic

end StagePlan.Expression
