import StagePlan.Expression.Comparison
import StagePlan.Json.Number

namespace StagePlan.Expression.Dynamic

/-!
From the values of an evaluation back to the values of documents. What a document's value becomes
in an evaluation converts back to that value.
-/

/-- A number in the tree of a JSON document: whole if it fits in a word, and finite. -/
inductive TreeNumber where
  | whole (n : Int)
  | decimal (x : Binary64)

/-- The whole number of 64 bits with a sign that a number of a tree is. A decimal is none, even
without a fractional part. -/
def TreeNumber.int64? : TreeNumber → Option Int64
  | .whole n => if fitsInt64 n then some (Int64.ofInt n) else Option.none
  | .decimal _ => Option.none

/-- The number that stands for a value in a tree. A decimal that is not finite has none, and a whole
number beyond the words cannot be written. -/
def treeNumber? : Dynamic → Option TreeNumber
  | .int n => if Json.isWord n then some (.whole n) else Option.none
  | .float x => if x.isFinite then some (.decimal x) else Option.none
  | _ => Option.none

/-- The double nearest to a number. -/
def toDouble : Dynamic → Except Fault Binary64
  | .int n => .ok (Binary64.ofInt n)
  | .float x => .ok x
  | _ => .error .operation

/-- The number of a document that a value stands for. A tree decides whether it is whole; all other
numbers are decimals. -/
def toNumber (v : Dynamic) : Except Fault Number :=
  match v.treeNumber?.bind TreeNumber.int64? with
  | some n => .ok (.integer n)
  | Option.none => v.toDouble.map .float

/-- Whether the value is one with itself as a key whatever it holds. -/
def isOneKey : Dynamic → Bool
  | .sequence .. | .map .. => true
  | _ => false

/-- What is found in a map under the key of one of its entries. A decimal need not be the same key
as itself. -/
def ownValue? {α : Type} (entries : List (Dynamic × α)) (entry : Dynamic × α) : Option α :=
  (lookup? entry.1 entries).or (if entry.1.isOneKey then some entry.2 else Option.none)

/-- Binds the text of a key to what is found under it, which is undefined if nothing is. -/
def rebind (entries : List (Dynamic × Except Fault Value)) (built : Bindings Value)
    (entry : Dynamic × Except Fault Value) : Except Fault (Bindings Value) :=
  match (ownValue? entries entry).getD (.error .undefined) with
  | .ok value => .ok (built.bind entry.1.shown value)
  | .error fault => .error fault

/-- Builds a map again, one key after the other. -/
def rebuild (entries : List (Dynamic × Except Fault Value)) : Except Fault (Bindings Value) :=
  entries.foldlM (rebind entries) []

mutual

/-- The document's value that a value stands for. Undefined values, streams and functions have
none; a whole number beyond 64 bits becomes a decimal. -/
def toValue : Dynamic → Except Fault Value
  | .undefined _ => .error .undefined
  | .none => .ok .null
  | .bool b => .ok (.bool b)
  | .int n => (toNumber (.int n)).map .number
  | .float x => (toNumber (.float x)).map .number
  | .string text _ => .ok (.string text)
  | .sequence shape items _ =>
      match shape with
      | .stream _ => .error (.unusable "Iterable")
      | _ =>
          match toValues items with
          | .ok values => .ok (.list values)
          | .error fault => .error fault
  | .map _ entries _ => (rebuild (toEntries entries)).map .map
  | .function _ | .object _ => .error (.unusable "Plain")
  | .invalid => .error (.unusable "Invalid")

def toValues : List Dynamic → Except Fault (List Value)
  | [] => .ok []
  | item :: rest =>
      match toValue item with
      | .error fault => .error fault
      | .ok value =>
          match toValues rest with
          | .error fault => .error fault
          | .ok values => .ok (value :: values)

/-- The entries of a map, each key with what converting its value gives. -/
def toEntries : List (Dynamic × Dynamic) → List (Dynamic × Except Fault Value)
  | [] => []
  | (key, item) :: rest => (key, toValue item) :: toEntries rest

end

end StagePlan.Expression.Dynamic
