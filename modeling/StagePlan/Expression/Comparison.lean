import StagePlan.Expression.Shown

namespace StagePlan.Expression

/-!
Equality and order of values. Whole numbers and decimals compare by magnitude, booleans among them
as zero and one; sequences compare item by item whatever made them.
-/

namespace Dynamic

/-- A number as the order knows it: exact if it is whole, or a double. -/
inductive Measure where
  | exact (n : Int)
  | double (x : Binary64)

def measure? : Dynamic → Option Measure
  | .bool b => some (.exact (if b then 1 else 0))
  | .int n => some (.exact n)
  | .float x => some (.double x)
  | _ => Option.none

/-- The double that is exactly a whole number. -/
def exactDouble? (n : Int) : Option Binary64 :=
  let x := Binary64.ofInt n
  if x.isFinite && x.truncate = n then some x else Option.none

namespace Measure

def equals : Measure → Measure → Bool
  | .exact m, .exact n => decide (m = n)
  | .double x, .double y => x.equals y
  | .exact n, .double x | .double x, .exact n =>
      match exactDouble? n with
      | some y => x.equals y
      | Option.none => false

/-- Compares a whole number with a double, which need not be finite. -/
def compareExact (n : Int) (x : Binary64) : Ordering :=
  if x.isFinite then Ord.compare (n * Binary64.one) x.signedUnits
  else if x.isNegative then .gt
  else .lt

def compare : Measure → Measure → Ordering
  | .exact m, .exact n => Ord.compare m n
  | .double x, .double y => if x.equals y then .eq else Ord.compare x.orderKey y.orderKey
  | .exact n, .double x => compareExact n x
  | .double x, .exact n => (compareExact n x).swap

end Measure

/-- Whether two values may be the same key among several: a boolean is never the same key as a
number there. -/
def mayShareKey (a b : Dynamic) : Bool :=
  decide (a.kind = .bool) == decide (b.kind = .bool)

/-- Whether there is one entry and no more. -/
def isSingle {α : Type} : List α → Bool
  | [_] => true
  | _ => false

def measureEquals (m : Measure) (b : Dynamic) : Bool :=
  match b.measure? with
  | some other => m.equals other
  | Option.none => false

/-- Whether two lists or maps were found in one place, and so are one and the same. -/
def foundTogether (a b : Identity) : Bool :=
  !a.isFresh && decide (a = b)

mutual

def equals : Dynamic → Dynamic → Bool
  | .undefined _, b => b.isUndefined
  | .none, b => b.isNone
  | .bool x, b => measureEquals (.exact (if x then 1 else 0)) b
  | .int n, b => measureEquals (.exact n) b
  | .float x, b => measureEquals (.double x) b
  | .string text _, b => b.string? = some text
  | .sequence _ items identity, b =>
      match b with
      | .sequence _ others other => foundTogether identity other || itemsEqual items others
      | _ => false
  | .map _ entries identity, b =>
      match b with
      | .map _ others other =>
          foundTogether identity other
            || (decide (entries.length = others.length) && entriesWithin entries others)
      | _ => false
  | .function name, b =>
      match b with
      | .function other => name = other
      | _ => false
  | .object handle, b =>
      match b with
      | .object other => handle = other
      | _ => false
  | .invalid, _ => false

def itemsEqual : List Dynamic → List Dynamic → Bool
  | [], others => others.isEmpty
  | a :: items, others =>
      match others with
      | [] => false
      | b :: others => equals a b && itemsEqual items others

/-- Whether every entry of a map has an equal one under the same key of another. -/
def entriesWithin : List (Dynamic × Dynamic) → List (Dynamic × Dynamic) → Bool
  | [], _ => true
  | (key, value) :: rest, others =>
      (others.any fun other =>
        (isSingle others || mayShareKey key other.1) && equals key other.1 && equals value other.2)
        && entriesWithin rest others

end

/-- Whether two values are the same key of a map with several entries. -/
def sameKey (a b : Dynamic) : Bool :=
  mayShareKey a b && equals a b

/-- The value of a map under a key. The key of a single entry only has to be equal. -/
def lookup? {α : Type} (key : Dynamic) (entries : List (Dynamic × α)) : Option α :=
  let found? :=
    if isSingle entries then entries.find? fun entry => equals entry.1 key
    else entries.find? fun entry => sameKey entry.1 key
  found?.map (·.2)

/-- Puts an entry into a map, in the place of one with the same key if there is one. -/
def insertEntry (key value : Dynamic) : List (Dynamic × Dynamic) → List (Dynamic × Dynamic)
  | [] => [(key, value)]
  | (other, old) :: rest =>
      if sameKey other key then (other, value) :: rest
      else (other, old) :: insertEntry key value rest

/-- A map of the given pairs; of two with the same key the last value counts. -/
def mapOf (pairs : List (Dynamic × Dynamic)) : Dynamic :=
  .map .entries (pairs.foldl (fun entries pair => insertEntry pair.1 pair.2 entries) []) .fresh

def measureOf (v : Dynamic) : Measure :=
  v.measure?.getD (.exact 0)

/-- Decides by the kinds of two values, and by `same` where they are of one kind. -/
def byKind (a b : Kind) (same : Ordering) : Ordering :=
  (Ord.compare a.rank b.rank).then same

mutual

/-- The order of all values. Values of different kinds stand in the order of their kinds. -/
def compare : Dynamic → Dynamic → Ordering
  | .undefined _, b => byKind .undefined b.kind .eq
  | .none, b => byKind .none b.kind .eq
  | .bool x, b => byKind .bool b.kind ((Measure.exact (if x then 1 else 0)).compare b.measureOf)
  | .int n, b => byKind .number b.kind ((Measure.exact n).compare b.measureOf)
  | .float x, b => byKind .number b.kind ((Measure.double x).compare b.measureOf)
  | .string text _, b => byKind .string b.kind (Ord.compare text (b.string?.getD ""))
  | .sequence shape items _, b =>
      byKind (Dynamic.kind (.sequence shape [] .fresh)) b.kind <|
        match b with
        | .sequence _ others _ => compareItems items others
        | _ => .eq
  | .map _ entries _, b =>
      byKind .map b.kind <|
        match b with
        | .map _ others _ => compareEntries entries others
        | _ => .eq
  | .function name, b =>
      byKind .plain b.kind <|
        match b with
        | .function other => Ord.compare name other
        | _ => .eq
  | .object _, b => byKind .map b.kind .eq
  | .invalid, b => byKind .invalid b.kind .eq

def compareItems : List Dynamic → List Dynamic → Ordering
  | [], [] => .eq
  | [], _ :: _ => .lt
  | a :: items, others =>
      match others with
      | [] => .gt
      | b :: others => (compare a b).then (compareItems items others)

def compareEntries : List (Dynamic × Dynamic) → List (Dynamic × Dynamic) → Ordering
  | [], [] => .eq
  | [], _ :: _ => .lt
  | (key, value) :: rest, others =>
      match others with
      | [] => .gt
      | (otherKey, otherValue) :: others =>
          (compare key otherKey).then
            ((compare value otherValue).then (compareEntries rest others))

end

end Dynamic

end StagePlan.Expression
