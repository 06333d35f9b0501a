import StagePlan.Value.Basic

namespace StagePlan.Value

/-!
Equality of values. Two equalities compare lists item by item and maps without regard to the order
of their entries; they differ in when two numbers are the same. Whether values are the same tree can
be decided as well.
-/

mutual

/-- Equality of trees over an equality of numbers. -/
def equalsBy (same : Number → Number → Bool) : Value → Value → Bool
  | .null, .null => true
  | .bool a, .bool b => a == b
  | .number m, .number n => same m n
  | .string s, .string t => s == t
  | .list xs, .list ys => equalItems same xs ys
  | .map xs, .map ys => xs.length == ys.length && equalEntries same xs ys
  | _, _ => false

def equalItems (same : Number → Number → Bool) : List Value → List Value → Bool
  | [], [] => true
  | x :: xs, y :: ys => equalsBy same x y && equalItems same xs ys
  | _, _ => false

/-- Whether every entry of the first list has an equal one under its key in the second. -/
def equalEntries (same : Number → Number → Bool) :
    List (String × Value) → List (String × Value) → Bool
  | [], _ => true
  | (key, x) :: xs, ys =>
      (match Bindings.find? key ys with
        | some y => equalsBy same x y
        | none => false) && equalEntries same xs ys

end

/-- Equality that keeps whole numbers and decimals apart. -/
def strictlyEquals : Value → Value → Bool :=
  equalsBy Number.strictlyEquals

/-- Equality that compares numbers by magnitude. -/
def equals : Value → Value → Bool :=
  equalsBy Number.equals

mutual

/-- Whether two trees are the same, entries in the same order. -/
def isSame : Value → Value → Bool
  | .null, .null => true
  | .bool a, .bool b => a == b
  | .number m, .number n => decide (m = n)
  | .string s, .string t => s == t
  | .list xs, .list ys => sameItems xs ys
  | .map xs, .map ys => sameEntries xs ys
  | _, _ => false

def sameItems : List Value → List Value → Bool
  | [], [] => true
  | x :: xs, y :: ys => isSame x y && sameItems xs ys
  | _, _ => false

def sameEntries : List (String × Value) → List (String × Value) → Bool
  | [], [] => true
  | (key, x) :: xs, (other, y) :: ys => key == other && isSame x y && sameEntries xs ys
  | _, _ => false

end

mutual

theorem isSame_iff : ∀ v w : Value, isSame v w = true ↔ v = w
  | .null, w => by cases w <;> simp [isSame]
  | .bool a, w => by cases w <;> simp [isSame]
  | .number m, w => by cases w <;> simp [isSame]
  | .string s, w => by cases w <;> simp [isSame]
  | .list xs, w => by
      cases w with
      | list ys => simp [isSame, sameItems_iff xs ys]
      | _ => simp [isSame]
  | .map xs, w => by
      cases w with
      | map ys => simp [isSame, sameEntries_iff xs ys]
      | _ => simp [isSame]

theorem sameItems_iff : ∀ xs ys : List Value, sameItems xs ys = true ↔ xs = ys
  | [], ys => by cases ys <;> simp [sameItems]
  | x :: xs, [] => by simp [sameItems]
  | x :: xs, y :: ys => by simp [sameItems, isSame_iff x y, sameItems_iff xs ys]

theorem sameEntries_iff : ∀ xs ys : List (String × Value), sameEntries xs ys = true ↔ xs = ys
  | [], ys => by cases ys <;> simp [sameEntries]
  | x :: xs, [] => by simp [sameEntries]
  | (key, x) :: xs, (other, y) :: ys => by
      simp [sameEntries, isSame_iff x y, sameEntries_iff xs ys]

end

instance : DecidableEq Value :=
  fun v w => decidable_of_iff _ (isSame_iff v w)

end StagePlan.Value
