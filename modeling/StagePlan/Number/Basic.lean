import StagePlan.Number.Decimal

namespace StagePlan

/-!
Numbers that remember how they were written: as a whole number of 64 bits or as a decimal.
-/

inductive Number where
  | integer (value : Int64)
  | float (value : Binary64)
  deriving DecidableEq, Inhabited

/-- Whether a whole number fits in 64 bits with a sign. -/
def fitsInt64 (n : Int) : Bool :=
  decide (-(Nat.pow 2 63 : Int) ≤ n) && decide (n < (Nat.pow 2 63 : Int))

namespace Number

/-- A whole number, kept whole where it fits and rounded to a double where it does not. -/
def ofInt (n : Int) : Number :=
  if fitsInt64 n then .integer (Int64.ofInt n) else .float (Binary64.ofInt n)

theorem ofInt_toInt (n : Int64) : ofInt n.toInt = .integer n := by
  have fits : fitsInt64 n.toInt = true := by
    simp only [fitsInt64, Bool.and_eq_true, decide_eq_true_eq]
    exact ⟨n.le_toInt, n.toInt_lt⟩
  rw [ofInt, if_pos fits, Int64.ofInt_toInt]

def toBinary64 : Number → Binary64
  | .integer n => Binary64.ofInt n.toInt
  | .float x => x

/-- Whether the number has no fractional part. -/
def isIntegral : Number → Bool
  | .integer _ => true
  | .float x => x.isIntegral

/-- Equality as written: whole numbers and decimals are never equal to each other. -/
def strictlyEquals : Number → Number → Bool
  | .integer m, .integer n => decide (m = n)
  | .float x, .float y => x.equals y
  | _, _ => false

/-- Equality by magnitude. Two whole numbers compare exactly, any other two as doubles. -/
def equals : Number → Number → Bool
  | .integer m, .integer n => decide (m = n)
  | m, n => m.toBinary64.equals n.toBinary64

end Number

end StagePlan
