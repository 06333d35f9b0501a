import StagePlan.Document
import StagePlan.Number.Decimal

namespace StagePlan.Json

/-!
Numbers of the JSON notation. Whole numbers that fit in a word are exact. All others are doubles,
read quickly rather than to the nearest: of the digits those count that fit in a word, and the double
nearest to them is multiplied or divided by a power of ten, which rounds once more.
-/

/-- The bound of the words in which digits are collected. -/
def wordBound : Nat := Nat.pow 2 64

/-- Appends the digits before the point to a number. From the first one on that does not fit, they
only move the point. -/
def appendWhole (n : Nat) : List Char → Decimal
  | [] => ⟨n, 0⟩
  | c :: rest =>
      let m := 10 * n + (c.toNat - 48)
      if m < wordBound then appendWhole m rest else ⟨n, (rest.length + 1 : Nat)⟩

/-- Appends the digits behind the point, up to the first one that does not fit. -/
def appendFraction (d : Decimal) : List Char → Decimal
  | [] => d
  | c :: rest =>
      let m := 10 * d.digits + (c.toNat - 48)
      if m < wordBound then appendFraction ⟨m, d.exponent - 1⟩ rest else d

/-- The largest power of ten that is a finite double. -/
def largestOrder : Nat := 308

def powerOfTen (order : Nat) : Binary64 :=
  Decimal.toBinary64 false ⟨1, order⟩

/-- A double times a power of ten, unless it leaves the doubles. Small orders of magnitude are
reached in steps; three of them take every double to zero. -/
def scale? : (steps : Nat) → Binary64 → (exponent : Int) → Option Binary64
  | 0, x, _ => some x
  | steps + 1, x, exponent =>
      if exponent.natAbs ≤ largestOrder then
        let power := powerOfTen exponent.natAbs
        if exponent < 0 then some (x.div power)
        else
          let product := x.mul power
          if product.isFinite then some product else none
      else if x.units = 0 then some x
      else if 0 ≤ exponent then none
      else scale? steps (x.div (powerOfTen largestOrder)) (exponent + largestOrder)

/-- The double that digits before and behind the point with an exponent are read as. -/
def readDouble? (negative : Bool) (whole fraction : List Char) (exponent : Int) :
    Option Binary64 :=
  let d := appendFraction (appendWhole 0 whole) fraction
  (scale? 4 (Binary64.ofRatio false d.digits 1) (d.exponent + exponent)).map fun x =>
    if negative then x.neg else x

/-- Whether a whole number fits in 64 bits with or without a sign. -/
def isWord (n : Int) : Bool :=
  decide (-(Nat.pow 2 63 : Int) ≤ n) && decide (n < (wordBound : Int))

def wholeScalar (n : Int) : Scalar :=
  { value? := some (.ofInt n), count? := if 0 ≤ n then some n.toNat else none }

def floatScalar (x? : Option Binary64) : Scalar :=
  { value? := x?.map .float }

/-- A number at the head of a text. Digits alone that fit in a word are a whole number, minus zero
apart. -/
def readNumber (text : List Char) : Option (Document × List Char) :=
  let (negative, unsigned) :=
    match text with
    | '-' :: rest => (true, rest)
    | _ => (false, text)
  let (whole, rest) := Decimal.takeDigits unsigned
  let leadingZero := whole.length > 1 && whole.head? = some '0'
  if whole.isEmpty || leadingZero then none
  else
    let fraction? : Option (List Char × List Char) :=
      match rest with
      | '.' :: rest =>
          let (digits, rest) := Decimal.takeDigits rest
          if digits.isEmpty then none else some (digits, rest)
      | _ => some ([], rest)
    match fraction? with
    | none => none
    | some (fraction, behind) =>
        match Decimal.readExponent? behind with
        | none => none
        | some (exponent, after) =>
            let digits : Nat := Decimal.digitsValue whole
            let n : Int := if negative then -(digits : Int) else digits
            let plain := rest.length == after.length
            if plain && isWord n && !(negative && n == 0) then
              some (.scalar (wholeScalar n), after)
            else
              some (.scalar (floatScalar (readDouble? negative whole fraction exponent)), after)

end StagePlan.Json
