namespace StagePlan

/-!
Double precision numbers as 64-bit words, with all arithmetic on exact integers. Every finite word
is a whole number of units of 2^-1074, so comparison is comparison of integers, and each rounded
operation is one call of `Binary64.ofRatio`.
-/

/-- A double: sign bit, eleven bits of exponent, 52 bits of fraction. -/
structure Binary64 where
  bits : UInt64
  deriving DecidableEq, Inhabited

namespace Binary64

/-- How many units make one. -/
def one : Nat := Nat.pow 2 1074

/-- The magnitude bits of the infinities. -/
def infinityBits : Nat := 2047 * Nat.pow 2 52

def isNegative (x : Binary64) : Bool :=
  decide (Nat.pow 2 63 ≤ x.bits.toNat)

/-- The word without its sign. Finite magnitudes are ordered as the numbers are. -/
def magnitude (x : Binary64) : Nat :=
  x.bits.toNat % Nat.pow 2 63

def isFinite (x : Binary64) : Bool :=
  decide (x.magnitude < infinityBits)

def isInfinite (x : Binary64) : Bool :=
  decide (x.magnitude = infinityBits)

def isNaN (x : Binary64) : Bool :=
  decide (infinityBits < x.magnitude)

/-- The distance from zero of a finite number, in units. -/
def units (x : Binary64) : Nat :=
  let exponent := x.magnitude / Nat.pow 2 52
  let fraction := x.magnitude % Nat.pow 2 52
  if exponent = 0 then fraction else (fraction + Nat.pow 2 52) * Nat.pow 2 (exponent - 1)

/-- The value of a finite number, in units. -/
def signedUnits (x : Binary64) : Int :=
  if x.isNegative then -(x.units : Int) else x.units

/-- The word with the given sign and magnitude. -/
def ofMagnitude (negative : Bool) (magnitude : Nat) : Binary64 :=
  ⟨UInt64.ofNat (magnitude % Nat.pow 2 63 + if negative then Nat.pow 2 63 else 0)⟩

def zero : Binary64 := ofMagnitude false 0

def infinity (negative : Bool) : Binary64 := ofMagnitude negative infinityBits

def nan : Binary64 := ofMagnitude false (infinityBits + Nat.pow 2 51)

/-- The whole number nearest to a quotient; a half goes to the even neighbour. -/
def roundQuotient (num den : Nat) : Nat :=
  let low := num / den
  let twice := 2 * (num % den)
  if twice < den then low
  else if den < twice then low + 1
  else if low % 2 = 0 then low else low + 1

/-- The exponent of the largest power of two that is not above a positive quotient. -/
def binaryOrder (num den : Nat) : Int :=
  let guess : Int := (num.log2 : Int) - den.log2
  let fits := if 0 ≤ guess then den * Nat.pow 2 guess.toNat ≤ num else den ≤ num * Nat.pow 2 (-guess).toNat
  if fits then guess else guess - 1

/-- The double nearest to `num / den`, ties to even, with the given sign. Too large a quotient
becomes an infinity and too small a one a zero. -/
def ofRatio (negative : Bool) (num den : Nat) : Binary64 :=
  if num = 0 then ofMagnitude negative 0
  else
    let scale : Int := max (-1074) (binaryOrder num den - 52)
    let rounded :=
      if 0 ≤ scale then roundQuotient num (den * Nat.pow 2 scale.toNat)
      else roundQuotient (num * Nat.pow 2 (-scale).toNat) den
    ofMagnitude negative (min infinityBits ((scale + 1074).toNat * Nat.pow 2 52 + rounded))

/-- The double nearest to a whole number. -/
def ofInt (n : Int) : Binary64 :=
  ofRatio (decide (n < 0)) n.natAbs 1

/-- The double nearest to a number of units. A sum of nothing keeps the sign it is given. -/
def ofUnits (zeroSign : Bool) (n : Int) : Binary64 :=
  if n = 0 then ofMagnitude zeroSign 0 else ofRatio (decide (n < 0)) n.natAbs one

/-- The whole number next to a finite one in the direction of zero. -/
def truncate (x : Binary64) : Int :=
  let n : Int := (x.units / one : Nat)
  if x.isNegative then -n else n

/-- Whether a number is finite and has no fractional part. -/
def isIntegral (x : Binary64) : Bool :=
  x.isFinite && decide (x.units % one = 0)

/-- Equality of numbers: the zeros are equal and a NaN equals nothing. -/
def equals (x y : Binary64) : Bool :=
  !x.isNaN && !y.isNaN &&
    (decide (x.bits = y.bits) || (decide (x.magnitude = 0) && decide (y.magnitude = 0)))

/-- A key whose integer order puts every word in its place: the negative ones first, from the
largest magnitude to the smallest, then the positive ones. -/
def orderKey (x : Binary64) : Int :=
  if x.isNegative then -(x.magnitude : Int) - 1 else x.magnitude

/-- Whether one finite number is below another; the zeros are not below each other. -/
def below (x y : Binary64) : Bool :=
  decide (x.signedUnits < y.signedUnits)

def neg (x : Binary64) : Binary64 :=
  ofMagnitude (!x.isNegative) x.magnitude

def abs (x : Binary64) : Binary64 :=
  ofMagnitude false x.magnitude

def add (x y : Binary64) : Binary64 :=
  if x.isNaN || y.isNaN then nan
  else if x.isInfinite then
    if y.isInfinite && x.isNegative != y.isNegative then nan else x
  else if y.isInfinite then y
  else ofUnits (x.isNegative && y.isNegative) (x.signedUnits + y.signedUnits)

def sub (x y : Binary64) : Binary64 :=
  if y.isNaN then nan else add x y.neg

def mul (x y : Binary64) : Binary64 :=
  let negative := x.isNegative != y.isNegative
  if x.isNaN || y.isNaN then nan
  else if x.isInfinite || y.isInfinite then
    if x.magnitude = 0 || y.magnitude = 0 then nan else infinity negative
  else ofRatio negative (x.units * y.units) (one * one)

def div (x y : Binary64) : Binary64 :=
  let negative := x.isNegative != y.isNegative
  if x.isNaN || y.isNaN then nan
  else if x.isInfinite then if y.isInfinite then nan else infinity negative
  else if y.isInfinite then ofMagnitude negative 0
  else if y.units = 0 then if x.units = 0 then nan else infinity negative
  else ofRatio negative x.units y.units

/-- What is left of `x` after taking away `y` as often as it fits; the sign is that of `x`. -/
def remainder (x y : Binary64) : Binary64 :=
  if x.isNaN || y.isNaN || x.isInfinite || y.units = 0 then nan
  else if y.isInfinite then x
  else
    let rest : Int := (x.units % y.units : Nat)
    ofUnits x.isNegative (if x.isNegative then -rest else rest)

/-- The number without its fractional part. -/
def truncated (x : Binary64) : Binary64 :=
  if x.isFinite then ofUnits x.isNegative (x.truncate * one) else x

/-- The whole quotient that leaves a remainder from zero to the magnitude of `y`. -/
def euclideanQuotient (x y : Binary64) : Binary64 :=
  let quotient := (div x y).truncated
  let rest := remainder x y
  if !rest.isNaN && below rest zero then
    if y.isNegative then add quotient (ofInt 1) else sub quotient (ofInt 1)
  else quotient

/-- The nearest whole number, a half going away from zero. -/
def roundedHalfAway (x : Binary64) : Binary64 :=
  if x.isFinite then
    let n : Int := ((2 * x.units + one) / (2 * one) : Nat)
    ofUnits x.isNegative ((if x.isNegative then -n else n) * one)
  else x

/-- A power with a whole exponent of at least zero, by repeated squaring. -/
def powerNat (fuel : Nat) (result base : Binary64) (exponent : Nat) : Binary64 :=
  match fuel with
  | 0 => result
  | fuel + 1 =>
      let result := if exponent % 2 = 1 then mul result base else result
      let exponent := exponent / 2
      if exponent = 0 then result else powerNat fuel result (mul base base) exponent

/-- A power with a whole exponent; a negative one takes the reciprocal at the end. -/
def powerInt (base : Binary64) (exponent : Int) : Binary64 :=
  let power := powerNat (exponent.natAbs + 1) (ofInt 1) base exponent.natAbs
  if exponent < 0 then div (ofInt 1) power else power

def toFloat (x : Binary64) : Float :=
  Float.ofBits x.bits

def ofFloat (x : Float) : Binary64 :=
  ⟨x.toBits⟩

/-- A power with any exponent, rounded as the machine does. -/
def power (base exponent : Binary64) : Binary64 :=
  ofFloat (Float.pow base.toFloat exponent.toFloat)

end Binary64

end StagePlan
