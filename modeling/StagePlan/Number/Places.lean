import StagePlan.Number.Decimal

namespace StagePlan.Decimal

/-!
Numbers with a given count of decimal places or digits, each rounded to the nearest with a half
going to the even neighbour. The texts are those of magnitudes: they have no sign.
-/

/-- Digits with the point before the last `places` of them. -/
def pointBefore (places n : Nat) : List Char :=
  let digits := digitsOf n
  let digits := List.replicate (places + 1 - digits.length) '0' ++ digits
  if places = 0 then digits
  else digits.take (digits.length - places) ++ '.' :: digits.drop (digits.length - places)

/-- A finite number with the given count of decimal places. -/
def withPlaces (x : Binary64) (places : Nat) : List Char :=
  pointBefore places (Binary64.roundQuotient (x.units * Nat.pow 10 places) Binary64.one)

/-- The digits of a finite number, one and `places` more of them, and the power of ten of the first
one. -/
def leadingDigits (x : Binary64) (places : Nat) : Nat × Int :=
  if x.units = 0 then (0, 0)
  else
    let order := decimalOrder x.units Binary64.one - 1
    let shift := (places : Int) - order
    let n :=
      if 0 ≤ shift then Binary64.roundQuotient (x.units * Nat.pow 10 shift.toNat) Binary64.one
      else Binary64.roundQuotient x.units (Binary64.one * Nat.pow 10 (-shift).toNat)
    if places + 1 < digitCount n then (n / 10, order + 1) else (n, order)

/-- An exponent mark with a sign and at least two digits. -/
def exponentText (order : Int) : List Char :=
  let digits := digitsOf order.natAbs
  'e' :: (if order < 0 then '-' else '+') :: List.replicate (2 - digits.length) '0' ++ digits

/-- A finite number as one digit before the point, `places` behind it and an exponent. -/
def scientific (x : Binary64) (places : Nat) : List Char :=
  let (n, order) := leadingDigits x places
  pointBefore places n ++ exponentText order

/-- Drops zeros at the end of a text with a point, and the point if nothing is left behind it. -/
def dropZeros (text : List Char) : List Char :=
  if text.contains '.' then
    let kept := text.reverse.dropWhile (· = '0')
    (if kept.head? = some '.' then kept.drop 1 else kept).reverse
  else text

/-- A finite number with the given count of digits: with an exponent below the fourth decimal place
and from as many digits before the point as there may be, elsewhere without one. Zeros at the end
are left out unless they are to be kept. -/
def withDigits (x : Binary64) (digits : Nat) (keepZeros : Bool) : List Char :=
  let places := digits - 1
  let (n, order) := leadingDigits x places
  let trimmed (text : List Char) : List Char := if keepZeros then text else dropZeros text
  if -4 ≤ order && order ≤ places then trimmed (withPlaces x ((places : Int) - order).toNat)
  else trimmed (pointBefore places n) ++ exponentText order

end StagePlan.Decimal
