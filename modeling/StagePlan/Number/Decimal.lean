import StagePlan.Number.Binary64

namespace StagePlan

/-!
Decimal fractions. A `Decimal` is digits times a power of ten. Reading rounds one to the nearest
double; writing chooses the fewest digits that read back, the nearest of those, and lays them out
as a `Decimal.Layout` says.
-/

/-- The number `digits * 10 ^ exponent`. -/
structure Decimal where
  digits : Nat
  exponent : Int
  deriving DecidableEq

namespace Decimal

/-- The decimal digits of a number; zero has one. -/
def digitsOf (n : Nat) : List Char :=
  Nat.toDigits 10 n

def digitCount (n : Nat) : Nat :=
  (digitsOf n).length

/-- The double nearest to a decimal fraction. Orders of magnitude that no double reaches are
decided without computing the power of ten. -/
def toBinary64 (negative : Bool) (d : Decimal) : Binary64 :=
  let order : Int := digitCount d.digits + d.exponent
  if d.digits = 0 then Binary64.ofMagnitude negative 0
  else if 400 < order then Binary64.infinity negative
  else if order < -400 then Binary64.ofMagnitude negative 0
  else if 0 ≤ d.exponent then Binary64.ofRatio negative (d.digits * Nat.pow 10 d.exponent.toNat) 1
  else Binary64.ofRatio negative d.digits (Nat.pow 10 (-d.exponent).toNat)

/-- The number of decimal places before the point of a positive quotient, zero or negative when
the quotient is below one. -/
def decimalOrder (num den : Nat) : Int :=
  if den ≤ num then digitCount (num / den) else 1 - (digitCount ((den - 1) / num) : Int)

/-- The multiple of `10 ^ exponent` next to a number of units, if one of its two neighbours on
that grid reads back as `x`: the nearer one, and of two equally near ones the even one. -/
def onGrid? (x : Binary64) (exponent : Int) : Option Decimal :=
  let num := if 0 ≤ exponent then x.units else x.units * Nat.pow 10 (-exponent).toNat
  let den := if 0 ≤ exponent then Binary64.one * Nat.pow 10 exponent.toNat else Binary64.one
  let low := num / den
  let twice := 2 * (num % den)
  let readsBack (n : Nat) : Bool :=
    decide ((toBinary64 false ⟨n, exponent⟩).magnitude = x.magnitude)
  let preferLow := decide (twice < den) || (decide (twice = den) && decide (low % 2 = 0))
  match readsBack low, readsBack (low + 1) with
  | true, true => some ⟨if preferLow then low else low + 1, exponent⟩
  | true, false => some ⟨low, exponent⟩
  | false, true => some ⟨low + 1, exponent⟩
  | false, false => none

/-- Moves trailing zeros of the digits into the exponent. -/
def normalize (fuel : Nat) (d : Decimal) : Decimal :=
  match fuel with
  | 0 => d
  | fuel + 1 =>
      if d.digits ≠ 0 ∧ d.digits % 10 = 0 then normalize fuel ⟨d.digits / 10, d.exponent + 1⟩ else d

/-- The decimal fraction that a finite number is, in full. -/
def exact (x : Binary64) : Decimal :=
  ⟨x.units * Nat.pow 5 1074, -1074⟩

/-- The decimal fraction with the fewest digits that reads back as the finite, positive `x`. -/
def shortest (x : Binary64) : Decimal :=
  let order := decimalOrder x.units Binary64.one
  let found := (List.range 17).findSome? fun (count : Nat) => onGrid? x (order - count - 1)
  let d := found.getD (exact x)
  normalize (digitCount d.digits) d

/-- How decimal fractions are laid out. `positional` says for which powers of ten of the leading
digit the point is written in its place; elsewhere an exponent follows the digits, with
`exponentPlus` before one that is not negative. -/
structure Layout where
  positional : Int → Bool
  exponentPlus : String

/-- Digits with the point in its place, given the power of ten of the leading digit. A whole
number keeps one zero behind the point. -/
def placePoint (digits : List Char) (order : Int) : List Char :=
  if order < 0 then
    '0' :: '.' :: List.replicate (-order - 1).toNat '0' ++ digits
  else
    let whole := order.toNat + 1
    if digits.length ≤ whole then
      digits ++ List.replicate (whole - digits.length) '0' ++ ['.', '0']
    else digits.take whole ++ '.' :: digits.drop whole

/-- Digits in the form with an exponent. -/
def withExponent (plus : String) (digits : List Char) (order : Int) : List Char :=
  let mantissa :=
    match digits with
    | [] => []
    | [d] => [d]
    | d :: rest => d :: '.' :: rest
  let sign := if order < 0 then ['-'] else plus.toList
  mantissa ++ 'e' :: sign ++ digitsOf order.natAbs

/-- The text of a finite number. -/
def Layout.text (layout : Layout) (x : Binary64) : String :=
  let sign := if x.isNegative then ['-'] else []
  if x.units = 0 then String.ofList (sign ++ ['0', '.', '0'])
  else
    let d := shortest x
    let digits := digitsOf d.digits
    let order : Int := d.exponent + digits.length - 1
    String.ofList <| sign ++
      if layout.positional order then placePoint digits order
      else withExponent layout.exponentPlus digits order

/-- The exponent form from 10^16 on and below 10^-5, with a plus sign. -/
def documentLayout : Layout := ⟨fun order => decide (-5 ≤ order) && decide (order < 16), "+"⟩

/-- The exponent form from 10^16 on and below 10^-4, without a plus sign. -/
def inspectionLayout : Layout := ⟨fun order => decide (-4 ≤ order) && decide (order < 16), ""⟩

/-- The point always in its place. -/
def plainLayout : Layout := ⟨fun _ => true, ""⟩

end Decimal

/-- The words for the numbers that are not finite. -/
def Binary64.specialText (x : Binary64) : String :=
  if x.isNaN then "NaN" else if x.isNegative then "-inf" else "inf"

def Decimal.Layout.anyText (layout : Decimal.Layout) (x : Binary64) : String :=
  if x.isFinite then layout.text x else x.specialText

namespace Decimal

/-- The value of a run of decimal digits. -/
def digitsValue (digits : List Char) : Nat :=
  digits.foldl (fun n c => 10 * n + (c.toNat - 48)) 0

/-- A run of digits, and what follows it. -/
def takeDigits (text : List Char) : List Char × List Char :=
  text.span Char.isDigit

/-- An exponent mark with its signed digits; nothing at all is the exponent zero. -/
def readExponent? (text : List Char) : Option (Int × List Char) :=
  match text with
  | c :: rest =>
      if c = 'e' || c = 'E' then
        let (negative, rest) :=
          match rest with
          | '-' :: rest => (true, rest)
          | '+' :: rest => (false, rest)
          | _ => (false, rest)
        let (digits, rest) := takeDigits rest
        if digits.isEmpty then none
        else
          let n : Int := digitsValue digits
          some (if negative then -n else n, rest)
      else some (0, text)
  | [] => some (0, [])

/-- A decimal fraction with optional parts: digits on at least one side of the point, then an
optional exponent, and nothing after it. -/
def ofChars? (text : List Char) : Option Decimal :=
  let (whole, rest) := takeDigits text
  let (fraction, rest) :=
    match rest with
    | '.' :: rest => takeDigits rest
    | _ => ([], rest)
  if whole.isEmpty && fraction.isEmpty then none
  else
    match readExponent? rest with
    | some (exponent, []) => some ⟨digitsValue (whole ++ fraction), exponent - fraction.length⟩
    | _ => none

end Decimal

/-- Splits off a sign: whether it was a minus, and what follows. -/
def splitSign (text : List Char) : Bool × List Char :=
  match text with
  | '-' :: rest => (true, rest)
  | '+' :: rest => (false, rest)
  | _ => (false, text)

/-- Reads a number written with an optional sign as decimal digits with optional point and
exponent, or as one of the words for infinity and NaN in any case of letters. -/
def Binary64.ofChars? (text : List Char) : Option Binary64 :=
  let (negative, rest) := splitSign text
  let word := String.ofList (rest.map Char.toLower)
  if word = "inf" || word = "infinity" then some (Binary64.infinity negative)
  else if word = "nan" then some Binary64.nan
  else (Decimal.ofChars? rest).map (Decimal.toBinary64 negative)

/-- Reads a whole number written in decimal digits with an optional sign. -/
def wholeOfChars? (text : List Char) : Option Int :=
  let (negative, digits) := splitSign text
  if digits.isEmpty || !digits.all Char.isDigit then none
  else
    let n : Int := Decimal.digitsValue digits
    some (if negative then -n else n)

end StagePlan
