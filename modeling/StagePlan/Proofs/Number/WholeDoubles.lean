import Mathlib.Algebra.Order.Field.Rat
import Mathlib.Algebra.Order.Ring.Cast
import Mathlib.Data.List.TakeDrop
import Mathlib.Data.List.TakeWhile
import StagePlan.Number.Basic

namespace StagePlan.Binary64

/-!
What a finite double is as a number, and the doubles of whole numbers: rounding keeps them whole, those
of 64 bits are finite, those beyond the largest double are infinite, and the text of a whole number is
read as its double.
-/

/-- The number that a finite double is. -/
def value (x : Binary64) : ℚ := x.signedUnits / (one : ℚ)

theorem one_eq : one = Nat.pow 2 1074 := by decide +kernel

theorem one_pos : 0 < one := by decide +kernel

theorem two_pow_eq_mul {unit exponent bits k : Nat} (scale : unit = Nat.pow 2 bits)
    (sum : exponent = k + bits) : 2 ^ exponent = 2 ^ k * unit := by
  rw [scale, sum, Nat.pow_add]
  rfl

theorem infinityBits_eq : infinityBits = 2047 * 2 ^ 52 := rfl

section Words

variable {negative : Bool} {magnitude exponent significand : Nat}

theorem magnitude_ofMagnitude (short : magnitude < 2 ^ 63) :
    (ofMagnitude negative magnitude).magnitude = magnitude := by
  have size : Nat.pow 2 63 = 2 ^ 63 := rfl
  simp only [ofMagnitude, Binary64.magnitude, UInt64.toNat_ofNat', size]
  cases negative <;> simp <;> omega

/-- A significand may be as large as two to the 53rd: then it carries into the exponent. -/
theorem units_of_magnitude {x : Binary64} (low : 2 ^ 52 ≤ significand) (high : significand ≤ 2 ^ 53)
    (scaled : x.magnitude = exponent * 2 ^ 52 + significand) :
    x.units = significand * 2 ^ exponent := by
  have unfolded : x.units =
      if x.magnitude / 2 ^ 52 = 0 then x.magnitude % 2 ^ 52
      else (x.magnitude % 2 ^ 52 + 2 ^ 52) * 2 ^ (x.magnitude / 2 ^ 52 - 1) := rfl
  rcases Nat.lt_or_eq_of_le high with below | carried
  · have field : x.magnitude / 2 ^ 52 = exponent + 1 := by omega
    have fraction : x.magnitude % 2 ^ 52 + 2 ^ 52 = significand := by omega
    rw [unfolded, field, fraction, if_neg (Nat.succ_ne_zero exponent), Nat.add_sub_cancel]
  · have field : x.magnitude / 2 ^ 52 = exponent + 1 + 1 := by omega
    have fraction : x.magnitude % 2 ^ 52 + 2 ^ 52 = 2 ^ 52 := by omega
    rw [unfolded, field, fraction, if_neg (Nat.succ_ne_zero (exponent + 1)), Nat.add_sub_cancel,
      carried, ← Nat.pow_add, ← Nat.pow_add]
    congr 1
    omega

end Words

theorem roundQuotient_one (n : Nat) : roundQuotient n 1 = n := by
  simp [roundQuotient, Nat.mod_one]

theorem roundQuotient_bounds (num den : Nat) :
    num / den ≤ roundQuotient num den ∧ roundQuotient num den ≤ num / den + 1 := by
  unfold roundQuotient
  dsimp only
  split
  · omega
  · split
    · omega
    · split <;> omega

theorem binaryOrder_one {n : Nat} (nonzero : n ≠ 0) : binaryOrder n 1 = n.log2 := by
  have fits : 1 * Nat.pow 2 n.log2 ≤ n := by
    rw [Nat.one_mul]
    exact Nat.log2_self_le nonzero
  have guess : ((n.log2 : Int) - Nat.log2 1) = n.log2 := by
    rw [show Nat.log2 1 = 0 by decide, Int.ofNat_zero, Int.sub_zero]
  simp only [binaryOrder, guess, Int.natCast_nonneg, if_true, Int.toNat_natCast, fits]

/-- A positive whole number as a significand of 53 bits, rounded where it is longer than that. -/
def significandOf (n : Nat) : Nat :=
  if 52 ≤ n.log2 then roundQuotient n (2 ^ (n.log2 - 52)) else n * 2 ^ (52 - n.log2)

theorem significandOf_bounds {n : Nat} (nonzero : n ≠ 0) :
    2 ^ 52 ≤ significandOf n ∧ significandOf n ≤ 2 ^ 53 := by
  have low : 2 ^ n.log2 ≤ n := Nat.log2_self_le nonzero
  have high : n < 2 ^ (n.log2 + 1) := Nat.lt_log2_self
  unfold significandOf
  generalize n.log2 = order at *
  by_cases long : 52 ≤ order
  · obtain ⟨shift, rfl⟩ := Nat.exists_eq_add_of_le long
    have positive : 0 < 2 ^ shift := Nat.two_pow_pos shift
    have quotient_low : 2 ^ 52 ≤ n / 2 ^ shift := by
      rw [Nat.le_div_iff_mul_le positive, ← Nat.pow_add]
      exact low
    have quotient_high : n / 2 ^ shift < 2 ^ 53 := by
      rw [Nat.div_lt_iff_lt_mul positive, ← Nat.pow_add, Nat.add_right_comm 52 1 shift]
      exact high
    have rounded := roundQuotient_bounds n (2 ^ shift)
    rw [if_pos long, Nat.add_sub_cancel_left]
    omega
  · have width : 52 = order + (52 - order) := by omega
    have width_carried : 53 = order + 1 + (52 - order) := by omega
    rw [if_neg long]
    constructor
    · calc 2 ^ 52 = 2 ^ order * 2 ^ (52 - order) := by rw [← Nat.pow_add, ← width]
        _ ≤ n * 2 ^ (52 - order) := Nat.mul_le_mul_right _ low
    · calc n * 2 ^ (52 - order) ≤ 2 ^ (order + 1) * 2 ^ (52 - order) :=
            Nat.mul_le_mul_right _ (Nat.le_of_lt high)
        _ = 2 ^ 53 := by rw [← Nat.pow_add, ← width_carried]

theorem significandOf_scaled (n : Nat) :
    ∃ whole, significandOf n * 2 ^ (n.log2 + 1022) = whole * one := by
  unfold significandOf
  generalize n.log2 = order
  by_cases long : 52 ≤ order
  · have total : order + 1022 = (order - 52) + 1074 := by omega
    refine ⟨roundQuotient n (2 ^ (order - 52)) * 2 ^ (order - 52), ?_⟩
    rw [if_pos long, Nat.mul_assoc, two_pow_eq_mul one_eq total]
  · have total : 52 - order + (order + 1022) = 0 + 1074 := by omega
    refine ⟨n, ?_⟩
    rw [if_neg long, Nat.mul_assoc, ← Nat.pow_add, two_pow_eq_mul one_eq total, Nat.pow_zero,
      Nat.one_mul]

theorem ofRatio_one (negative : Bool) {n : Nat} (nonzero : n ≠ 0) :
    ofRatio negative n 1 = ofMagnitude negative
      (min infinityBits ((n.log2 + 1022) * 2 ^ 52 + significandOf n)) := by
  have power (k : Nat) : Nat.pow 2 k = 2 ^ k := rfl
  have scale : max (-1074) ((n.log2 : Int) - 52) = (n.log2 : Int) - 52 := by omega
  have field : ((n.log2 : Int) - 52 + 1074).toNat = n.log2 + 1022 := by omega
  simp only [ofRatio, nonzero, if_false, binaryOrder_one nonzero, scale, field, power,
    significandOf]
  by_cases long : 52 ≤ n.log2
  · have nonneg : (0 : Int) ≤ (n.log2 : Int) - 52 := by omega
    have shift : ((n.log2 : Int) - 52).toNat = n.log2 - 52 := by omega
    rw [if_pos nonneg, if_pos long, shift, Nat.one_mul]
  · have negated : ¬ (0 : Int) ≤ (n.log2 : Int) - 52 := by omega
    have shift : (-((n.log2 : Int) - 52)).toNat = 52 - n.log2 := by omega
    rw [if_neg negated, if_neg long, shift, roundQuotient_one]

theorem magnitude_ofRatio_one (negative : Bool) {n : Nat} (nonzero : n ≠ 0) :
    (ofRatio negative n 1).magnitude =
      min infinityBits ((n.log2 + 1022) * 2 ^ 52 + significandOf n) := by
  rw [ofRatio_one negative nonzero]
  apply magnitude_ofMagnitude
  rw [infinityBits_eq]
  omega

theorem magnitude_ofRatio_zero (negative : Bool) : (ofRatio negative 0 1).magnitude = 0 :=
  magnitude_ofMagnitude (by decide)

/-- Rounding keeps a whole number whole, unless it becomes infinite. -/
theorem units_ofRatio_one {negative : Bool} {n : Nat}
    (finite : (ofRatio negative n 1).isFinite = true) :
    ∃ whole, (ofRatio negative n 1).units = whole * one := by
  by_cases zero : n = 0
  · subst zero
    exact ⟨0, by simp [units, magnitude_ofRatio_zero]⟩
  · have magnitude := magnitude_ofRatio_one negative zero
    simp only [isFinite, decide_eq_true_eq] at finite
    obtain ⟨low, high⟩ := significandOf_bounds zero
    obtain ⟨whole, scaled⟩ := significandOf_scaled n
    have kept : (ofRatio negative n 1).magnitude =
        (n.log2 + 1022) * 2 ^ 52 + significandOf n := by omega
    exact ⟨whole, by rw [units_of_magnitude low high kept, scaled]⟩

theorem isFinite_ofRatio_one {negative : Bool} {n : Nat} (short : n ≤ 2 ^ 63) :
    (ofRatio negative n 1).isFinite = true := by
  rw [isFinite, decide_eq_true_eq]
  by_cases zero : n = 0
  · subst zero
    rw [magnitude_ofRatio_zero]
    decide
  · have order : n.log2 < 64 := by
      rw [Nat.log2_lt zero]
      omega
    have bounds := significandOf_bounds zero
    rw [magnitude_ofRatio_one negative zero, infinityBits_eq]
    omega

theorem ofRatio_one_of_large (negative : Bool) {n : Nat} (large : 1024 ≤ n.log2) :
    ofRatio negative n 1 = infinity negative := by
  have nonzero : n ≠ 0 := by
    rintro rfl
    simp at large
  have bounds := significandOf_bounds nonzero
  rw [ofRatio_one negative nonzero, infinity]
  congr 1
  rw [infinityBits_eq]
  omega

theorem isIntegral_ofInt {n : Int} (finite : (ofInt n).isFinite = true) :
    (ofInt n).isIntegral = true := by
  obtain ⟨whole, same⟩ := units_ofRatio_one finite
  simp only [isIntegral, finite, Bool.true_and, decide_eq_true_eq]
  rw [ofInt, same, Nat.mul_mod_left]

theorem isFinite_ofInt {n : Int} (fits : fitsInt64 n = true) : (ofInt n).isFinite = true := by
  have bound : (Nat.pow 2 63 : Int) = 2 ^ 63 := rfl
  simp only [fitsInt64, bound, Bool.and_eq_true, decide_eq_true_eq] at fits
  apply isFinite_ofRatio_one
  omega

section Values

variable {x y : Binary64}

theorem one_rat_pos : (0 : ℚ) < one :=
  Nat.cast_pos.mpr one_pos

theorem value_le_value : x.value ≤ y.value ↔ x.signedUnits ≤ y.signedUnits := by
  rw [value, value, div_le_div_iff_of_pos_right one_rat_pos, Int.cast_le]

theorem below_iff : x.below y = true ↔ x.value < y.value := by
  rw [below, decide_eq_true_eq, ← not_le, ← not_le, value_le_value]

theorem value_eq_intCast {n : Int} : x.value = n ↔ x.signedUnits = n * one := by
  rw [value, div_eq_iff one_rat_pos.ne']
  exact_mod_cast Iff.rfl

theorem intCast_le_value {n : Int} : (n : ℚ) ≤ x.value ↔ n * one ≤ x.signedUnits := by
  rw [value, le_div_iff₀ one_rat_pos]
  exact_mod_cast Iff.rfl

theorem value_le_intCast {n : Int} : x.value ≤ n ↔ x.signedUnits ≤ n * one := by
  rw [value, div_le_iff₀ one_rat_pos]
  exact_mod_cast Iff.rfl

theorem value_eq_truncate (whole : x.isIntegral = true) : x.value = x.truncate := by
  simp only [isIntegral, Bool.and_eq_true, decide_eq_true_eq] at whole
  have multiple : x.units / one * one = x.units := Nat.div_mul_cancel (Nat.dvd_of_mod_eq_zero whole.2)
  rw [value_eq_intCast, signedUnits, truncate]
  split
  · rw [Int.neg_mul, ← Nat.cast_mul, multiple]
  · rw [← Nat.cast_mul, multiple]

/-- A finite double is whole if it is a whole number. -/
theorem isIntegral_iff (finite : x.isFinite = true) :
    x.isIntegral = true ↔ ∃ n : ℤ, x.value = n := by
  constructor
  · intro whole
    exact ⟨x.truncate, value_eq_truncate whole⟩
  · rintro ⟨n, same⟩
    have distance : x.units = n.natAbs * one := by
      have signed := congrArg Int.natAbs (value_eq_intCast.mp same)
      rw [Int.natAbs_mul, Int.natAbs_natCast] at signed
      rw [← signed, signedUnits]
      split <;> simp
    simp [isIntegral, finite, distance]

end Values

section Texts

variable {text digits : List Char} {n : Int}

theorem digits_of_whole (read : wholeOfChars? text = some n) :
    (splitSign text).2 ≠ [] ∧ (∀ c ∈ (splitSign text).2, c.isDigit = true) ∧
      n = if (splitSign text).1 then -(Decimal.digitsValue (splitSign text).2 : Int)
        else Decimal.digitsValue (splitSign text).2 := by
  simp only [wholeOfChars?, Option.ite_none_left_eq_some, Bool.or_eq_true, List.isEmpty_iff,
    Bool.not_eq_true', not_or, Option.some.injEq] at read
  obtain ⟨⟨nonempty, digital⟩, same⟩ := read
  exact ⟨nonempty, by simpa using digital, same.symm⟩

theorem decimal_of_digits (nonempty : digits ≠ []) (digital : ∀ c ∈ digits, c.isDigit = true) :
    Decimal.ofChars? digits = some ⟨Decimal.digitsValue digits, 0⟩ := by
  have taken : Decimal.takeDigits digits = (digits, []) := by
    rw [Decimal.takeDigits, List.span_eq_takeWhile_dropWhile,
      List.takeWhile_eq_self_iff.mpr digital, List.dropWhile_eq_nil_iff.mpr digital]
  simp [Decimal.ofChars?, taken, nonempty, Decimal.readExponent?]

/-- A whole number with more digits than any double has is infinite. -/
theorem toBinary64_whole (negative : Bool) {n : Nat} (nonzero : n ≠ 0) :
    Decimal.toBinary64 negative ⟨n, 0⟩ = ofRatio negative n 1 := by
  have power : n * Nat.pow 10 (0 : Int).toNat = n := Nat.mul_one n
  have small : ¬ ((Decimal.digitCount n : Int) + 0 < -400) := by omega
  by_cases long : 400 < Decimal.digitCount n
  · have large : 10 ^ 400 ≤ n := by
      rw [← not_lt, ← Nat.length_toDigits_le_iff (by decide) (by decide)]
      exact not_le.mpr long
    have order : 1024 ≤ n.log2 := by
      rw [Nat.le_log2 nonzero]
      exact le_trans (by decide +kernel) large
    have wide : (400 : Int) < (Decimal.digitCount n : Int) + 0 := by omega
    simp only [Decimal.toBinary64, nonzero, if_false, wide, if_true]
    rw [ofRatio_one_of_large negative order]
  · have narrow : ¬ (400 : Int) < (Decimal.digitCount n : Int) + 0 := by omega
    simp only [Decimal.toBinary64, nonzero, if_false, narrow, small, le_refl, if_true, power]

theorem toLower_of_isDigit {c : Char} (digit : c.isDigit = true) : c.toLower = c := by
  have short : c.val.toNat ≤ 57 := by
    have bounds : 48 ≤ c.val ∧ c.val ≤ 57 := by simpa [Char.isDigit] using digit
    exact UInt32.le_iff_toNat_le.mp bounds.2
  have small : ¬ 65 ≤ c.val := by
    rw [UInt32.le_iff_toNat_le]
    exact Nat.not_le_of_lt (Nat.lt_of_le_of_lt short (by decide))
  exact dif_neg fun capital => small capital.1

theorem word_of_digits (word : String) {first : Char} {rest : List Char}
    (spelled : word.toList = first :: rest) (letter : first.isDigit = false) (nonempty : digits ≠ [])
    (digital : ∀ c ∈ digits, c.isDigit = true) :
    String.ofList (digits.map Char.toLower) ≠ word := by
  rintro rfl
  cases digits with
  | nil => exact nonempty rfl
  | cons c tail =>
      have digit := digital c List.mem_cons_self
      simp only [List.map_cons, String.toList_ofList, List.cons.injEq, toLower_of_isDigit digit]
        at spelled
      rw [spelled.1, letter] at digit
      contradiction

/-- The text of a whole number is read to the nearest double. -/
theorem ofChars?_of_whole (read : wholeOfChars? text = some n) (nonzero : n ≠ 0) :
    Binary64.ofChars? text = some (ofInt n) := by
  obtain ⟨nonempty, digital, same⟩ := digits_of_whole read
  have inf := word_of_digits "inf" rfl (by decide) nonempty digital
  have infinity := word_of_digits "infinity" rfl (by decide) nonempty digital
  have nan := word_of_digits "nan" rfl (by decide) nonempty digital
  have positive : Decimal.digitsValue (splitSign text).2 ≠ 0 := by
    rintro zero
    simp [zero] at same
    exact nonzero same
  have rounded : ofInt n = ofRatio (splitSign text).1 (Decimal.digitsValue (splitSign text).2) 1 := by
    generalize Decimal.digitsValue (splitSign text).2 = whole at *
    cases sign : (splitSign text).1 with
    | true =>
        have above : 0 < whole := Nat.pos_of_ne_zero positive
        simp [same, sign, ofInt, above]
    | false =>
        have nonneg : ¬ (whole : Int) < 0 := by omega
        simp [same, sign, ofInt, nonneg]
  simp [Binary64.ofChars?, inf, infinity, nan, decimal_of_digits nonempty digital,
    toBinary64_whole _ positive, rounded]

end Texts

end StagePlan.Binary64
