import Mathlib.Data.List.TakeDrop
import Mathlib.Data.List.TakeWhile
import StagePlan.Json.Number
import StagePlan.Value.Written

namespace StagePlan

/-!
Numbers of documents, read back. Whole numbers of a word come back as they are. Of a decimal that
cannot be said in general, since digits are not read to the nearest double; here it is a property
that a decimal may have.
-/

/-- What may follow the number in a document: the end, a comma or a closing bracket or brace. -/
inductive EndsNumber : List Char → Prop
  | done : EndsNumber []
  | comma (rest : List Char) : EndsNumber (',' :: rest)
  | bracket (rest : List Char) : EndsNumber (']' :: rest)
  | brace (rest : List Char) : EndsNumber ('\x7d' :: rest)

namespace Json

/-- The number that a whole text is. -/
def number? (text : List Char) : Option Number :=
  match readNumber text with
  | some (d, []) => d.value?.bind Value.number?
  | _ => none

variable {text rest : List Char}

theorem takeDigits_append (ended : EndsNumber rest) :
    Decimal.takeDigits (text ++ rest) =
      ((Decimal.takeDigits text).1, (Decimal.takeDigits text).2 ++ rest) := by
  simp only [Decimal.takeDigits, List.span_eq_takeWhile_dropWhile]
  induction text with
  | nil => cases ended <;> rfl
  | cons c text ih =>
      by_cases digit : c.isDigit
      · simpa [digit] using ih
      · simp [digit]

theorem splitSign_append (ended : EndsNumber rest) :
    splitSign (text ++ rest) = ((splitSign text).1, (splitSign text).2 ++ rest) := by
  cases text with
  | nil => cases ended <;> rfl
  | cons c text =>
      simp only [List.cons_append, splitSign]
      split <;> simp_all

theorem readExponent?_cons (c : Char) (text : List Char) :
    Decimal.readExponent? (c :: text) =
      if c = 'e' || c = 'E' then
        let (digits, behind) := Decimal.takeDigits (splitSign text).2
        if digits.isEmpty then none
        else
          let n : Int := Decimal.digitsValue digits
          some (if (splitSign text).1 then -n else n, behind)
      else some (0, c :: text) := rfl

theorem readExponent?_append (ended : EndsNumber rest) :
    Decimal.readExponent? (text ++ rest) =
      (Decimal.readExponent? text).map fun (exponent, behind) => (exponent, behind ++ rest) := by
  cases text with
  | nil => cases ended <;> rfl
  | cons c text =>
      rw [List.cons_append, readExponent?_cons, readExponent?_cons, splitSign_append ended]
      split
      · dsimp only
        rw [takeDigits_append ended]
        dsimp only
        split <;> rfl
      · rfl

/-- The digits behind a point, if there is a point, and what follows. -/
def fraction? (text : List Char) : Option (List Char × List Char) :=
  match text with
  | '.' :: rest =>
      let (digits, rest) := Decimal.takeDigits rest
      if digits.isEmpty then none else some (digits, rest)
  | _ => some ([], text)

/-- A minus sign at the head of a text, and what follows. -/
def splitMinus (text : List Char) : Bool × List Char :=
  match text with
  | '-' :: rest => (true, rest)
  | _ => (false, text)

theorem readNumber_eq (text : List Char) :
    readNumber text =
      let (negative, unsigned) := splitMinus text
      let (whole, rest) := Decimal.takeDigits unsigned
      if whole.isEmpty || (whole.length > 1 && whole.head? = some '0') then none
      else
        match fraction? rest with
        | none => none
        | some (fraction, behind) =>
            match Decimal.readExponent? behind with
            | none => none
            | some (exponent, after) =>
                let digits : Nat := Decimal.digitsValue whole
                let n : Int := if negative then -(digits : Int) else digits
                if rest.length == after.length && isWord n && !(negative && n == 0) then
                  some (.scalar (wholeScalar n), after)
                else
                  some (.scalar (floatScalar (readDouble? negative whole fraction exponent)),
                    after) := rfl

theorem fraction?_append (ended : EndsNumber rest) :
    fraction? (text ++ rest) =
      (fraction? text).map fun (digits, behind) => (digits, behind ++ rest) := by
  cases text with
  | nil => cases ended <;> rfl
  | cons c text =>
      by_cases point : c = '.'
      · subst point
        simp only [List.cons_append, fraction?, takeDigits_append ended]
        split <;> rfl
      · simp [fraction?, point]

theorem splitMinus_append (ended : EndsNumber rest) :
    splitMinus (text ++ rest) = ((splitMinus text).1, (splitMinus text).2 ++ rest) := by
  cases text with
  | nil => cases ended <;> rfl
  | cons c text =>
      simp only [List.cons_append, splitMinus]
      split <;> simp_all

/-- What follows a number has no part in it. -/
theorem readNumber_append (ended : EndsNumber rest) :
    readNumber (text ++ rest) =
      (readNumber text).map fun (d, behind) => (d, behind ++ rest) := by
  rw [readNumber_eq, readNumber_eq, splitMinus_append ended]
  dsimp only
  rw [takeDigits_append ended]
  dsimp only
  split
  · rfl
  · rw [fraction?_append ended]
    cases fraction? (Decimal.takeDigits (splitMinus text).2).2 with
    | none => rfl
    | some split =>
        obtain ⟨fraction, behind⟩ := split
        simp only [Option.map_some]
        rw [readExponent?_append ended]
        cases Decimal.readExponent? behind with
        | none => rfl
        | some split =>
            obtain ⟨exponent, after⟩ := split
            have longer (m n : Nat) : (m + rest.length == n + rest.length) = (m == n) := by
              rw [Bool.eq_iff_iff, beq_iff_eq, beq_iff_eq, Nat.add_right_cancel_iff]
            simp only [Option.map_some, List.length_append, longer]
            symm
            exact apply_ite _ _ _ _

/-- Numbers begin with a digit or a minus sign. -/
theorem head_of_readNumber {result : Document × List Char} (read : readNumber text = some result) :
    ∃ c tail, text = c :: tail ∧ (c = '-' ∨ c.isDigit = true) := by
  cases text with
  | nil => cases read
  | cons c tail =>
      refine ⟨c, tail, rfl, ?_⟩
      by_contra other
      obtain ⟨unsigned, nonDigit⟩ := not_or.mp other
      have whole : (Decimal.takeDigits (c :: tail)).1 = [] := by
        simp [Decimal.takeDigits, List.span_eq_takeWhile_dropWhile, nonDigit]
      rw [readNumber_eq] at read
      simp [splitMinus, unsigned, whole] at read

/-- A number is read as a whole one or as a double, if there is one. -/
theorem scalar_of_readNumber {d : Document} (read : readNumber text = some (d, rest)) :
    (∃ n, d = .scalar (wholeScalar n)) ∨ ∃ x?, d = .scalar (floatScalar x?) := by
  rw [readNumber_eq] at read
  dsimp only at read
  repeat' split at read
  all_goals cases read
  all_goals first | exact .inl ⟨_, rfl⟩ | exact .inr ⟨_, rfl⟩

/-- Of the digits of a number only the one of zero begins with a zero. -/
theorem head_toDigits {n : Nat} (positive : 0 < n) : (Nat.toDigits 10 n).head? ≠ some '0' := by
  induction n using Nat.strongRecOn with
  | _ n ih =>
      by_cases single : n < 10
      · have nonzero : ∀ digit < 10, 0 < digit → Nat.digitChar digit ≠ '0' := by decide
        rw [Nat.toDigits_of_lt_base single]
        simpa using nonzero n single positive
      · have leading := ih (n / 10) (by omega) (by omega)
        rw [Nat.toDigits_of_base_le (by decide) (Nat.le_of_not_lt single), List.head?_append]
        cases digits : Nat.toDigits 10 (n / 10) with
        | nil => exact absurd digits Nat.toDigits_ne_nil
        | cons c tail => simpa [digits] using leading

theorem takeDigits_toDigits (n : Nat) :
    Decimal.takeDigits (Nat.toDigits 10 n) = (Nat.toDigits 10 n, []) := by
  have digits : ∀ c ∈ Nat.toDigits 10 n, c.isDigit = true := fun c listed =>
    Nat.isDigit_of_mem_toDigits (by decide) (by decide) listed
  rw [Decimal.takeDigits, List.span_eq_takeWhile_dropWhile,
    List.takeWhile_eq_self_iff.mpr digits, List.dropWhile_eq_nil_iff.mpr digits]

theorem digitsValue_toDigits (n : Nat) : Decimal.digitsValue (Nat.toDigits 10 n) = n :=
  Nat.ofDigitChars_toDigits (by decide) (by decide)

/-- The digits of a number, read as a whole number with a sign or without one. -/
theorem readNumber_toDigits (negative : Bool) {n : Nat} (signed : negative = true → 0 < n)
    (word : isWord (if negative then -(n : Int) else n) = true) :
    readNumber ((if negative then ['-'] else []) ++ Nat.toDigits 10 n) =
      some (.scalar (wholeScalar (if negative then -(n : Int) else n)), []) := by
  have minus : splitMinus ((if negative then ['-'] else []) ++ Nat.toDigits 10 n) =
      (negative, Nat.toDigits 10 n) := by
    cases negative with
    | true => rfl
    | false =>
        have digit : ∀ c ∈ Nat.toDigits 10 n, c.isDigit = true := fun c listed =>
          Nat.isDigit_of_mem_toDigits (by decide) (by decide) listed
        cases digits : Nat.toDigits 10 n with
        | nil => rfl
        | cons c tail =>
            have unsigned : c ≠ '-' := by
              rintro rfl
              exact absurd (digit '-' (by simp [digits])) (by decide)
            simp [splitMinus, unsigned]
  have unpadded : ¬ ((Nat.toDigits 10 n).isEmpty ||
      ((Nat.toDigits 10 n).length > 1 && (Nat.toDigits 10 n).head? = some '0')) := by
    have short : n = 0 → (Nat.toDigits 10 n).length = 1 := by
      rintro rfl
      rfl
    simp only [Bool.or_eq_true, List.isEmpty_iff, Nat.toDigits_ne_nil, Bool.and_eq_true,
      decide_eq_true_eq, false_or, not_and]
    intro long
    exact head_toDigits (Nat.pos_of_ne_zero fun zero => by omega)
  have nonzero : (negative && (if negative then -(n : Int) else n) == 0) = false := by
    cases negative with
    | false => rfl
    | true =>
        have positive := signed rfl
        simp
        omega
  rw [readNumber_eq, minus]
  dsimp only
  rw [takeDigits_toDigits]
  dsimp only
  rw [if_neg unpadded, digitsValue_toDigits]
  simp [fraction?, Decimal.readExponent?, word, nonzero]

theorem isWord_toInt (n : Int64) : isWord n.toInt = true := by
  have low : -2 ^ 63 ≤ n.toInt := n.le_toInt
  have high : n.toInt < 2 ^ 63 := n.toInt_lt
  have lower : (Nat.pow 2 63 : Int) = 2 ^ 63 := rfl
  have upper : (wordBound : Int) = 2 ^ 64 := rfl
  simp only [isWord, Bool.and_eq_true, decide_eq_true_eq, lower, upper]
  omega

theorem readNumber_integer (n : Int64) :
    readNumber (Number.integer n).documentChars = some (.scalar (wholeScalar n.toInt), []) := by
  have word := isWord_toInt n
  change readNumber (toString n.toInt).toList = _
  generalize n.toInt = whole at word ⊢
  cases whole with
  | ofNat k =>
      have digits : (toString (Int.ofNat k)).toList = Nat.toDigits 10 k := Nat.toList_repr
      rw [digits]
      exact readNumber_toDigits false (by simp) word
  | negSucc k =>
      have digits : (toString (Int.negSucc k)).toList = '-' :: Nat.toDigits 10 (k + 1) := by
        change ("-" ++ (k + 1).repr).toList = _
        rw [String.toList_append, Nat.toList_repr]
        rfl
      rw [digits]
      exact readNumber_toDigits true (by simp) word

/-- The text of a whole number of a word is that number. -/
theorem number?_integer (n : Int64) :
    number? (Number.integer n).documentChars = some (.integer n) := by
  rw [number?, readNumber_integer]
  exact congrArg some (Number.ofInt_toInt n)

end Json

end StagePlan
