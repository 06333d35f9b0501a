import Mathlib.Tactic.Linarith
import Mathlib.Tactic.NormNum
import StagePlan.Proofs.Number.WholeDoubles
import StagePlan.Proofs.Value.Reordering
import StagePlan.Registry.Filters

namespace StagePlan.Filters

/-!
The smallest and the largest element of a list of numbers. The filters answer exactly for lists that
are not empty and whose elements all stand for finite doubles, and name the first element that does
not. The answer denotes the extreme double, but for one case: two to the 63rd, which no integer of 64
bits reaches, is given back as the integer below it.
-/

/-- The finite double that an element of a list stands for. A text is read as an integer of 64 bits if
it is one, and as a double otherwise. -/
inductive StandsFor : Value → Binary64 → Prop
  | integer (n : Int64) : StandsFor (.number (.integer n)) (Binary64.ofInt n.toInt)
  | float {x : Binary64} (finite : x.isFinite = true) : StandsFor (.number (.float x)) x
  | integerText {text : String} {n : Int}
      (read : wholeOfChars? (Text.trim text.toList) = some n) (fits : fitsInt64 n = true) :
      StandsFor (.string text) (Binary64.ofInt n)
  | floatText {text : String} {x : Binary64}
      (other : ∀ n, wholeOfChars? (Text.trim text.toList) = some n → fitsInt64 n = false)
      (read : Binary64.ofChars? (Text.trim text.toList) = some x) (finite : x.isFinite = true) :
      StandsFor (.string text) x

variable {value item : Value} {items : List Value} {x best : Binary64} {xs : List Binary64}
  {which : Extremum} {fault : Fault} {index : Nat} {number : Binary64 × Bool}
  {numbers : List (Binary64 × Bool)}

theorem fitsInt64_toInt (n : Int64) : fitsInt64 n.toInt = true := by
  simp only [fitsInt64, Bool.and_eq_true, decide_eq_true_eq]
  exact ⟨n.le_toInt, n.toInt_lt⟩

theorem StandsFor.isFinite (stands : StandsFor item x) : x.isFinite = true := by
  cases stands with
  | integer n => exact Binary64.isFinite_ofInt (fitsInt64_toInt n)
  | float finite => exact finite
  | integerText _ fits => exact Binary64.isFinite_ofInt fits
  | floatText _ _ finite => exact finite

theorem numberOfText?_of_fits {text : String} {n : Int}
    (read : wholeOfChars? (Text.trim text.toList) = some n) (fits : fitsInt64 n = true) :
    numberOfText? text = some (Binary64.ofInt n, true) := by
  simp [numberOfText?, read, fits]

theorem numberOfText?_of_other {text : String}
    (other : ∀ n, wholeOfChars? (Text.trim text.toList) = some n → fitsInt64 n = false) :
    numberOfText? text =
      (Binary64.ofChars? (Text.trim text.toList)).map fun x => (x, x.isIntegral) := by
  cases read : wholeOfChars? (Text.trim text.toList) with
  | none => simp [numberOfText?, read]
  | some n =>
      have long := other n read
      have nonzero : n ≠ 0 := by
        rintro rfl
        exact absurd long (by decide)
      simp [numberOfText?, read, long, Binary64.ofChars?_of_whole read nonzero]

theorem coerce_of_standsFor (stands : StandsFor item x) (index : Nat) :
    coerce index item = .ok (x, x.isIntegral) := by
  have finite := stands.isFinite
  cases stands with
  | integer n => simp [coerce, finite, Binary64.isIntegral_ofInt finite]
  | float _ => simp [coerce, finite]
  | integerText read fits =>
      simp [coerce, numberOfText?_of_fits read fits, finite, Binary64.isIntegral_ofInt finite]
  | floatText other read _ => simp [coerce, numberOfText?_of_other other, read, finite]

/-- The message of a fault at the element with the index. -/
def Fault.NamesElement (fault : Fault) (index : Nat) : Prop :=
  ∃ reason, fault.message = "element " ++ toString index ++ " is not " ++ reason

theorem namesElement_notNumeric (index : Nat) (shown : String) :
    (Fault.notNumeric index shown).NamesElement index := by
  have words : " is not numeric: " = " is not " ++ "numeric: " := by decide
  refine ⟨"numeric: " ++ shown, ?_⟩
  change "element " ++ toString index ++ " is not numeric: " ++ shown = _
  rw [words]
  simp only [String.append_assoc]

theorem namesElement_notFinite (index : Nat) : (Fault.notFinite index).NamesElement index := by
  have words : " is not a finite number" = " is not " ++ "a finite number" := by decide
  refine ⟨"a finite number", ?_⟩
  change "element " ++ toString index ++ " is not a finite number" = _
  rw [words]
  simp only [String.append_assoc]

theorem coerce_cases (index : Nat) (item : Value) :
    (∃ x, StandsFor item x) ∨
      ∃ fault, coerce index item = .error fault ∧ fault.NamesElement index := by
  cases item with
  | number n =>
      cases n with
      | integer n => exact .inl ⟨_, .integer n⟩
      | float x =>
          cases finite : x.isFinite with
          | true => exact .inl ⟨x, .float finite⟩
          | false => exact .inr ⟨_, by simp [coerce, finite], namesElement_notFinite index⟩
  | string text =>
      by_cases fit : ∃ n, wholeOfChars? (Text.trim text.toList) = some n ∧ fitsInt64 n = true
      · obtain ⟨n, read, fits⟩ := fit
        exact .inl ⟨_, .integerText read fits⟩
      · have other : ∀ n, wholeOfChars? (Text.trim text.toList) = some n → fitsInt64 n = false :=
          fun n read => Bool.eq_false_iff.mpr fun fits => fit ⟨n, read, fits⟩
        have number := numberOfText?_of_other other
        cases read : Binary64.ofChars? (Text.trim text.toList) with
        | none =>
            exact .inr ⟨.notNumeric index ("'" ++ text ++ "'"), by simp [coerce, number, read],
              namesElement_notNumeric index _⟩
        | some x =>
            cases finite : x.isFinite with
            | true => exact .inl ⟨x, .floatText other read finite⟩
            | false =>
                exact .inr ⟨_, by simp [coerce, number, read, finite],
                  namesElement_notFinite index⟩
  | null | bool _ | list _ | map _ => exact .inr ⟨_, rfl, namesElement_notNumeric index _⟩

/-- The elements of a list, read one after the other, up to the first that stands for no double. -/
theorem coerceFrom_of_standsFor (stand : List.Forall₂ StandsFor items xs) (index : Nat) :
    coerceFrom index items = .ok (xs.map fun x => (x, x.isIntegral)) := by
  induction stand generalizing index with
  | nil => rfl
  | cons first _ ih => simp [coerceFrom, coerce_of_standsFor first, ih]

theorem coerceFrom_of_refused {before after : List Value} (stand : List.Forall₂ StandsFor before xs)
    (refused : coerce (index + before.length) item = .error fault) :
    coerceFrom index (before ++ item :: after) = .error fault := by
  induction stand generalizing index with
  | nil =>
      rw [List.length_nil, Nat.add_zero] at refused
      simp [coerceFrom, refused]
  | cons first _ ih =>
      rw [List.length_cons, Nat.add_comm _ 1, ← Nat.add_assoc] at refused
      simp [coerceFrom, coerce_of_standsFor first, ih refused]

/-- Whether a number lies as far in the direction that is asked for as another. -/
def Extremum.Reaches : Extremum → Binary64 → Binary64 → Prop
  | .smallest, x, y => x.value ≤ y.value
  | .largest, x, y => y.value ≤ x.value

/-- The number is one of the list, and no other of the list lies farther. -/
structure Extremum.IsExtreme (which : Extremum) (best : Binary64) (xs : List Binary64) : Prop where
  listed : best ∈ xs
  reaches : ∀ x ∈ xs, which.Reaches best x

theorem reaches_trans {y z : Binary64} (first : which.Reaches x y) (second : which.Reaches y z) :
    which.Reaches x z := by
  cases which with
  | smallest => exact le_trans first second
  | largest => exact le_trans second first

theorem pick_reaches (which : Extremum) (best x : Binary64) :
    which.Reaches (which.pick best x) best ∧ which.Reaches (which.pick best x) x := by
  cases which with
  | smallest =>
      simp only [Extremum.pick, Extremum.Reaches, Binary64.below_iff]
      split
      · exact ⟨by linarith, le_refl _⟩
      · exact ⟨le_refl _, by linarith⟩
  | largest =>
      simp only [Extremum.pick, Extremum.Reaches, Binary64.below_iff]
      split
      · exact ⟨by linarith, le_refl _⟩
      · exact ⟨le_refl _, by linarith⟩

theorem pick_cases (which : Extremum) (best x : Binary64) :
    which.pick best x = best ∨ which.pick best x = x := by
  cases which <;> simp only [Extremum.pick] <;> split <;> simp

/-- One more number: the best so far is compared with it alone. -/
theorem Extremum.IsExtreme.step (extreme : which.IsExtreme best xs) (x : Binary64) :
    which.IsExtreme (which.pick best x) (xs ++ [x]) := by
  obtain ⟨old, new⟩ := pick_reaches which best x
  constructor
  · rcases pick_cases which best x with kept | taken
    · rw [kept]
      exact List.mem_append_left _ extreme.listed
    · rw [taken]
      exact List.mem_append_right _ List.mem_cons_self
  · intro y listed
    rcases List.mem_append.mp listed with earlier | last
    · exact reaches_trans old (extreme.reaches y earlier)
    · rw [List.mem_singleton.mp last]
      exact new

theorem Extremum.IsExtreme.run (extreme : which.IsExtreme best xs) (rest : List Binary64) :
    which.IsExtreme (rest.foldl which.pick best) (xs ++ rest) := by
  induction rest generalizing best xs with
  | nil => simpa using extreme
  | cons x rest ih =>
      rw [List.foldl_cons, ← List.singleton_append, ← List.append_assoc]
      exact ih (extreme.step x)

theorem isExtreme_foldl (which : Extremum) (first : Binary64) (rest : List Binary64) :
    which.IsExtreme (rest.foldl which.pick first) (first :: rest) := by
  have alone : which.IsExtreme first [first] := by
    refine ⟨List.mem_cons_self, fun x listed => ?_⟩
    rw [List.mem_singleton.mp listed]
    cases which <;> exact le_refl _
  exact alone.run rest

/-- The value with which the extreme number of a list is given back. -/
inductive GivenBack (xs : List Binary64) (best : Binary64) : Value → Prop
  | integer {n : Int64} (whole : ∀ x ∈ xs, ∃ i : ℤ, x.value = i) (same : (n.toInt : ℚ) = best.value) :
      GivenBack xs best (.number (.integer n))
  | beyond (whole : ∀ x ∈ xs, ∃ i : ℤ, x.value = i) (bound : best.value = 2 ^ 63) :
      GivenBack xs best (.number (.integer Int64.maxValue))
  | float (outside : ¬ ((∀ x ∈ xs, ∃ i : ℤ, x.value = i) ∧ -2 ^ 63 ≤ best.value ∧ best.value ≤ 2 ^ 63)) :
      GivenBack xs best (.number (.float best))

theorem inIntegerRange_iff :
    inIntegerRange best = true ↔ -2 ^ 63 ≤ best.value ∧ best.value ≤ 2 ^ 63 := by
  have low : (-2 ^ 63 : ℚ) = ((-2 ^ 63 : Int) : ℚ) := by norm_num
  have high : (2 ^ 63 : ℚ) = ((2 ^ 63 : Int) : ℚ) := by norm_num
  rw [low, high, Binary64.intCast_le_value, Binary64.value_le_intCast, Int.neg_mul, inIntegerRange,
    Bool.and_eq_true, decide_eq_true_eq, decide_eq_true_eq]
  rfl

theorem nearestInteger_of_lt {n : Int} (same : best.truncate = n) (low : -2 ^ 63 ≤ n)
    (high : n < 2 ^ 63) : (nearestInteger best).toInt = n := by
  have bound : (Nat.pow 2 63 : Int) = 2 ^ 63 := rfl
  have clamped : max (-2 ^ 63) (min (2 ^ 63 - 1) n) = n := by omega
  rw [nearestInteger, bound, same, clamped, Int64.toInt_ofInt_of_le low high]

theorem nearestInteger_of_bound (same : best.truncate = 2 ^ 63) :
    nearestInteger best = Int64.maxValue := by
  rw [nearestInteger, same]
  rfl

theorem givenBack_of_listed (listed : best ∈ xs) (finite : ∀ x ∈ xs, x.isFinite = true) :
    GivenBack xs best
      (if xs.all Binary64.isIntegral && inIntegerRange best then
        .number (.integer (nearestInteger best))
      else .float best) := by
  have whole_iff : xs.all Binary64.isIntegral = true ↔ ∀ x ∈ xs, ∃ i : ℤ, x.value = i := by
    rw [List.all_eq_true]
    exact forall₂_congr fun x listed => Binary64.isIntegral_iff (finite x listed)
  split
  · rename_i accepted
    obtain ⟨integral, range⟩ := Bool.and_eq_true_iff.mp accepted
    have whole := whole_iff.mp integral
    obtain ⟨low, high⟩ := inIntegerRange_iff.mp range
    have truncated := Binary64.value_eq_truncate (List.all_eq_true.mp integral best listed)
    rw [truncated] at low high
    have low : -2 ^ 63 ≤ best.truncate := by exact_mod_cast low
    have high : best.truncate ≤ 2 ^ 63 := by exact_mod_cast high
    rcases lt_or_eq_of_le high with below | reached
    · exact .integer whole (by rw [nearestInteger_of_lt rfl low below, truncated])
    · rw [nearestInteger_of_bound reached]
      exact .beyond whole (by rw [truncated, reached]; norm_cast)
  · rename_i refused
    refine .float fun ⟨whole, range⟩ => refused ?_
    rw [whole_iff.mpr whole, inIntegerRange_iff.mpr range, Bool.and_self]

theorem isFinite_of_standsFor (stand : List.Forall₂ StandsFor items xs) :
    ∀ x ∈ xs, x.isFinite = true := by
  intro x listed
  obtain ⟨item, -, stands⟩ := exists_left stand listed
  exact stands.isFinite

theorem extremum_of_standsFor (which : Extremum) (stand : List.Forall₂ StandsFor items xs)
    (some : items ≠ []) :
    ∃ best answer, which.IsExtreme best xs ∧ GivenBack xs best answer ∧
      extremum which (.list items) = .ok answer := by
  have coerced := coerceFrom_of_standsFor stand 0
  cases xs with
  | nil => cases stand; contradiction
  | cons first rest =>
      have extreme := isExtreme_foldl which first rest
      refine ⟨_, _, extreme, givenBack_of_listed extreme.listed (isFinite_of_standsFor stand), ?_⟩
      simp only [extremum, Value.list?, coerced, List.map_cons, bind, Except.bind, List.foldl_map,
        List.all_cons, List.all_map, Function.comp_def]
      exact (apply_ite Except.ok _ _ _).symm

/-- Either every element of a list stands for a double, or there is a first one that does not. -/
theorem standsFor_cases (items : List Value) :
    (∃ xs, List.Forall₂ StandsFor items xs) ∨
      ∃ before xs item after, items = before ++ item :: after ∧
        List.Forall₂ StandsFor before xs ∧ ¬ ∃ x, StandsFor item x := by
  induction items with
  | nil => exact .inl ⟨[], .nil⟩
  | cons item rest ih =>
      by_cases stands : ∃ x, StandsFor item x
      · obtain ⟨x, stands⟩ := stands
        rcases ih with ⟨xs, all⟩ | ⟨before, xs, other, after, rfl, all, refused⟩
        · exact .inl ⟨x :: xs, .cons stands all⟩
        · exact .inr ⟨item :: before, x :: xs, other, after, rfl, .cons stands all, refused⟩
      · exact .inr ⟨[], [], item, rest, rfl, .nil, stands⟩

theorem extremum_of_refused (which : Extremum) {before : List Value}
    (stand : List.Forall₂ StandsFor before xs) (refused : ¬ ∃ x, StandsFor item x)
    (after : List Value) :
    ∃ fault, extremum which (.list (before ++ item :: after)) = .error fault ∧
      fault.NamesElement before.length := by
  rcases coerce_cases before.length item with stands | ⟨fault, failed, named⟩
  · exact absurd stands refused
  · rw [← Nat.zero_add before.length] at failed
    refine ⟨fault, ?_, named⟩
    simp only [extremum, Value.list?, coerceFrom_of_refused stand failed, bind, Except.bind]

theorem plain_eq_ok {filter : Value → Except Fault Value} {arguments : List Value} {answer : Value} :
    plain filter value arguments = .ok answer ↔ arguments = [] ∧ filter value = .ok answer := by
  cases arguments with
  | nil => cases given : filter value <;> simp [plain, given]
  | cons first rest => simp [plain]

theorem plain_of_error {filter : Value → Except Fault Value} (failed : filter value = .error fault) :
    plain filter value [] = .error fault.message := by
  simp [plain, failed]

theorem forall₂_of_standsFor (stand : ∀ item ∈ items, ∃ x, StandsFor item x) :
    ∃ xs, List.Forall₂ StandsFor items xs := by
  rcases standsFor_cases items with all | ⟨before, _, item, after, rfl, -, refused⟩
  · exact all
  · exact absurd (stand item (List.mem_append_right _ List.mem_cons_self)) refused

theorem extremum_eq_ok_iff :
    (∃ answer, extremum which value = .ok answer) ↔
      ∃ items, value = .list items ∧ items ≠ [] ∧ ∀ item ∈ items, ∃ x, StandsFor item x := by
  constructor
  · rintro ⟨answer, given⟩
    cases value with
    | list items =>
        refine ⟨items, rfl, ?_, ?_⟩
        · rintro rfl
          cases given
        · rcases standsFor_cases items with ⟨xs, all⟩ | ⟨before, xs, item, after, rfl, all, refused⟩
          · intro item listed
            obtain ⟨x, -, stands⟩ := exists_right all listed
            exact ⟨x, stands⟩
          · obtain ⟨fault, failed, -⟩ := extremum_of_refused which all refused after
            rw [failed] at given
            cases given
    | null | bool _ | number _ | string _ | map _ => cases given
  · rintro ⟨items, rfl, some, stand⟩
    obtain ⟨xs, all⟩ := forall₂_of_standsFor stand
    obtain ⟨_, answer, -, -, given⟩ := extremum_of_standsFor which all some
    exact ⟨answer, given⟩

/-- The name under which the filter is registered. -/
def Extremum.name : Extremum → String
  | .smallest => "min"
  | .largest => "max"

theorem find?_builtins_name (which : Extremum) :
    Bindings.find? which.name builtins = some (plain (extremum which)) := by
  cases which <;> rfl

theorem extremum_denotes_extreme (which : Extremum) :
    ∃ filter, Bindings.find? which.name builtins = some filter ∧
      (∀ value arguments, (∃ answer, filter value arguments = .ok answer) ↔
        arguments = [] ∧ ∃ items, value = .list items ∧ items ≠ [] ∧
          ∀ item ∈ items, ∃ x, StandsFor item x) ∧
      (∀ before item after, (∀ earlier ∈ before, ∃ x, StandsFor earlier x) →
        (¬ ∃ x, StandsFor item x) →
        ∃ reason, filter (.list (before ++ item :: after)) [] =
          .error ("element " ++ toString before.length ++ " is not " ++ reason)) ∧
      ∀ items xs, items ≠ [] → List.Forall₂ StandsFor items xs →
        ∃ best answer, filter (.list items) [] = .ok answer ∧ which.IsExtreme best xs ∧
          GivenBack xs best answer := by
  refine ⟨_, find?_builtins_name which, ?succeeds, ?blames, ?denotes⟩
  case succeeds =>
    intro value arguments
    simp only [plain_eq_ok, exists_and_left, extremum_eq_ok_iff]
  case blames =>
    intro before item after stand refused
    obtain ⟨xs, all⟩ := forall₂_of_standsFor stand
    obtain ⟨fault, failed, reason, message⟩ := extremum_of_refused which all refused after
    exact ⟨reason, by rw [plain_of_error failed, message]⟩
  case denotes =>
    intro items xs some stand
    obtain ⟨best, answer, extreme, back, given⟩ := extremum_of_standsFor which stand some
    exact ⟨best, answer, plain_eq_ok.mpr ⟨rfl, given⟩, extreme, back⟩

/-- Sizes in three spellings, and one that is none. -/
theorem extremum_denotes_extreme_sizes :
    let half := Binary64.ofRatio false 17 2
    let sizes := [.string " 7 ", .float half, .ofInt 12]
    let xs := [Binary64.ofInt 7, half, Binary64.ofInt 12]
    List.Forall₂ StandsFor sizes xs ∧ (¬ ∃ x, StandsFor (.bool true) x) ∧
      ∃ filter, Bindings.find? "min" builtins = some filter ∧
        (∃ best answer, filter (.list sizes) [] = .ok answer ∧
          Extremum.smallest.IsExtreme best xs ∧ GivenBack xs best answer) ∧
        (¬ ∃ answer, filter (.list sizes) [.null] = .ok answer) ∧
        ∃ reason, filter (.list (sizes ++ [.bool true, .null])) [] =
          .error ("element 3 is not " ++ reason) := by
  intro half sizes xs
  have stand : List.Forall₂ StandsFor sizes xs :=
    .cons (.integerText (by decide +kernel) (by decide)) <| .cons (.float (by decide +kernel)) <|
      .cons (.integer 12) .nil
  have refused : ¬ ∃ x, StandsFor (.bool true) x := nofun
  obtain ⟨filter, registered, succeeds, blames, denotes⟩ := extremum_denotes_extreme .smallest
  refine ⟨stand, refused, filter, registered, denotes sizes xs (by simp [sizes]) stand, ?_, ?_⟩
  · intro given
    exact absurd ((succeeds _ _).mp given).1 (by simp)
  · have place : "element " ++ toString sizes.length ++ " is not " = "element 3 is not " := by
      decide
    rw [← place]
    exact blames sizes (.bool true) [.null]
      (fun _ listed => (exists_right stand listed).imp fun _ => And.right) refused

/-- Two to the 63rd is no integer of 64 bits, but is given back as one. -/
theorem extremum_exceeds_integers :
    let top := Binary64.ofInt (2 ^ 63)
    StandsFor (.float top) top ∧
      (∃ filter, Bindings.find? "max" builtins = some filter ∧
        filter (.list [.float top]) [] = .ok (.number (.integer Int64.maxValue))) ∧
      (Int64.maxValue.toInt : ℚ) ≠ top.value := by
  intro top
  have same : top.value = (2 ^ 63 : Int) := Binary64.value_eq_intCast.mpr (by decide +kernel)
  have stands : StandsFor (.float top) top := .float (by decide +kernel)
  have whole : top.isIntegral = true := by decide +kernel
  have range : inIntegerRange top = true := by decide +kernel
  have nearest : nearestInteger top = Int64.maxValue := by decide +kernel
  refine ⟨stands, ⟨_, find?_builtins_name .largest, plain_eq_ok.mpr ⟨rfl, ?_⟩⟩, ?_⟩
  · simp [extremum, Value.list?, coerceFrom_of_standsFor (.cons stands .nil), bind, Except.bind,
      pure, Except.pure, whole, range, nearest]
  · rw [same]
    norm_cast

end StagePlan.Filters
