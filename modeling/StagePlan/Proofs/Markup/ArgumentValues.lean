import Mathlib.Data.List.Basic
import StagePlan.Proofs.Markup.ArgumentCuts
import StagePlan.Proofs.Rendering.WholeExpression

namespace StagePlan

/-!
The value of an argument in a module tag: what is left of the text behind its equals sign without the
blanks around it and the commas behind it.
-/

namespace Text

variable {text : List Char} {class? : Char → Bool}

theorem trimEndBy_cases (class? : Char → Bool) (text : List Char) :
    ∃ tail, text = trimEndBy class? text ++ tail ∧ (∀ c ∈ tail, class? c = true) ∧
      ∀ c ∈ (trimEndBy class? text).getLast?, class? c = false := by
  refine ⟨(text.reverse.takeWhile class?).reverse, ?whole, ?tail, ?last⟩
  case whole =>
    rw [trimEndBy, ← List.reverse_append, List.takeWhile_append_dropWhile, List.reverse_reverse]
  case tail => exact fun c among => List.mem_takeWhile_imp (List.mem_reverse.mp among)
  case last =>
    intro c ends
    rw [trimEndBy, List.getLast?_reverse] at ends
    have none_ := List.head?_dropWhile_not class? text.reverse
    rw [ends] at none_
    simpa using none_

theorem trimEndBy_of_last (last : ∀ c ∈ text.getLast?, class? c = false) {tail : List Char}
    (dropped : ∀ c ∈ tail, class? c = true) : trimEndBy class? (text ++ tail) = text := by
  rw [trimEndBy, List.reverse_append, List.dropWhile_append_of_pos fun c among =>
    dropped c (List.mem_reverse.mp among)]
  cases turned : text.reverse with
  | nil => exact (List.reverse_eq_nil_iff.mp turned).symm
  | cons c front =>
      have ends : text.getLast? = some c := by rw [← List.head?_reverse, turned]; rfl
      rw [List.dropWhile_cons_of_neg (by simp [last c ends]), ← turned, List.reverse_reverse]

/-- A text is what trimming leaves of it, with blanks around that. -/
theorem trim_cases (text : List Char) :
    ∃ lead tail, text = lead ++ (trim text ++ tail) ∧ (∀ c ∈ lead, isBlank c = true) ∧
      (∀ c ∈ tail, isBlank c = true) ∧ (∀ c ∈ (trim text).head?, isBlank c = false) ∧
      ∀ c ∈ (trim text).getLast?, isBlank c = false := by
  obtain ⟨tail, whole, blank, last⟩ := trimEndBy_cases isBlank (trimStart text)
  refine ⟨text.takeWhile isBlank, tail, ?_, fun c => List.mem_takeWhile_imp, blank,
    isBlank_head_trim, last⟩
  change _ = _ ++ (trimEndBy isBlank (trimStart text) ++ tail)
  rw [← whole, trimStart, List.takeWhile_append_dropWhile]

end Text

namespace Markup

open Expression

variable {c : Char} {text gap : List Char}

/-- A text that neither begins nor ends with a blank, and does not end with a comma. -/
structure IsValue (text : List Char) : Prop where
  some_ : text ≠ []
  first : ∀ c ∈ text.head?, Text.isBlank c = false
  last : ∀ c ∈ text.getLast?, separates c = false

instance : Decidable (IsValue text) :=
  decidable_of_iff (text ≠ [] ∧ text.head?.all (!Text.isBlank ·) ∧
    text.getLast?.all (!separates ·)) <| by
    simp only [Option.all_eq_true, Bool.not_eq_true']
    exact ⟨fun ⟨some_, first, last⟩ => ⟨some_, first, last⟩,
      fun ⟨some_, first, last⟩ => ⟨some_, first, last⟩⟩

/-- Commas with blanks around them, any of which may be missing. -/
def Spacing (gap : List Char) : Prop :=
  ∃ before commas after, gap = before ++ (commas ++ after) ∧
    (∀ c ∈ before, Text.isBlank c = true) ∧ (∀ c ∈ commas, c = ',') ∧
    ∀ c ∈ after, Text.isBlank c = true

theorem Spacing.nil : Spacing [] :=
  ⟨[], [], [], rfl, by simp, by simp, by simp⟩

theorem Spacing.blank : Spacing [' '] :=
  ⟨[' '], [], [], rfl, List.forall_mem_singleton.mpr rfl, by simp, by simp⟩

theorem Spacing.comma : Spacing [',', ' '] :=
  ⟨[], [','], [' '], rfl, by simp, by simp, List.forall_mem_singleton.mpr rfl⟩

theorem Spacing.separators (spacing : Spacing gap) : ∀ c ∈ gap, separates c = true := by
  obtain ⟨before, commas, after, rfl, blankBefore, commas_, blankAfter⟩ := spacing
  intro c among
  rcases List.mem_append.mp among with front | among
  · exact separates_of_isBlank (blankBefore c front)
  · rcases List.mem_append.mp among with comma | back
    · rw [commas_ c comma]
      decide
    · exact separates_of_isBlank (blankAfter c back)

theorem isBlank_of_separates_eq_false (inside : separates c = false) : Text.isBlank c = false :=
  (Bool.or_eq_false_iff.mp inside).1

theorem ne_comma_of_separates_eq_false (inside : separates c = false) : decide (c = ',') = false :=
  (Bool.or_eq_false_iff.mp inside).2

/-- What is taken for the value of an argument, with blanks before it and separators behind it. -/
theorem argumentValue_cases (text : List Char) :
    ∃ lead tail, text = lead ++ (argumentValue text ++ tail) ∧
      (∀ c ∈ lead, Text.isBlank c = true) ∧ (∀ c ∈ tail, separates c = true) ∧
      (∀ c ∈ (argumentValue text).head?, Text.isBlank c = false) ∧
      ((∀ c ∈ tail.head?, c = ',') → ∀ c ∈ (argumentValue text).getLast?, separates c = false) := by
  obtain ⟨lead, after, outer, blankLead, blankAfter, _, _⟩ := Text.trim_cases text
  obtain ⟨commas, middle, commas_, lastMiddle⟩ :=
    Text.trimEndBy_cases (· = ',') (Text.trim text)
  obtain ⟨front, back, inner, blankFront, blankBack, head, last⟩ :=
    Text.trim_cases (Text.trimEndBy (· = ',') (Text.trim text))
  refine ⟨lead ++ front, back ++ (commas ++ after), ?whole, ?lead, ?tail, head, ?last⟩
  case whole =>
    have regrouped : lead ++ front ++ (argumentValue text ++ (back ++ (commas ++ after))) =
        lead ++ ((front ++ (argumentValue text ++ back) ++ commas) ++ after) := by simp
    rw [regrouped]
    change text = lead ++ ((front ++ (Text.trim _ ++ back) ++ commas) ++ after)
    rw [← inner, ← middle, ← outer]
  case lead =>
    exact fun c among => (List.mem_append.mp among).elim (blankLead c) (blankFront c)
  case tail =>
    intro c among
    rcases List.mem_append.mp among with first | among
    · exact separates_of_isBlank (blankBack c first)
    · rcases List.mem_append.mp among with comma | behind
      · simp [separates, of_decide_eq_true (commas_ c comma)]
      · exact separates_of_isBlank (blankAfter c behind)
  case last =>
    intro commaFirst c ends
    have solid := last c ends
    -- with no blank behind it, the value ends where the commas begin
    have none_ : back = [] := by
      cases back with
      | nil => rfl
      | cons b others =>
          have blank := blankBack b List.mem_cons_self
          rw [commaFirst b rfl] at blank
          exact absurd blank (by decide)
    have some_ : argumentValue text ≠ [] := List.ne_nil_of_mem (List.mem_of_getLast? ends)
    have ends' : (Text.trimEndBy (· = ',') (Text.trim text)).getLast? = some c := by
      rw [inner, none_, List.append_nil]
      exact (List.getLast?_append_of_ne_nil front some_).trans ends
    simp [separates, solid, lastMiddle c ends']

theorem IsValue.solid (isValue : IsValue text) : ∀ c ∈ text.getLast?, Text.isBlank c = false :=
  fun c ends => isBlank_of_separates_eq_false (isValue.last c ends)

theorem around_of_blanks {lead after : List Char} (blankLead : ∀ c ∈ lead, Text.isBlank c = true)
    (blankAfter : ∀ c ∈ after, Text.isBlank c = true) (core : List Char) :
    Text.Around core (lead ++ (core ++ after)) := by
  refine ⟨lead, after, ?_, by rw [List.append_assoc]⟩
  rw [List.all_append, Bool.and_eq_true, List.all_eq_true, List.all_eq_true]
  exact ⟨blankLead, blankAfter⟩

theorem trim_of_isValue {lead after : List Char} (isValue : IsValue text)
    (blankLead : ∀ c ∈ lead, Text.isBlank c = true) (blankAfter : ∀ c ∈ after, Text.isBlank c = true) :
    Text.trim (lead ++ (text ++ after)) = text :=
  Text.trim_of_around (around_of_blanks blankLead blankAfter text) isValue.some_ isValue.first
    isValue.solid

/-- The value of an argument is told from the blanks before it and the spacing behind it. -/
theorem argumentValue_eq {lead : List Char} (isValue : IsValue text)
    (blankLead : ∀ c ∈ lead, Text.isBlank c = true) (spacing : Spacing gap) :
    argumentValue (lead ++ (text ++ gap)) = text := by
  obtain ⟨before, commas, after, rfl, blankBefore, commas_, blankAfter⟩ := spacing
  have alone : Text.trim (text ++ before) = text :=
    trim_of_isValue isValue (List.forall_mem_nil _) blankBefore
  unfold argumentValue
  cases commas with
  | nil =>
      have blank : ∀ c ∈ before ++ after, Text.isBlank c = true :=
        fun c among => (List.mem_append.mp among).elim (blankBefore c) (blankAfter c)
      have values : ∀ c ∈ text.getLast?, decide (c = ',') = false :=
        fun c ends => ne_comma_of_separates_eq_false (isValue.last c ends)
      have kept := Text.trimEndBy_of_last values (List.forall_mem_nil _)
      rw [List.append_nil] at kept
      rw [List.nil_append, trim_of_isValue isValue blankLead blank, kept]
      simpa using trim_of_isValue isValue (List.forall_mem_nil _) (List.forall_mem_nil _)
  | cons comma commas =>
      -- the commas are what trimming leaves at the end, and then they go
      have solid : ∀ c ∈ (text ++ before ++ comma :: commas).getLast?, Text.isBlank c = false := by
        intro c ends
        rw [List.getLast?_append_of_ne_nil _ (by simp)] at ends
        rw [commas_ c (List.mem_of_getLast? ends)]
        decide
      have first : ∀ c ∈ (text ++ before ++ comma :: commas).head?, Text.isBlank c = false := by
        obtain ⟨d, rest, rfl⟩ := List.exists_cons_of_ne_nil isValue.some_
        exact isValue.first
      have core : Text.trim (lead ++ (text ++ (before ++ (comma :: commas ++ after)))) =
          text ++ before ++ comma :: commas := by
        have around := around_of_blanks blankLead blankAfter (text ++ before ++ comma :: commas)
        exact Text.trim_of_around (by simpa using around) (by simp) first solid
      have spaced : ∀ c ∈ (text ++ before).getLast?, decide (c = ',') = false := by
        intro c ends
        rw [List.getLast?_append] at ends
        cases back : before.getLast? with
        | none =>
            rw [back, Option.none_or] at ends
            exact ne_comma_of_separates_eq_false (isValue.last c ends)
        | some d =>
            rw [back, Option.some_or] at ends
            cases ends
            rw [decide_eq_false_iff_not]
            rintro rfl
            exact absurd (blankBefore _ (List.mem_of_getLast? back)) (by decide)
      rw [core, Text.trimEndBy_of_last spaced (by simpa using commas_), alone]

theorem argumentValue_of_spacing (spacing : Spacing gap) : argumentValue gap = [] := by
  obtain ⟨before, commas, after, rfl, blankBefore, commas_, blankAfter⟩ := spacing
  unfold argumentValue
  cases commas with
  | nil =>
      have none_ : Text.trimStart (before ++ after) = [] :=
        List.dropWhile_eq_nil_iff.mpr fun c among =>
          (List.mem_append.mp among).elim (blankBefore c) (blankAfter c)
      have trimmed : Text.trim (before ++ ([] ++ after)) = [] := congrArg Text.trimEnd none_
      rw [trimmed]
      rfl
  | cons comma commas =>
      have solid : ∀ c ∈ comma :: commas, Text.isBlank c = false := by
        intro c among
        rw [commas_ c among]
        decide
      have core := Text.trim_of_around (around_of_blanks blankBefore blankAfter (comma :: commas))
        (by simp) (fun c first => solid c (List.mem_of_head? first))
        (fun c last => solid c (List.mem_of_getLast? last))
      have gone : Text.trimEndBy (· = ',') ([] ++ comma :: commas) = [] :=
        Text.trimEndBy_of_last (by simp) (by simpa using commas_)
      rw [List.nil_append] at gone
      rw [core, gone]
      rfl

/-- A text that ends in no separator is a value with blanks before it, or nothing at all. -/
theorem exists_value (last : ∀ c ∈ text.getLast?, separates c = false) : text = [] ∨
    ∃ lead value, text = lead ++ value ∧ (∀ c ∈ lead, Text.isBlank c = true) ∧ IsValue value := by
  by_cases none_ : text = []
  · exact .inl none_
  · obtain ⟨d, ends⟩ := Option.isSome_iff_exists.mp (List.getLast?_isSome.mpr none_)
    have some_ : text.dropWhile Text.isBlank ≠ [] := by
      intro blank
      have blankLast := List.dropWhile_eq_nil_iff.mp blank d (List.mem_of_getLast? ends)
      rw [isBlank_of_separates_eq_false (last d ends)] at blankLast
      contradiction
    refine .inr ⟨text.takeWhile Text.isBlank, text.dropWhile Text.isBlank,
      List.takeWhile_append_dropWhile.symm, fun c => List.mem_takeWhile_imp, some_, ?_, ?_⟩
    · intro c first
      have solid := List.head?_dropWhile_not Text.isBlank text
      rw [first] at solid
      simpa using solid
    · have same := List.getLast?_append_of_ne_nil (text.takeWhile Text.isBlank) some_
      rw [List.takeWhile_append_dropWhile] at same
      rwa [← same]

/-- What follows a text that ends in no separator does not count for its value. -/
theorem argumentValue_append (last : ∀ c ∈ text.getLast?, separates c = false)
    (spacing : Spacing gap) : argumentValue (text ++ gap) = argumentValue text := by
  rcases exists_value last with rfl | ⟨lead, value, rfl, blank, isValue⟩
  · exact argumentValue_of_spacing spacing
  · have alone := argumentValue_eq isValue blank .nil
    rw [List.append_nil] at alone
    rw [List.append_assoc, argumentValue_eq isValue blank spacing, alone]

end Markup

end StagePlan
