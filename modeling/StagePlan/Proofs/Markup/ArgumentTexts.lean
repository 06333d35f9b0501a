import StagePlan.Proofs.Markup.ArgumentValues

namespace StagePlan

/-!
The texts that calls have for the arguments of module tags. An argument comes out as it is written
if all places in its text that look like arguments are written as calls write them; where one is not,
be it within a string literal, its text is another one.
-/

namespace Markup

open Expression

variable {c d : Char} {name next text rest gap suffix found expected module : List Char}
  {pieces more : List (List Char × List Char)}

/-- Texts that have different characters at some place, and are the same before it. -/
def Parts (found expected : List Char) : Prop :=
  ∃ front c d rest others, found = front ++ c :: rest ∧ expected = front ++ d :: others ∧ c ≠ d

namespace Parts

theorem ne (parts : Parts found expected) : found ≠ expected := by
  obtain ⟨front, c, d, rest, others, rfl, rfl, different⟩ := parts
  intro same
  exact different (List.cons.inj (List.append_cancel_left same)).1

theorem here (different : c ≠ d) (rest others : List Char) : Parts (c :: rest) (d :: others) :=
  ⟨[], c, d, rest, others, rfl, rfl, different⟩

theorem behind (parts : Parts found expected) (front : List Char) :
    Parts (front ++ found) (front ++ expected) := by
  obtain ⟨inner, c, d, rest, others, rfl, rfl, different⟩ := parts
  exact ⟨front ++ inner, c, d, rest, others, by simp, by simp, different⟩

theorem before (parts : Parts found expected) (after after' : List Char) :
    Parts (found ++ after) (expected ++ after') := by
  obtain ⟨front, c, d, rest, others, rfl, rfl, different⟩ := parts
  exact ⟨front, c, d, rest ++ after, others ++ after', by simp, by simp, different⟩

end Parts

/-- An argument as it is written in a call behind what stands before it. -/
def written (name text : List Char) : List Char :=
  ',' :: ' ' :: (name ++ '=' :: text)

theorem written_append (name text after : List Char) :
    written name (text ++ after) = written name text ++ after := by
  simp [written]

theorem Parts.written (parts : Parts found expected) (name : List Char) :
    Parts (written name found) (written name expected) := by
  simpa [Markup.written] using parts.behind (',' :: ' ' :: (name ++ ['=']))

/-- Texts in which all that looks like an argument is written as calls write arguments. -/
inductive Joined : List Char → Prop
  | piece {text : List Char} : IsValue text → Unbroken text → Joined text
  | next {text name rest : List Char} : IsValue text → Unbroken text → isName name = true →
      rest.head? ≠ some '=' → Joined rest → Joined (text ++ written name rest)

/-- What is written is the expected text if a condition holds. Otherwise it parts from that, or
nothing is written. -/
structure Yields (result : Except TagFault (List Char)) (expected : List Char) (kept : Prop) :
    Prop where
  whenever : kept → result = .ok expected
  otherwise : ∀ out, result = .ok out → kept ∧ out = expected ∨ Parts out expected

namespace Yields

variable {first second : Except TagFault (List Char)} {expected' : List Char} {kept kept' : Prop}

theorem eq_ok_iff (yields : Yields first expected kept) : first = .ok expected ↔ kept := by
  constructor
  · intro written_
    rcases yields.otherwise expected written_ with ⟨holds, _⟩ | parts
    · exact holds
    · exact absurd rfl parts.ne
  · exact yields.whenever

theorem append {result : Except TagFault (List Char)} (yields : Yields first expected kept)
    (yields' : Yields second expected' kept')
    (both : ∀ out, result = .ok out ↔
      ∃ front, first = .ok front ∧ ∃ back, second = .ok back ∧ out = front ++ back) :
    Yields result (expected ++ expected') (kept ∧ kept') where
  whenever := by
    rintro ⟨holds, holds'⟩
    exact (both _).mpr ⟨_, yields.whenever holds, _, yields'.whenever holds', rfl⟩
  otherwise out done := by
    obtain ⟨front, before, back, behind, rfl⟩ := (both out).mp done
    rcases yields.otherwise front before with ⟨holds, rfl⟩ | parts
    · rcases yields'.otherwise back behind with ⟨holds', rfl⟩ | parts'
      · exact .inl ⟨⟨holds, holds'⟩, rfl⟩
      · exact .inr (parts'.behind front)
    · exact .inr (parts.before _ _)

end Yields

theorem argumentTexts_cons_eq_ok :
    argumentTexts module ((name, text) :: more) = .ok found ↔
      argumentValue text ≠ [] ∧ ∃ others, argumentTexts module more = .ok others ∧
        found = written name (argumentValue text) ++ others := by
  rw [argumentTexts]
  split
  · rename_i none_
    simp [List.isEmpty_iff.mp none_]
  · rename_i some_
    have value : argumentValue text ≠ [] := fun none_ => some_ (List.isEmpty_iff.mpr none_)
    cases argumentTexts module more with
    | error fault => simp
    | ok others => simp [value, written, eq_comm]

theorem argumentTexts_append_eq_ok :
    argumentTexts module (pieces ++ more) = .ok found ↔
      ∃ front, argumentTexts module pieces = .ok front ∧
        ∃ back, argumentTexts module more = .ok back ∧ found = front ++ back := by
  induction pieces generalizing found with
  | nil => simp [argumentTexts, eq_comm]
  | cons piece others ih =>
      obtain ⟨name, text⟩ := piece
      simp only [List.cons_append, argumentTexts_cons_eq_ok, ih]
      constructor
      · rintro ⟨value, _, ⟨front, before, back, behind, rfl⟩, rfl⟩
        exact ⟨_, ⟨value, front, before, rfl⟩, back, behind, (List.append_assoc ..).symm⟩
      · rintro ⟨_, ⟨value, front, before, rfl⟩, back, behind, rfl⟩
        exact ⟨value, _, ⟨front, before, back, behind, rfl⟩, List.append_assoc ..⟩

theorem last_of_split {before : List Char} (split : text = before ++ suffix)
    (starts : argumentAt? suffix = some (next, rest))
    (last : ∀ c ∈ text.getLast?, separates c = false) : ∀ c ∈ rest.getLast?, separates c = false := by
  obtain ⟨_, _, blanks, _, rfl⟩ := argumentAt?_eq_some.mp starts
  have regrouped : text = (before ++ (next ++ (blanks ++ ['=']))) ++ rest := by simp [split]
  intro c ends
  refine last c ?_
  rw [regrouped, List.getLast?_append_of_ne_nil _ (List.ne_nil_of_mem (List.mem_of_getLast? ends))]
  exact ends

/-- A gap behind the last argument does not matter. -/
theorem argumentTexts_extended {free : Bool} (cuts : Cuts name free text pieces)
    (last : ∀ c ∈ text.getLast?, separates c = false) (spacing : Spacing gap) :
    argumentTexts module (extended gap pieces) = .ok found ↔
      argumentTexts module pieces = .ok found := by
  induction pieces generalizing name free text found with
  | nil => rfl
  | cons piece others ih =>
      cases cuts.first with
      | whole =>
          rw [extended, argumentTexts_cons_eq_ok, argumentTexts_cons_eq_ok,
            argumentValue_append last spacing]
      | @before before suffix next rest _ split starts later =>
          obtain ⟨inner, more, rfl⟩ := later.exists_cons
          have ends := last_of_split split starts last
          rw [extended_cons gap (by simp), argumentTexts_cons_eq_ok, argumentTexts_cons_eq_ok]
          simp only [ih later ends]

/-- Separators ahead of an argument are the ones that a call writes, or its text parts from them. -/
theorem parts_of_separators {tail blanks : List Char} (rest others : List Char)
    (some_ : tail ≠ []) (separators : ∀ c ∈ tail, separates c = true)
    (named : isName next = true) (blank : ∀ c ∈ blanks, Text.isBlank c = true) :
    (tail = [',', ' '] ∧ blanks = []) ∨
      Parts (written next others) (tail ++ (next ++ (blanks ++ '=' :: rest))) := by
  obtain ⟨n, letters, rfl⟩ : ∃ n letters, next = n :: letters := by
    cases next with
    | nil => cases named
    | cons n letters => exact ⟨n, letters, rfl⟩
  have solid : separates n = false := by
    rw [Bool.eq_false_iff]
    intro separator
    have continues := isNameChar_of_isName named n List.mem_cons_self
    rw [isNameChar_of_separates separator] at continues
    contradiction
  have apart {c : Char} (separator : separates c = true) : n ≠ c := by
    rintro rfl
    rw [solid] at separator
    contradiction
  obtain ⟨c, tail, rfl⟩ := List.exists_cons_of_ne_nil some_
  by_cases comma : c = ','
  case neg => exact .inr (Parts.here (Ne.symm comma) _ _)
  subst comma
  rcases tail with _ | ⟨d, tail⟩
  · exact .inr ((Parts.here (Ne.symm (apart (by decide))) _ _).behind [','])
  by_cases space : d = ' '
  case neg => exact .inr ((Parts.here (Ne.symm space) _ _).behind [','])
  subst space
  rcases tail with _ | ⟨e, tail⟩
  · rcases blanks with _ | ⟨b, blanks⟩
    · exact .inl ⟨rfl, rfl⟩
    · have unequal : '=' ≠ b := by
        rintro rfl
        exact absurd (blank '=' List.mem_cons_self) (by decide)
      exact .inr ((Parts.here unequal _ _).behind (',' :: ' ' :: n :: letters))
  · exact .inr ((Parts.here (apart (separators e (by simp))) _ _).behind [',', ' '])

/-- A text that does not end with a separator has none of them behind it. -/
theorem eq_nil_of_separators {tail : List Char}
    (last : ∀ c ∈ (text ++ tail).getLast?, separates c = false)
    (separators : ∀ c ∈ tail, separates c = true) : tail = [] := by
  by_contra some_
  rw [List.getLast?_append_of_ne_nil _ some_] at last
  obtain ⟨c, ends⟩ := Option.isSome_iff_exists.mp (List.getLast?_isSome.mpr some_)
  have solid := last c ends
  rw [separators c (List.mem_of_getLast? ends)] at solid
  contradiction

theorem unbroken_of_append {behind : List Char} (unbroken : Unbroken (text ++ behind))
    (unequal : behind.head? ≠ some '=') : Unbroken text := by
  rintro front c back rfl separator
  have none_ := unbroken front c (back ++ behind) (by simp) separator
  rw [Option.eq_none_iff_forall_ne_some]
  rintro ⟨name, rest⟩ found
  rw [argumentAt?_append_of_some found unequal] at none_
  contradiction

/-- The value of an argument stands at the start of its text, or parts from it. -/
theorem value_leads_or_parts (some_ : argumentValue text ≠ []) :
    (∃ tail, text = argumentValue text ++ tail ∧ (∀ c ∈ tail, separates c = true) ∧
      ((∀ c ∈ tail.head?, c = ',') → IsValue (argumentValue text))) ∨
    ∀ others behind, Parts (argumentValue text ++ others) (text ++ behind) := by
  obtain ⟨lead, tail, whole, blankLead, separators, solid, ends⟩ := argumentValue_cases text
  generalize argumentValue text = value at *
  rcases lead with _ | ⟨b, lead⟩
  · exact .inl ⟨tail, whole, separators, fun commas => ⟨some_, solid, ends commas⟩⟩
  · refine .inr fun others behind => ?_
    obtain ⟨v, rest, rfl⟩ := List.exists_cons_of_ne_nil some_
    have unequal : v ≠ b := by
      rintro rfl
      have blank := blankLead v List.mem_cons_self
      rw [solid v rfl] at blank
      contradiction
    rw [whole]
    exact .here unequal _ _

/-- What is written for an argument is its text, if that is joined as calls join arguments, or else a
text that parts from it. Induction on the pieces of the text. -/
theorem parts_of_cuts (cuts : Cuts name false text pieces)
    (last : ∀ c ∈ text.getLast?, separates c = false)
    (done : argumentTexts module pieces = .ok found) :
    Joined text ∧ found = written name text ∨ Parts found (written name text) := by
  induction pieces generalizing name text found with
  | nil =>
      obtain ⟨_, _, none_⟩ := cuts.exists_cons
      contradiction
  | cons piece more ih =>
      have first := cuts.first
      obtain ⟨label, own⟩ := piece
      obtain ⟨some_, others, behind, rfl⟩ := argumentTexts_cons_eq_ok.mp done
      rw [← written_append]
      have leads := value_leads_or_parts some_
      generalize argumentValue own = value at *
      cases first with
      | whole unbroken =>
          cases behind
          rw [List.append_nil]
          rcases leads with ⟨tail, whole, separators, isValue⟩ | parts
          · rw [whole] at last
            obtain rfl : tail = [] := eq_nil_of_separators last separators
            rw [List.append_nil] at whole
            subst whole
            exact .inl ⟨.piece (isValue (by simp)) unbroken, rfl⟩
          · have same := (parts [] []).written name
            rw [List.append_nil, List.append_nil] at same
            exact .inr same
      | @before _ suffix next rest _ split starts later unbroken _ ready lastOwn =>
          rw [split]
          rcases leads with ⟨tail, whole, separators, isValue⟩ | parts
          case inr => exact .inr ((parts others suffix).written name)
          obtain ⟨named, single, blanks, blank, same⟩ := argumentAt?_eq_some.mp starts
          have behindValue : tail ≠ [] := by
            rintro rfl
            obtain ⟨c, ends⟩ := Option.isSome_iff_exists.mp (List.getLast?_isSome.mpr some_)
            have inside := (isValue (by simp)).last c ends
            rw [List.append_nil] at whole
            rw [lastOwn c (whole ▸ ends)] at inside
            cases inside
          obtain ⟨inner, pieces, rfl⟩ := later.exists_cons
          obtain ⟨_, further, _, rfl⟩ := argumentTexts_cons_eq_ok.mp behind
          rw [← written_append] at behind ⊢
          rw [whole, List.append_assoc, same]
          rcases parts_of_separators rest _ behindValue separators named blank with
            ⟨rfl, rfl⟩ | parts
          · rcases ih later (last_of_split split starts last) behind with ⟨joined, equal⟩ | parts
            · rw [equal]
              have unbrokenValue := unbroken_of_append (whole ▸ unbroken) (by simp)
              exact .inl ⟨.next (isValue (by simp)) unbrokenValue named single joined, rfl⟩
            · exact .inr ((parts.behind value).written name)
          · exact .inr ((parts.behind value).written name)

theorem Joined.texts (joined : Joined text) (module name : List Char) :
    ∃ pieces, Cuts name false text pieces ∧
      argumentTexts module pieces = .ok (written name text) := by
  induction joined generalizing name with
  | @piece text isValue unbroken =>
      have value : argumentValue text = text := by
        simpa using argumentValue_eq isValue (List.forall_mem_nil _) .nil
      refine ⟨_, .whole unbroken (by simp), argumentTexts_cons_eq_ok.mpr ?_⟩
      rw [value]
      exact ⟨isValue.some_, [], rfl, (List.append_nil _).symm⟩
  | @next text label rest isValue unbroken named single _ ih =>
      obtain ⟨pieces, cuts, texts⟩ := ih label
      have starts : argumentAt? (label ++ '=' :: rest) = some (label, rest) :=
        argumentAt?_eq_some.mpr ⟨named, single, [], by simp, rfl⟩
      have value : argumentValue ([] ++ (text ++ [',', ' '])) = text :=
        argumentValue_eq isValue (List.forall_mem_nil _) .comma
      rw [List.nil_append] at value
      refine ⟨_, (Cuts.whole unbroken (by simp)).attach (by simp) Spacing.comma.separators starts cuts,
        argumentTexts_cons_eq_ok.mpr ?_⟩
      rw [value]
      exact ⟨isValue.some_, _, texts, written_append ..⟩

/-- An argument is written with its text exactly if that is joined as calls join arguments. -/
theorem yields_of_cuts (cuts : Cuts name false text pieces)
    (last : ∀ c ∈ text.getLast?, separates c = false) (module : List Char) :
    Yields (argumentTexts module pieces) (written name text) (Joined text) where
  whenever joined := by
    obtain ⟨others, cuts', texts⟩ := joined.texts module name
    rw [cuts.unique cuts', texts]
  otherwise _ done := parts_of_cuts cuts last done

end Markup

end StagePlan
