import StagePlan.Proofs.Rendering.NameMarker

namespace StagePlan.Markup

open Expression

/-!
Cutting the text of a module tag at its arguments. Where an argument begins depends on what stands
right before it and on the text up to its equals sign, and on nothing else, be it a string literal
or not.
-/

variable {c : Char} {name next text rest behind gap suffix : List Char} {free : Bool}
  {pieces more : List (List Char × List Char)}

theorem isNameChar_of_separates (separator : separates c = true) : isNameChar c = false := by
  rw [Bool.eq_false_iff]
  intro continues
  rw [separates, isBlank_of_isNameChar continues, Bool.false_or, decide_eq_true_eq] at separator
  subst separator
  exact absurd continues (by decide)

theorem isNameStart_of_separates (separator : separates c = true) : isNameStart c = false := by
  rw [Bool.eq_false_iff]
  intro starts
  exact Bool.eq_false_iff.mp (isNameChar_of_separates separator) (isNameChar_of_isNameStart starts)

theorem ne_equals_of_separates (separator : separates c = true) : c ≠ '=' := by
  rintro rfl
  exact absurd separator (by decide)

theorem separates_of_isBlank (blank : Text.isBlank c = true) : separates c = true := by
  simp [separates, blank]

/-- A name, an equals sign somewhere behind it, and no second one right after that. -/
theorem argumentAt?_eq_some :
    argumentAt? text = some (name, rest) ↔
      isName name = true ∧ rest.head? ≠ some '=' ∧
        ∃ blanks : List Char, (∀ c ∈ blanks, Text.isBlank c = true) ∧
          text = name ++ (blanks ++ '=' :: rest) := by
  constructor
  · intro found
    cases text with
    | nil => cases found
    | cons c text =>
        rw [argumentAt?] at found
        split at found
        · rename_i starts
          rw [List.span_eq_takeWhile_dropWhile] at found
          dsimp only at found
          split at found
          · cases found
          · rename_i plain signed
            cases found
            refine ⟨?named, ?single, (text.dropWhile isNameChar).takeWhile Text.isBlank,
              fun _ => List.mem_takeWhile_imp, ?whole⟩
            case named => simp [isName, starts, List.all_takeWhile]
            case single =>
              intro first
              obtain ⟨others, rfl⟩ := List.head?_eq_some_iff.mp first
              exact plain others rfl
            case whole =>
              rw [← signed, Text.trimStart, List.takeWhile_append_dropWhile, List.cons_append,
                List.takeWhile_append_dropWhile]
          · cases found
        · cases found
  · rintro ⟨named, single, blanks, blank, rfl⟩
    cases name with
    | nil => cases named
    | cons c tail =>
        simp only [isName, Bool.and_eq_true, List.all_eq_true] at named
        have ended : (blanks ++ '=' :: rest).head?.any isNameChar = false := by
          cases blanks with
          | nil => rfl
          | cons b others =>
              exact isNameChar_of_separates (separates_of_isBlank (blank b List.mem_cons_self))
        have trimmed : Text.trimStart (blanks ++ '=' :: rest) = '=' :: rest :=
          Text.trimStart_append blank (by simp; decide)
        rw [List.cons_append, argumentAt?, if_pos named.1, span_append named.2 ended]
        dsimp only
        rw [trimmed]
        split
        · rename_i again
          cases again
          exact absurd rfl single
        · rename_i same
          cases same
          rfl
        · rename_i other
          exact absurd rfl (other rest)

theorem argumentAt?_append_of_some (found : argumentAt? text = some (name, rest))
    (unequal : behind.head? ≠ some '=') : argumentAt? (text ++ behind) = some (name, rest ++ behind) := by
  obtain ⟨named, single, blanks, blank, rfl⟩ := argumentAt?_eq_some.mp found
  refine argumentAt?_eq_some.mpr ⟨named, ?_, blanks, blank, by simp⟩
  cases rest with
  | nil => exact unequal
  | cons c rest => exact single

/-- A text that begins with a separator, and not with an equals sign behind blanks. -/
structure IsBreak (behind : List Char) : Prop where
  separated : ∃ c rest, behind = c :: rest ∧ separates c = true
  unequal : (Text.trimStart behind).head? ≠ some '='

theorem IsBreak.head (break_ : IsBreak behind) : behind.head? ≠ some '=' := by
  obtain ⟨c, rest, rfl, separator⟩ := break_.separated
  rintro ⟨rfl⟩
  exact ne_equals_of_separates separator rfl

/-- Behind a break nothing can become an argument that is none. -/
theorem argumentAt?_append_of_none (break_ : IsBreak behind) (none_ : argumentAt? text = none) :
    argumentAt? (text ++ behind) = none := by
  rw [Option.eq_none_iff_forall_ne_some]
  rintro ⟨name, rest⟩ found
  obtain ⟨named, single, blanks, blank, whole⟩ := argumentAt?_eq_some.mp found
  obtain ⟨c, others, begins, separator⟩ := break_.separated
  rw [← List.append_assoc] at whole
  rcases List.append_eq_append_iff.mp whole with ⟨left, before, sign⟩ | ⟨left, before, sign⟩
  · -- the equals sign stands behind the break: all between is blank
    have blankLeft : ∀ d ∈ left, Text.isBlank d = true := by
      rcases List.append_eq_append_iff.mp before with ⟨inner, within, same⟩ | ⟨inner, within, same⟩
      · exact fun d among => blank d (same ▸ List.mem_append_right _ among)
      · cases inner with
        | nil => exact fun d among => blank d (by rwa [same] at among)
        | cons e inner =>
            rw [sign, same] at begins
            obtain rfl : e = c := (List.cons.inj begins).1
            have continues : isNameChar e = true :=
              isNameChar_of_isName named e (within ▸ List.mem_append_right _ List.mem_cons_self)
            rw [isNameChar_of_separates separator] at continues
            contradiction
    have trimmed := break_.unequal
    rw [sign, Text.trimStart_append blankLeft (by simp; decide)] at trimmed
    exact trimmed rfl
  · cases left with
    | nil => exact absurd (congrArg List.head? sign).symm break_.head
    | cons e left =>
        obtain ⟨rfl, rfl⟩ := List.cons.inj sign
        have within : argumentAt? text = some (name, left) := by
          refine argumentAt?_eq_some.mpr ⟨named, fun first => single ?_, blanks, blank, ?_⟩
          · change (left ++ behind).head? = _
            rw [List.head?_append, first, Option.some_or]
          · rw [before, List.append_assoc]
        rw [none_] at within
        contradiction

/-- The pieces of a text between the places at which arguments begin in it: the first under the given
name, and each of the others under that of its argument. `free` says whether one may begin at once. -/
inductive Cuts : List Char → Bool → List Char → List (List Char × List Char) → Prop
  | ends {name : List Char} {free : Bool} : Cuts name free [] [(name, [])]
  | begins {name next text rest : List Char} {pieces : List (List Char × List Char)} :
      argumentAt? text = some (next, rest) → Cuts next false rest pieces →
      Cuts name true text ((name, []) :: pieces)
  | passes {name text before : List Char} {free : Bool} {c : Char}
      {others : List (List Char × List Char)} :
      (free = true → argumentAt? (c :: text) = none) →
      Cuts name (separates c) text ((name, before) :: others) →
      Cuts name free (c :: text) ((name, c :: before) :: others)

theorem length_of_argumentAt? (found : argumentAt? text = some (name, rest)) :
    rest.length < text.length := by
  obtain ⟨_, _, blanks, _, rfl⟩ := argumentAt?_eq_some.mp found
  simp only [List.length_append, List.length_cons]
  omega

namespace Cuts

theorem exists_cons (cuts : Cuts name free text pieces) :
    ∃ before others, pieces = (name, before) :: others := by
  cases cuts with
  | ends => exact ⟨_, _, rfl⟩
  | begins => exact ⟨_, _, rfl⟩
  | passes => exact ⟨_, _, rfl⟩

theorem cutArguments {fuel : Nat} (cuts : Cuts name free text pieces) (enough : text.length < fuel) :
    (name, (Markup.cutArguments fuel free text).1) :: (Markup.cutArguments fuel free text).2 =
      pieces := by
  induction cuts generalizing fuel with
  | ends => cases fuel <;> rfl
  | @begins name next text rest pieces found _ ih =>
      cases fuel with
      | zero => cases enough
      | succ fuel =>
          cases text with
          | nil => cases found
          | cons c text =>
              have shorter := length_of_argumentAt? found
              have later : rest.length < fuel := by omega
              simp only [Markup.cutArguments, if_true, found, ih later]
  | @passes name text before free c others none_ _ ih =>
      cases fuel with
      | zero => cases enough
      | succ fuel =>
          have absent : (if free = true then argumentAt? (c :: text) else none) = none := by
            split
            · exact none_ ‹_›
            · rfl
          have later : text.length < fuel := Nat.lt_of_succ_lt_succ enough
          obtain ⟨same, rest⟩ := List.cons.inj (ih later)
          simp only [Markup.cutArguments, absent, rest, (Prod.mk.inj same).2]

theorem unique {others : List (List Char × List Char)} (cuts : Cuts name free text pieces)
    (cuts' : Cuts name free text others) : pieces = others :=
  (cuts.cutArguments (Nat.lt_succ_self _)).symm.trans (cuts'.cutArguments (Nat.lt_succ_self _))

end Cuts

theorem exists_cuts (name text : List Char) (free : Bool) : ∃ pieces, Cuts name free text pieces := by
  induction size : text.length using Nat.strong_induction_on generalizing name text free with
  | _ n ih =>
      cases text with
      | nil => exact ⟨_, .ends⟩
      | cons c text =>
          by_cases none_ : free = true → argumentAt? (c :: text) = none
          · obtain ⟨pieces, later⟩ := ih text.length (by simp [← size]) name text (separates c) rfl
            obtain ⟨before, others, rfl⟩ := later.exists_cons
            exact ⟨_, .passes none_ later⟩
          · obtain ⟨rfl, some_⟩ := Classical.not_imp.mp none_
            obtain ⟨⟨next, rest⟩, found⟩ := Option.ne_none_iff_exists'.mp some_
            have shorter := length_of_argumentAt? found
            obtain ⟨pieces, later⟩ := ih rest.length (by omega) next rest false rfl
            exact ⟨_, .begins found later⟩

/-- The pieces with a text behind the last one. -/
def extended (gap : List Char) : List (List Char × List Char) → List (List Char × List Char)
  | [] => []
  | [(name, text)] => [(name, text ++ gap)]
  | piece :: others => piece :: extended gap others

theorem extended_cons (gap : List Char) {piece : List Char × List Char} (some_ : pieces ≠ []) :
    extended gap (piece :: pieces) = piece :: extended gap pieces := by
  cases pieces with
  | nil => contradiction
  | cons => rfl

theorem argumentAt?_of_separates (separator : separates c = true) (text : List Char) :
    argumentAt? (c :: text) = none := by
  rw [argumentAt?, if_neg (by simp [isNameStart_of_separates separator])]

theorem trimStart_of_argumentAt? (found : argumentAt? text = some (name, rest)) :
    Text.trimStart text = text ∧ text.head? ≠ some '=' := by
  obtain ⟨named, _, blanks, _, rfl⟩ := argumentAt?_eq_some.mp found
  cases name with
  | nil => cases named
  | cons c tail =>
      have continues := isNameChar_of_isName named c List.mem_cons_self
      have solid := isBlank_of_isNameChar continues
      refine ⟨by simp [Text.trimStart, solid], ?_⟩
      rintro ⟨rfl⟩
      exact absurd continues (by decide)

/-- Separators with an argument behind them are a break. -/
theorem isBreak_of_separates (some_ : gap ≠ []) (separators : ∀ c ∈ gap, separates c = true)
    (found : argumentAt? suffix = some (next, rest)) : IsBreak (gap ++ suffix) where
  separated := by
    obtain ⟨c, others, rfl⟩ := List.exists_cons_of_ne_nil some_
    exact ⟨c, others ++ suffix, rfl, separators c List.mem_cons_self⟩
  unequal := by
    clear some_
    induction gap with
    | nil =>
        obtain ⟨same, unequal⟩ := trimStart_of_argumentAt? found
        rwa [List.nil_append, same]
    | cons c others ih =>
        obtain ⟨separator, separators⟩ := List.forall_mem_cons.mp separators
        rw [List.cons_append, Text.trimStart, List.dropWhile_cons]
        split
        · exact ih separators
        · rintro ⟨rfl⟩
          exact ne_equals_of_separates separator rfl

namespace Cuts

/-- Separators ahead of an argument belong to the piece before it. -/
theorem ofSeparators (separators : ∀ c ∈ gap, separates c = true) (ready : gap = [] → free = true)
    (found : argumentAt? suffix = some (next, rest)) (inner : Cuts next false rest more) :
    Cuts name free (gap ++ suffix) ((name, gap) :: more) := by
  induction gap generalizing free with
  | nil =>
      rw [ready rfl]
      exact .begins found inner
  | cons c others ih =>
      obtain ⟨separator, separators⟩ := List.forall_mem_cons.mp separators
      exact .passes (fun _ => argumentAt?_of_separates separator _)
        (ih separators fun _ => separator)

/-- A text and an argument behind separators are cut each for itself. -/
theorem attach (cuts : Cuts name free text pieces) (some_ : gap ≠ [])
    (separators : ∀ c ∈ gap, separates c = true)
    (found : argumentAt? suffix = some (next, rest)) (inner : Cuts next false rest more) :
    Cuts name free (text ++ (gap ++ suffix)) (extended gap pieces ++ more) := by
  have break_ := isBreak_of_separates some_ separators found
  induction cuts with
  | ends => exact Cuts.ofSeparators separators (fun none_ => absurd none_ some_) found inner
  | begins starts later ih =>
      obtain ⟨before, others, rfl⟩ := later.exists_cons
      exact .begins (argumentAt?_append_of_some starts break_.head) ih
  | @passes name text before free c others none_ _ ih =>
      have absent : free = true → argumentAt? (c :: (text ++ (gap ++ suffix))) = none :=
        fun free => argumentAt?_append_of_none break_ (none_ free)
      cases others with
      | nil => exact .passes absent ih
      | cons => exact .passes absent ih

end Cuts

/-- No argument begins behind a separator of the text. -/
def Unbroken (text : List Char) : Prop :=
  ∀ front c back, text = front ++ c :: back → separates c = true → argumentAt? back = none

theorem unbroken_nil : Unbroken [] := by
  rintro front c back whole
  cases front <;> cases whole

theorem unbroken_cons : Unbroken (c :: text) ↔
    (separates c = true → argumentAt? text = none) ∧ Unbroken text := by
  constructor
  · intro unbroken
    exact ⟨unbroken [] c text rfl, fun front d back whole =>
      unbroken (c :: front) d back (by rw [whole, List.cons_append])⟩
  · rintro ⟨here, later⟩ front d back whole separator
    cases front with
    | nil =>
        obtain ⟨rfl, rfl⟩ := List.cons.inj whole
        exact here separator
    | cons e front =>
        obtain ⟨rfl, rfl⟩ := List.cons.inj whole
        exact later front d back rfl separator

instance instDecidableUnbroken : (text : List Char) → Decidable (Unbroken text)
  | [] => isTrue unbroken_nil
  | _ :: text =>
      have := instDecidableUnbroken text
      decidable_of_iff _ unbroken_cons.symm

/-- The first piece of a text: all of it, or what stands before the first argument in it. -/
inductive FirstPiece (name : List Char) (free : Bool) (text : List Char) :
    List (List Char × List Char) → Prop
  | whole : Unbroken text → (free = true → argumentAt? text = none) →
      FirstPiece name free text [(name, text)]
  | before {before suffix next rest : List Char} {more : List (List Char × List Char)} :
      text = before ++ suffix → argumentAt? suffix = some (next, rest) →
      Cuts next false rest more → Unbroken before → (free = true → argumentAt? before = none) →
      (before = [] → free = true) → (∀ c ∈ before.getLast?, separates c = true) →
      FirstPiece name free text ((name, before) :: more)

namespace Cuts

theorem first (cuts : Cuts name free text pieces) : FirstPiece name free text pieces := by
  induction cuts with
  | ends => exact .whole unbroken_nil fun _ => rfl
  | begins found later =>
      exact .before rfl found later unbroken_nil (fun _ => rfl) (fun _ => rfl) (by simp)
  | @passes name text before free c others none_ later ih =>
      cases ih with
      | whole unbroken closed => exact .whole (unbroken_cons.mpr ⟨closed, unbroken⟩) none_
      | @before _ suffix next rest _ split found later unbroken closed ready last =>
          refine .before (by rw [split, List.cons_append]) found later
            (unbroken_cons.mpr ⟨closed, unbroken⟩) (fun free => ?none) (by simp) ?last
          case none =>
            -- an argument within the piece would be one in the text
            have whole := none_ free
            rw [split] at whole
            rw [Option.eq_none_iff_forall_ne_some]
            rintro ⟨inner, behind⟩ inside
            rw [← List.cons_append, argumentAt?_append_of_some inside
              (trimStart_of_argumentAt? found).2] at whole
            contradiction
          case last =>
            intro d ends
            cases before with
            | nil =>
                obtain rfl : c = d := by simpa using ends
                exact ready rfl
            | cons e before => exact last d (by rwa [List.getLast?_cons_cons] at ends)

/-- A text in which no argument begins is one piece. -/
theorem whole (unbroken : Unbroken text) (closed : free = true → argumentAt? text = none) :
    Cuts name free text [(name, text)] := by
  induction text generalizing free with
  | nil => exact .ends
  | cons c text ih =>
      obtain ⟨here, later⟩ := unbroken_cons.mp unbroken
      exact .passes closed (ih later here)

end Cuts

end StagePlan.Markup
