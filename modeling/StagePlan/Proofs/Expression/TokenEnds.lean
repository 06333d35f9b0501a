import StagePlan.Proofs.Expression.Readers
import StagePlan.Proofs.Expression.Tokens

namespace StagePlan.Expression

/-!
Where tokens end. What follows a text makes no difference to the token at its head, as long as it
begins with a blank or a closing parenthesis and has no quotation marks: then it neither goes on with
the token nor closes a string literal that was left open.
-/

open Reader (IsSound)

/-- What may stand behind an expression. -/
structure Follows (follow : List Char) : Prop where
  head : ∀ c ∈ follow.head?, c = ' ' ∨ c = ')'
  unquoted : ∀ c ∈ follow, c ≠ '"' ∧ c ≠ '\x27'

variable {text follow rest : List Char} {quote c : Char}

namespace Follows

theorem nil : Follows [] :=
  ⟨nofun, nofun⟩

/-- What a token does not go on with, it does not go on with there. -/
theorem of_head {p : Char → Bool} (follows : Follows follow) (blank : p ' ' = false)
    (paren : p ')' = false) : follow.head?.any p = false := by
  cases follow with
  | nil => rfl
  | cons c rest => rcases follows.head c rfl with rfl | rfl <;> assumption

end Follows

theorem readQuotedBody?_cons (plain : c ≠ '\\') :
    readQuotedBody? quote (c :: rest) =
      if c = quote then some ([], rest)
      else (readQuotedBody? quote rest).map fun (body, rest) => (c :: body, rest) := by
  rw [readQuotedBody?]
  exact fun _ _ same => absurd same plain

theorem readQuotedBody?_append (plain : quote ≠ '\\') {found : List Char × List Char}
    (closed : readQuotedBody? quote text = some found) (follow : List Char) :
    readQuotedBody? quote (text ++ follow) = some (found.1, found.2 ++ follow) := by
  fun_induction readQuotedBody? quote text generalizing found with
  | case1 => cases closed
  | case2 c rest ih =>
      obtain ⟨inner, known, rfl⟩ := Option.map_eq_some_iff.mp closed
      simp only [List.cons_append, readQuotedBody?, ih known, Option.map_some]
  | case3 rest other =>
      cases closed
      rw [List.cons_append, readQuotedBody?_cons plain, if_pos rfl]
  | case4 c rest other different ih =>
      obtain ⟨inner, known, rfl⟩ := Option.map_eq_some_iff.mp closed
      have solid : c ≠ '\\' := by
        rintro rfl
        cases rest with
        | nil => cases known
        | cons c rest => exact other c rest rfl rfl
      rw [List.cons_append, readQuotedBody?_cons solid, if_neg different, ih known]
      rfl

theorem readQuotedBody?_eq_none (missing : quote ∉ text) : readQuotedBody? quote text = none := by
  fun_induction readQuotedBody? quote text with
  | case1 => rfl
  | case2 c rest ih =>
      rw [ih fun among => missing (List.mem_cons_of_mem _ (List.mem_cons_of_mem _ among))]
      rfl
  | case3 => exact absurd List.mem_cons_self missing
  | case4 c rest other different ih =>
      rw [ih fun among => missing (List.mem_cons_of_mem _ among)]
      rfl

/-- A literal that is not closed is not closed by what follows. -/
theorem readQuotedBody?_append_none (opened : readQuotedBody? quote text = none)
    (missing : quote ∉ follow) : readQuotedBody? quote (text ++ follow) = none := by
  fun_induction readQuotedBody? quote text with
  | case1 => exact readQuotedBody?_eq_none missing
  | case2 c rest ih =>
      simp only [List.cons_append, readQuotedBody?, ih (Option.map_eq_none_iff.mp opened),
        Option.map_none]
  | case3 => cases opened
  | case4 c rest other different ih =>
      have later := ih (Option.map_eq_none_iff.mp opened)
      by_cases solid : c = '\\'
      · subst solid
        cases rest with
        | cons c rest => exact absurd rfl (other c rest rfl)
        | nil =>
            cases follow with
            | nil =>
                rw [List.append_nil, readQuotedBody?, if_neg different]
                · rfl
                · exact fun _ _ _ none_ => nomatch none_
            | cons c rest =>
                have behind : quote ∉ rest := fun among => missing (List.mem_cons_of_mem _ among)
                simp only [List.cons_append, List.nil_append, readQuotedBody?,
                  readQuotedBody?_eq_none behind, Option.map_none]
      · rw [List.cons_append, readQuotedBody?_cons solid, if_neg different, later]
        rfl

theorem beginsWithDigit_append (follows : Follows follow) (text : List Char) :
    beginsWithDigit (text ++ follow) = beginsWithDigit text := by
  cases text with
  | cons c rest => rfl
  | nil =>
      cases follow with
      | nil => rfl
      | cons c rest => rcases follows.head c rfl with rfl | rfl <;> rfl

theorem NumberPart.next?_append (follows : Follows follow) (radix : Nat) (part : NumberPart)
    (c : Char) (behind : List Char) :
    part.next? radix c (behind ++ follow) = part.next? radix c behind := by
  rw [NumberPart.next?, NumberPart.next?, beginsWithDigit_append follows]

theorem NumberPart.next?_ends (follows : Follows follow) (radix : Nat) (part : NumberPart)
    (behind : List Char) : ∀ c ∈ follow.head?, part.next? radix c behind = none := by
  intro c first
  have blank : digitIn? 16 ' ' = none := by decide
  have paren : digitIn? 16 ')' = none := by decide
  rcases follows.head c first with rfl | rfl <;> simp [NumberPart.next?, blank, paren]

theorem readNumberBody_append (follows : Follows follow) (radix : Nat) (part : NumberPart)
    (text : List Char) :
    readNumberBody radix part (text ++ follow) =
      ((readNumberBody radix part text).1, (readNumberBody radix part text).2.1,
        (readNumberBody radix part text).2.2 ++ follow) := by
  induction text generalizing part with
  | nil =>
      cases follow with
      | nil => rfl
      | cons c rest =>
          simp only [List.nil_append, readNumberBody, NumberPart.next?_ends follows _ _ _ c rfl]
  | cons c text ih =>
      rw [List.cons_append, readNumberBody, readNumberBody, NumberPart.next?_append follows]
      cases part.next? radix c text with
      | none => rfl
      | some part => simp only [ih]

theorem splitRadix_cons (plain : c ≠ '0') : splitRadix (c :: rest) = (10, c :: rest) := by
  rw [splitRadix]
  exact fun _ _ same => absurd (List.cons.inj same).1 plain

theorem splitRadix_of_follows (follows : Follows follow) : splitRadix follow = (10, follow) := by
  cases follow with
  | nil => rfl
  | cons c rest => rcases follows.head c rfl with rfl | rfl <;> exact splitRadix_cons (by decide)

theorem splitRadix_append (follows : Follows follow) (text : List Char) :
    splitRadix (text ++ follow) = ((splitRadix text).1, (splitRadix text).2 ++ follow) := by
  cases text with
  | nil => exact splitRadix_of_follows follows
  | cons c text =>
      by_cases zero : c = '0'
      · subst zero
        cases text with
        | cons c rest =>
            simp only [List.cons_append, splitRadix]
            split <;> [rfl; split] <;> [rfl; split] <;> rfl
        | nil =>
            cases follow with
            | nil => rfl
            | cons c rest => rcases follows.head c rfl with rfl | rfl <;> rfl
      · rw [List.cons_append, splitRadix_cons zero, splitRadix_cons zero]
        rfl

theorem readNumber_append (follows : Follows follow) (text : List Char) :
    readNumber (text ++ follow) = ((readNumber text).1, (readNumber text).2 ++ follow) := by
  simp only [readNumber, splitRadix_append follows, readNumberBody_append follows]

theorem ofChars?_pair {d : Char} (single : d ≠ '/' ∧ d ≠ '*' ∧ d ≠ '=') :
    Symbol.ofChars? [c, d] = none := by
  obtain ⟨slash, star, equal⟩ := single
  unfold Symbol.ofChars?
  split
  all_goals
    first
    | rfl
    | rename_i same
      simp only [List.cons.injEq, slash, star, equal, reduceCtorEq, and_false, false_and] at same

/-- The token at the head of a text that does not begin with a symbol. -/
def longTokenAt (c : Char) (text : List Char) : Token × List Char :=
  if c = '"' || c = '\x27' then
    match readQuotedBody? c text with
    | none => (.fault .malformed, [])
    | some (body, rest) =>
        match unescape? body with
        | some chars => (.string (String.ofList chars), rest)
        | none => (.fault .escape, [])
  else if c.isDigit then readNumber (c :: text)
  else if Markup.isNameStart c then
    let (tail, rest) := text.span Markup.isNameChar
    (.word (String.ofList (c :: tail)), rest)
  else (.fault .malformed, [])

theorem tokenAt_pair {d : Char} {s : Symbol} (pair : Symbol.ofChars? [c, d] = some s) :
    tokenAt (c :: d :: text) = (.symbol s, text) := by
  simp only [tokenAt, List.take_succ_cons, List.take_zero, pair]
  rfl

theorem tokenAt_cons (single : ∀ d ∈ text.head?, Symbol.ofChars? [c, d] = none) :
    tokenAt (c :: text) =
      match Symbol.ofChars? [c] with
      | some s => (.symbol s, text)
      | none => longTokenAt c text := by
  cases text with
  | nil =>
      simp only [tokenAt, List.take_succ_cons, List.take_nil]
      cases Symbol.ofChars? [c] <;> rfl
  | cons d text =>
      simp only [tokenAt, List.take_succ_cons, List.take_zero, single d rfl]
      rfl

/-- What follows a token makes no difference to it. -/
def SameToken (follow : List Char) (alone behind : Token × List Char) : Prop :=
  (∃ reason, alone.1 = .fault reason ∧ behind.1 = .fault reason) ∨
    IsSound alone.1 ∧ behind = (alone.1, alone.2 ++ follow)

theorem sameToken_number (follows : Follows follow) (text : List Char) :
    SameToken follow (readNumber text) (readNumber (text ++ follow)) := by
  rw [readNumber_append follows]
  by_cases faulty : ∃ reason, (readNumber text).1 = .fault reason
  · obtain ⟨reason, fault⟩ := faulty
    exact .inl ⟨reason, fault, fault⟩
  · exact .inr ⟨fun reason fault => faulty ⟨reason, fault⟩, rfl⟩

theorem span_name_append (follows : Follows follow) (text : List Char) :
    (text ++ follow).span Markup.isNameChar =
      ((text.span Markup.isNameChar).1, (text.span Markup.isNameChar).2 ++ follow) := by
  have ended : ((text.dropWhile Markup.isNameChar ++ follow).head?.any Markup.isNameChar) = false := by
    cases behind : text.dropWhile Markup.isNameChar with
    | nil => exact follows.of_head (by decide) (by decide)
    | cons c rest =>
        have stops := List.head?_dropWhile_not Markup.isNameChar text
        rw [behind] at stops
        exact stops
  have parted : text ++ follow =
      text.takeWhile Markup.isNameChar ++ (text.dropWhile Markup.isNameChar ++ follow) := by
    rw [← List.append_assoc, List.takeWhile_append_dropWhile]
  rw [List.span_eq_takeWhile_dropWhile (l := text), parted]
  exact span_append (fun c among => List.mem_takeWhile_imp among) ended

theorem sameToken_long (follows : Follows follow) :
    SameToken follow (longTokenAt c text) (longTokenAt c (text ++ follow)) := by
  rw [longTokenAt, longTokenAt]
  split
  · rename_i quoted
    have plain : c ≠ '\\' := by
      rintro rfl
      exact absurd quoted (by decide)
    cases closed : readQuotedBody? c text with
    | none =>
        have missing : c ∉ follow := by
          intro among
          obtain ⟨noDouble, noSingle⟩ := follows.unquoted c among
          simp [noDouble, noSingle] at quoted
        rw [readQuotedBody?_append_none closed missing]
        exact .inl ⟨.malformed, rfl, rfl⟩
    | some found =>
        rw [readQuotedBody?_append plain closed]
        dsimp only
        cases unescape? found.1 with
        | none => exact .inl ⟨.escape, rfl, rfl⟩
        | some chars => exact .inr ⟨nofun, rfl⟩
  · split
    · exact sameToken_number follows (c :: text)
    · split
      · rw [span_name_append follows]
        exact .inr ⟨nofun, rfl⟩
      · exact .inl ⟨.malformed, rfl, rfl⟩

/-- What follows a text makes no difference to the token at its head. -/
theorem sameToken_tokenAt (follows : Follows follow) (some_ : text ≠ []) :
    SameToken follow (tokenAt text) (tokenAt (text ++ follow)) := by
  obtain ⟨c, text, rfl⟩ := List.exists_cons_of_ne_nil some_
  have single : ∀ d ∈ follow.head?, Symbol.ofChars? [c, d] = none := by
    intro d first
    rcases follows.head d first with rfl | rfl <;> exact ofChars?_pair (by decide)
  have alone (single : ∀ d ∈ text.head?, Symbol.ofChars? [c, d] = none)
      (behind : ∀ d ∈ (text ++ follow).head?, Symbol.ofChars? [c, d] = none) :
      SameToken follow (tokenAt (c :: text)) (tokenAt (c :: text ++ follow)) := by
    rw [List.cons_append, tokenAt_cons single, tokenAt_cons behind]
    cases Symbol.ofChars? [c] with
    | none => exact sameToken_long follows
    | some s => exact .inr ⟨nofun, rfl⟩
  cases text with
  | nil => exact alone nofun single
  | cons d text =>
      cases pair : Symbol.ofChars? [c, d] with
      | none =>
          refine alone ?_ ?_
          all_goals
            rintro _ ⟨⟩
            exact pair
      | some s =>
          rw [List.cons_append, List.cons_append, tokenAt_pair pair, tokenAt_pair pair]
          exact .inr ⟨nofun, rfl⟩

theorem suffix_of_readQuotedBody? {found : List Char × List Char}
    (closed : readQuotedBody? quote text = some found) : found.2 <:+ text := by
  fun_induction readQuotedBody? quote text generalizing found with
  | case1 => cases closed
  | case2 c rest ih =>
      obtain ⟨inner, known, rfl⟩ := Option.map_eq_some_iff.mp closed
      exact ((ih known).trans (List.suffix_cons c rest)).trans (List.suffix_cons _ _)
  | case3 rest other =>
      cases closed
      exact List.suffix_cons _ _
  | case4 c rest other different ih =>
      obtain ⟨inner, known, rfl⟩ := Option.map_eq_some_iff.mp closed
      exact (ih known).trans (List.suffix_cons _ _)

theorem suffix_of_readNumberBody (radix : Nat) (part : NumberPart) (text : List Char) :
    (readNumberBody radix part text).2.2 <:+ text := by
  induction text generalizing part with
  | nil => exact List.suffix_rfl
  | cons c text ih =>
      rw [readNumberBody]
      cases part.next? radix c text with
      | none => exact List.suffix_rfl
      | some part => exact (ih part).trans (List.suffix_cons c text)

theorem NumberPart.next?_digit (digit : c.isDigit = true) (behind : List Char) :
    (NumberPart.whole.next? 10 c behind).isSome = true := by
  have plain : ∀ d : Char, d.isDigit = false → c ≠ d := by
    rintro d other rfl
    rw [digit] at other
    cases other
  simp [NumberPart.next?, digit, plain '.' rfl, plain 'e' rfl, plain 'E' rfl, plain '+' rfl, plain '-' rfl]

theorem splitRadix_cases (c : Char) (text : List Char) :
    splitRadix (c :: text) = (10, c :: text) ∨ (splitRadix (c :: text)).2 <:+ text := by
  by_cases zero : c = '0'
  · subst zero
    cases text with
    | nil => exact .inl rfl
    | cons c rest =>
        rw [splitRadix]
        split
        · exact .inr (List.suffix_cons c rest)
        · split
          · exact .inr (List.suffix_cons c rest)
          · split
            · exact .inr (List.suffix_cons c rest)
            · exact .inl rfl
  · exact .inl (splitRadix_cons zero)

/-- A number literal has at least the digit that it begins with. -/
theorem suffix_of_readNumber (digit : c.isDigit = true) (text : List Char) :
    (readNumber (c :: text)).2 <:+ text := by
  rcases splitRadix_cases c text with decimal | prefixed
  · simp only [readNumber, decimal, if_true, readNumberBody]
    obtain ⟨part, more⟩ := Option.isSome_iff_exists.mp (NumberPart.next?_digit digit text)
    rw [more]
    exact suffix_of_readNumberBody 10 part text
  · exact (suffix_of_readNumberBody _ _ _).trans prefixed

theorem suffix_of_longTokenAt (sound : IsSound (longTokenAt c text).1) :
    (longTokenAt c text).2 <:+ text := by
  rw [longTokenAt] at sound ⊢
  split
  · rename_i quoted
    rw [if_pos quoted] at sound
    cases closed : readQuotedBody? c text with
    | none =>
        rw [closed] at sound
        exact absurd rfl (sound .malformed)
    | some found =>
        rw [closed] at sound
        dsimp only at sound ⊢
        cases inner : unescape? found.1 with
        | none =>
            rw [inner] at sound
            exact absurd rfl (sound .escape)
        | some chars => exact suffix_of_readQuotedBody? closed
  · rename_i unquoted
    rw [if_neg unquoted] at sound
    split
    · rename_i digit
      exact suffix_of_readNumber digit text
    · rename_i other
      rw [if_neg other] at sound
      split
      · rw [List.span_eq_takeWhile_dropWhile]
        exact List.dropWhile_suffix _
      · rename_i foreign
        rw [if_neg foreign] at sound
        exact absurd rfl (sound .malformed)

/-- A token takes at least one character. -/
theorem suffix_of_tokenAt (sound : IsSound (tokenAt (c :: text)).1) :
    (tokenAt (c :: text)).2 <:+ text := by
  have alone (single : ∀ d ∈ text.head?, Symbol.ofChars? [c, d] = none) :
      (tokenAt (c :: text)).2 <:+ text := by
    rw [tokenAt_cons single] at sound ⊢
    cases symbol : Symbol.ofChars? [c] with
    | none =>
        rw [symbol] at sound
        exact suffix_of_longTokenAt sound
    | some s => exact List.suffix_rfl
  cases text with
  | nil => exact alone nofun
  | cons d text =>
      cases pair : Symbol.ofChars? [c, d] with
      | none =>
          refine alone ?_
          rintro _ ⟨⟩
          exact pair
      | some s =>
          rw [tokenAt_pair pair]
          exact List.suffix_cons d text

end StagePlan.Expression
