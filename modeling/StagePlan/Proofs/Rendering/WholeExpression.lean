import StagePlan.Proofs.Expression.Lexing
import StagePlan.Proofs.Rendering.NameMarker

namespace StagePlan

/-!
Strings that are taken for one output marker, and the same behind letters, where they are not. Module
tags, the expression and the tokens are the same in both.
-/

namespace Text

variable {text : List Char}

theorem isPrefix_trimEnd (text : List Char) : trimEnd text <+: text := by
  have turned : text.reverse.dropWhile isBlank <:+ text.reverse := List.dropWhile_suffix _
  rw [← List.reverse_prefix, List.reverse_reverse] at turned
  exact turned

theorem trim_infix (text : List Char) : trim text <:+: text :=
  (isPrefix_trimEnd _).isInfix.trans (List.dropWhile_suffix _).isInfix

/-- A text that is trimmed does not begin with a blank. -/
theorem isBlank_head_trim : ∀ c ∈ (trim text).head?, isBlank c = false := by
  intro c first
  obtain ⟨more, whole⟩ := isPrefix_trimEnd (trimStart text)
  have head : (text.dropWhile isBlank).head? = some c := by
    change (trimStart text).head? = some c
    rw [← whole, List.head?_append]
    change (trim text).head?.or _ = _
    rw [first, Option.some_or]
  have none_ := List.head?_dropWhile_not isBlank text
  rw [head] at none_
  simpa using none_

end Text

namespace Markup

open Expression

variable {text rest core lead e : List Char}

section Tags

theorem isSome_tagBody?_append (found : (tagBody? text).isSome = true) (after : List Char) :
    (tagBody? (text ++ after)).isSome = true := by
  induction text with
  | nil => cases found
  | cons c text ih =>
      rw [List.cons_append, tagBody?]
      rw [tagBody?] at found
      split
      · rfl
      · rename_i unsigned
        split
        · rfl
        · rename_i unclosed
          have absent {piece : List Char} (none_ : Text.dropPiece? piece (c :: (text ++ after)) = none) :
              Text.dropPiece? piece (c :: text) = none := by
            rw [Option.eq_none_iff_forall_ne_some] at none_ ⊢
            exact fun rest some_ => none_ _ (Text.dropPiece?_append some_ after)
          rw [absent unsigned, absent unclosed] at found
          rw [Option.isSome_map] at found ⊢
          exact ih found

theorem dropMinus_append (some_ : text ≠ []) (after : List Char) :
    dropMinus (text ++ after) = dropMinus text ++ after := by
  obtain ⟨c, rest, rfl⟩ := List.exists_cons_of_ne_nil some_
  by_cases minus : c = '-'
  · subst minus
    rfl
  · simp [dropMinus, minus]

/-- A tag is one as well in a longer text. -/
theorem isSome_tagAt?_append (found : (tagAt? text).isSome = true) (after : List Char) :
    (tagAt? (text ++ after)).isSome = true := by
  obtain ⟨tag, found⟩ := Option.isSome_iff_exists.mp found
  obtain ⟨inner, opened, found⟩ := Option.bind_eq_some_iff.mp found
  obtain ⟨behind, named, found⟩ := Option.bind_eq_some_iff.mp found
  have solid : Text.trimStart (dropMinus inner) ≠ [] := by
    intro none_
    rw [none_] at named
    cases named
  have some_ : inner ≠ [] := by
    rintro rfl
    exact solid rfl
  have longer : Text.trimStart (dropMinus (inner ++ after)) =
      Text.trimStart (dropMinus inner) ++ after := by
    rw [dropMinus_append some_, Text.trimStart, List.dropWhile_append]
    exact if_neg (List.isEmpty_iff.not.mpr solid)
  rw [tagAt?, Text.dropPiece?_append opened]
  simp only [Option.bind_eq_bind, Option.bind_some, longer, Text.dropPiece?_append named]
  cases behind with
  | nil => cases found
  | cons c rest =>
      by_cases blank : Text.isBlank c = true
      · simp only [List.cons_append, blank, if_true] at found ⊢
        exact isSome_tagBody?_append (Option.isSome_of_eq_some found) after
      · simp only [blank] at found
        cases found

theorem Untagged.infix (untagged : Untagged text) (within : core <:+: text) : Untagged core := by
  obtain ⟨before, after, rfl⟩ := within
  rintro rest ⟨front, rfl⟩
  have longer := untagged (rest ++ after) ⟨before ++ front, by simp⟩
  rw [← Option.not_isSome_iff_eq_none]
  intro found
  rw [← Option.not_isSome_iff_eq_none] at longer
  exact longer (isSome_tagAt?_append found after)

theorem Untagged.behind (untagged : Untagged text) (unopened : ∀ c ∈ lead, c ≠ '\x7b') :
    Untagged (lead ++ text) := by
  induction lead with
  | nil => exact untagged
  | cons c lead ih =>
      have others := ih fun d among => unopened d (List.mem_cons_of_mem c among)
      intro rest within
      rcases List.suffix_cons_iff.mp within with rfl | later
      · have first := unopened c List.mem_cons_self
        rw [tagAt?, openStatement, Text.dropPiece?, if_neg (Ne.symm first)]
        rfl
      · exact others rest later

end Tags

section Whole

theorem dropMinus_suffix (text : List Char) : dropMinus text <:+ text := by
  unfold dropMinus
  split
  · exact List.suffix_cons _ _
  · exact List.suffix_rfl

/-- What a string with an expression consists of. -/
structure IsWhole (text e : List Char) : Prop where
  opens : ∃ rest, Text.trim text = openOutput ++ rest
  unended : Text.occurs closeOutput e = false
  some_ : e ≠ []
  solid : ∀ c ∈ e.head?, Text.isBlank c = false

theorem isWhole_of_wholeExpression? (whole : wholeExpression? text = some e) : IsWhole text e := by
  obtain ⟨behind, opened, whole⟩ := Option.bind_eq_some_iff.mp whole
  obtain ⟨inner, closed, whole⟩ := Option.bind_eq_some_iff.mp whole
  split at whole
  · cases whole
  · rename_i markerless
    dsimp only at whole
    split at whole
    · cases whole
    · rename_i more
      have bare := Option.some.inj whole
      have unended : Text.occurs closeOutput inner = false := by
        rw [Bool.eq_false_iff]
        exact fun found => markerless (by simp [found])
      have within : e <:+: inner := by
        rw [← bare]
        have signed : (dropMinus (dropMinus inner).reverse).reverse <+: dropMinus inner := by
          rw [← List.reverse_suffix, List.reverse_reverse]
          exact dropMinus_suffix _
        exact (Text.trim_infix _).trans (signed.isInfix.trans (dropMinus_suffix inner).isInfix)
      refine ⟨⟨behind, Text.dropPiece?_eq_some.mp opened⟩, Text.occurs_of_infix unended within, ?_, ?_⟩
      · rintro rfl
        exact more (by rw [bare]; rfl)
      · rw [← bare]
        exact Text.isBlank_head_trim

end Whole

/-- A text that may stand in front of a string without being taken for a part of it. -/
structure IsLead (lead : List Char) : Prop where
  some_ : lead ≠ []
  solid : ∀ c ∈ lead, Text.isBlank c = false
  unopened : ∀ c ∈ lead, c ≠ '\x7b'

theorem isLead_of_letters (some_ : lead ≠ []) (letters : lead.all Char.isAlpha = true) :
    IsLead lead := by
  rw [List.all_eq_true] at letters
  have named (c : Char) (among : c ∈ lead) : isNameChar c = true := by
    simp [isNameChar, Char.isAlphanum, letters c among]
  refine ⟨some_, fun c among => isBlank_of_isNameChar (named c among), fun c among => ?_⟩
  rintro rfl
  cases letters _ among

namespace IsLead

variable (lead_ : IsLead lead)

include lead_

/-- Behind such a text there is no string that is one marker. -/
theorem wholeExpression?_eq_none : wholeExpression? (lead ++ text) = none := by
  obtain ⟨c, tail, rfl⟩ := List.exists_cons_of_ne_nil lead_.some_
  have start : Text.trimStart (c :: tail ++ text) = c :: tail ++ text :=
    List.dropWhile_cons_of_neg (by simp [lead_.solid c List.mem_cons_self])
  have absent : Text.dropPiece? openOutput (Text.trim (c :: tail ++ text)) = none := by
    rw [Option.eq_none_iff_forall_ne_some]
    intro rest opened
    have trimmed := Text.isPrefix_trimEnd (Text.trimStart (c :: tail ++ text))
    change Text.trim (c :: tail ++ text) <+: _ at trimmed
    rw [Text.dropPiece?_eq_some.mp opened, start] at trimmed
    obtain ⟨more, whole⟩ := trimmed
    exact lead_.unopened c List.mem_cons_self (List.cons.inj whole).1.symm
  rw [wholeExpression?, absent]
  rfl

theorem expandTags_eq (untagged : Untagged text) :
    expandTags (lead ++ text) = .ok (lead ++ text) :=
  expandTags_of_untagged (untagged.behind lead_.unopened)

theorem kinds_eq (opens : ∃ rest, text = openOutput ++ rest) :
    kinds (lead ++ text) = .text lead :: kinds text := by
  obtain ⟨rest, rfl⟩ := opens
  exact kinds_behind lead_.some_ lead_.solid lead_.unopened rfl

end IsLead

theorem hasMarkers_of_opens (opens : ∃ rest, text = openOutput ++ rest) (lead : List Char) :
    hasMarkers (String.ofList (lead ++ text)) = true := by
  obtain ⟨rest, rfl⟩ := opens
  have occurs : Text.occurs openOutput (lead ++ (openOutput ++ rest)) = true :=
    Text.occurs_iff.mpr ⟨lead, rest, by simp⟩
  rw [hasMarkers, String.toList_ofList, occurs, Bool.true_or]

end Markup

namespace Expression

variable {text e : List Char}

theorem innerTokens_ne_nil (whole : Markup.IsWhole text e) : innerTokens e ≠ [] := by
  intro none_
  have inside := inside_innerTokens whole.unended
  rw [none_] at inside
  obtain ⟨c, rest, rfl⟩ := List.exists_cons_of_ne_nil whole.some_
  have solid : Text.isBlank c = false := whole.solid c rfl
  cases inside with
  | done blank =>
      have first : isTokenBlank c = true := by
        rw [List.dropWhile_eq_nil_iff] at blank
        exact blank c List.mem_cons_self
      simp only [isTokenBlank, Bool.or_eq_true, decide_eq_true_eq] at first
      rcases first with (((rfl | rfl) | rfl) | rfl) | rfl <;> cases solid

end Expression

end StagePlan
