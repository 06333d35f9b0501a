import StagePlan.Markup.ModuleTag
import StagePlan.Proofs.Expression.Tokens

namespace StagePlan

/-!
Strings that are an output marker of a name and nothing else. They are told from other strings with
markers, whatever blanks stand around the name and around the marker.
-/

namespace Text

variable {text core before after : List Char}

/-- A text with blanks around it. -/
def Around (core text : List Char) : Prop :=
  ∃ before after, (before ++ after).all isBlank = true ∧ text = before ++ core ++ after

theorem trimStart_append (blank : ∀ c ∈ before, isBlank c = true)
    (first : ∀ c ∈ core.head?, isBlank c = false) : trimStart (before ++ core) = core := by
  rw [trimStart, List.dropWhile_append_of_pos blank]
  cases core with
  | nil => rfl
  | cons c rest => simp [first c rfl]

theorem trimEnd_append (blank : ∀ c ∈ after, isBlank c = true)
    (last : ∀ c ∈ core.getLast?, isBlank c = false) : trimEnd (core ++ after) = core := by
  have turned : trimStart (after.reverse ++ core.reverse) = core.reverse :=
    trimStart_append (fun c among => blank c (List.mem_reverse.mp among))
      (fun c ends => last c (by rwa [List.head?_reverse] at ends))
  rw [trimEnd, List.reverse_append]
  exact (congrArg List.reverse turned).trans core.reverse_reverse

/-- Trimming takes the blanks around a text away and keeps those in it. -/
theorem trim_of_around (around : Around core text) (some_ : core ≠ [])
    (first : ∀ c ∈ core.head?, isBlank c = false) (last : ∀ c ∈ core.getLast?, isBlank c = false) :
    trim text = core := by
  obtain ⟨before, after, blank, rfl⟩ := around
  rw [List.all_eq_true] at blank
  have front : ∀ c ∈ (core ++ after).head?, isBlank c = false := by
    rwa [List.head?_append, Option.or_of_isSome (List.isSome_head?.mpr some_)]
  rw [trim, List.append_assoc,
    trimStart_append (fun c among => blank c (List.mem_append_left _ among)) front,
    trimEnd_append (fun c among => blank c (List.mem_append_right _ among)) last]

theorem occurs_eq_false {piece : List Char} {c : Char} (needed : c ∈ piece) (missing : c ∉ text) :
    occurs piece text = false := by
  rw [Bool.eq_false_iff]
  intro found
  obtain ⟨before, after, rfl⟩ := occurs_iff.mp found
  exact missing (by simp [needed])

end Text

namespace Markup

open Expression

variable {name text inner : List Char} {c : Char}

theorem dropEnd?_append (inner piece : List Char) :
    dropEnd? piece (inner ++ piece) = some inner := by
  have turned : Text.dropPiece? piece.reverse (inner ++ piece).reverse = some inner.reverse :=
    Text.dropPiece?_eq_some.mpr List.reverse_append
  rw [dropEnd?, turned, Option.map_some, List.reverse_reverse]

theorem dropMinus_eq (unsigned : '-' ∉ text) : dropMinus text = text := by
  unfold dropMinus
  split
  · exact absurd List.mem_cons_self unsigned
  · rfl

/-- The texts that consist of an output marker of a name, blanks aside. -/
def IsMarkerOf (name text : List Char) : Prop :=
  ∃ inner, Text.Around name inner ∧ Text.Around (openOutput ++ inner ++ closeOutput) text

/-- The signs of names and blanks, none of which is part of any marker. -/
def IsPlain (c : Char) : Prop :=
  Text.isBlank c = true ∨ isNameChar c = true

instance (c : Char) : Decidable (IsPlain c) :=
  inferInstanceAs (Decidable (_ ∨ _))

theorem notMem_of_plain (plain : ∀ c ∈ text, IsPlain c) (odd : ¬ IsPlain c) : c ∉ text :=
  fun among => odd (plain c among)

theorem plain_of_around (named : isName name = true) (around : Text.Around name inner) :
    ∀ c ∈ inner, IsPlain c := by
  obtain ⟨before, after, blank, rfl⟩ := around
  rw [List.all_eq_true] at blank
  intro c among
  simp only [List.mem_append] at among blank
  rcases among with (in_front | of_name) | behind
  · exact .inl (blank c (.inl in_front))
  · exact .inr (isNameChar_of_isName named c of_name)
  · exact .inl (blank c (.inr behind))

theorem wholeExpression?_of_isMarkerOf (named : isName name = true)
    (marker : IsMarkerOf name text) : wholeExpression? text = some name := by
  obtain ⟨inner, around_name, around⟩ := marker
  have some_ : name ≠ [] := by
    rintro rfl
    cases named
  have plain := plain_of_around named around_name
  have unsigned : '-' ∉ inner := notMem_of_plain plain (by decide)
  have turned : '-' ∉ inner.reverse := by rwa [List.mem_reverse]
  have closed : ∀ c ∈ (openOutput ++ inner ++ closeOutput).getLast?, Text.isBlank c = false := by
    simp [closeOutput]
    decide
  have outside : Text.trim text = openOutput ++ inner ++ closeOutput :=
    Text.trim_of_around around (by simp [openOutput]) (by simp [openOutput]; decide) closed
  have solid : ∀ c ∈ name, Text.isBlank c = false :=
    fun c among => isBlank_of_isNameChar (isNameChar_of_isName named c among)
  have inside : Text.trim inner = name :=
    Text.trim_of_around around_name some_ (fun c first => solid c (List.mem_of_head? first))
      (fun c last => solid c (List.mem_of_getLast? last))
  have behind : Text.dropPiece? openOutput (openOutput ++ inner ++ closeOutput) =
      some (inner ++ closeOutput) :=
    Text.dropPiece?_eq_some.mpr (List.append_assoc ..)
  have markerless : ([openOutput, closeOutput, openStatement, closeStatement].any fun piece =>
      Text.occurs piece inner) = false := by
    rw [List.any_eq_false]
    intro piece listed
    have braced : '\x7b' ∈ piece ∨ '\x7d' ∈ piece := by
      simp only [List.mem_cons, List.not_mem_nil, or_false] at listed
      rcases listed with rfl | rfl | rfl | rfl <;> decide
    rw [Bool.not_eq_true]
    rcases braced with opening | closing
    · exact Text.occurs_eq_false opening (notMem_of_plain plain (by decide))
    · exact Text.occurs_eq_false closing (notMem_of_plain plain (by decide))
  have bare : name.isEmpty = false := List.isEmpty_eq_false_iff.mpr some_
  rw [wholeExpression?, outside, behind]
  simp only [Option.bind_eq_bind, Option.bind_some, dropEnd?_append, markerless, Bool.false_eq_true,
    if_false, dropMinus_eq unsigned, dropMinus_eq turned, List.reverse_reverse, inside, bare]

theorem tagAt?_eq_none (unopened : '%' ∉ text) : tagAt? text = none := by
  have absent : Text.dropPiece? openStatement text = none := by
    rw [Option.eq_none_iff_forall_ne_some]
    intro rest found
    rw [Text.dropPiece?_eq_some.mp found] at unopened
    exact unopened (by simp [openStatement])
  rw [tagAt?, absent]
  rfl

/-- No module tag begins in a text. -/
def Untagged (text : List Char) : Prop :=
  ∀ rest, rest <:+ text → tagAt? rest = none

theorem expandTags_of_untagged (untagged : Untagged text) : expandTags text = .ok text := by
  have expanded (fuel : Nat) : expandFrom fuel text = .ok text := by
    induction fuel generalizing text with
    | zero => rfl
    | succ fuel ih =>
        cases text with
        | nil => rfl
        | cons c rest =>
            have others : Untagged rest := fun behind within =>
              untagged behind (within.trans (List.suffix_cons c rest))
            rw [expandFrom, untagged _ List.suffix_rfl]
            simp only [ih others]
            rfl
  exact expanded _

/-- Without the sign that statement markers have, there are no tags. -/
theorem untagged_of_notMem (unopened : '%' ∉ text) : Untagged text :=
  fun _ within => tagAt?_eq_none fun among => unopened (within.mem among)

theorem expandTags_of_isMarkerOf (named : isName name = true) (marker : IsMarkerOf name text) :
    expandTags text = .ok text := by
  obtain ⟨inner, around_name, before, after, blank, rfl⟩ := marker
  rw [List.all_eq_true] at blank
  refine expandTags_of_untagged (untagged_of_notMem ?_)
  have inside : '%' ∉ inner := notMem_of_plain (plain_of_around named around_name) (by decide)
  have outside : '%' ∉ before ++ after := notMem_of_plain (fun c among => .inl (blank c among))
    (by decide)
  simp only [List.mem_append, not_or] at outside ⊢
  exact ⟨⟨outside.1, ⟨by decide, inside⟩, by decide⟩, outside.2⟩

theorem hasMarkers_of_isMarkerOf {source : String} (marker : IsMarkerOf name source.toList) :
    hasMarkers source = true := by
  obtain ⟨inner, around_name, before, after, blank, whole⟩ := marker
  have opened : Text.occurs openOutput source.toList = true :=
    Text.occurs_iff.mpr ⟨before, inner ++ closeOutput ++ after, by simp [whole]⟩
  rw [hasMarkers, opened, Bool.true_or]

end Markup

end StagePlan
