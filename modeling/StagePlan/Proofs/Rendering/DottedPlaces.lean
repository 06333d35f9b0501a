import StagePlan.Rendering.Renderer

namespace StagePlan

/-!
Places that are given as dotted texts. If no segment of the text is empty, then nothing of it is lost
when the text is cut into the steps of a place.
-/

namespace Text

variable {piece : List Char}

theorem splitGo_ne_nil (piece current : List Char) (skip : Nat) (text : List Char) :
    splitGo piece current skip text ≠ [] := by
  fun_induction splitGo piece current skip text <;> simp_all

theorem intercalate_splitGo (solid : piece ≠ []) (current : List Char) (skip : Nat)
    (text : List Char) :
    piece.intercalate (splitGo piece current skip text) = current.reverse ++ text.drop skip := by
  fun_induction splitGo piece current skip text with
  | case1 => simp
  | case2 current skip c text ih => simpa using ih
  | case3 current c text found ih =>
      obtain ⟨rest, here⟩ := Option.isSome_iff_exists.mp found
      rw [dropPiece?_eq_some] at here
      obtain ⟨first, others, rfl⟩ := List.exists_cons_of_ne_nil solid
      obtain ⟨rfl, rfl⟩ := List.cons.inj here
      rw [List.intercalate_cons_of_ne_nil (splitGo_ne_nil _ _ _ _), ih]
      simp
  | case4 current c text missed ih => simpa using ih

/-- The stretches of a text, with the piece between them, are the text. -/
theorem intercalate_splitOn (solid : piece ≠ []) (text : List Char) :
    piece.intercalate (splitOn piece text) = text := by
  rw [splitOn, if_neg (by simp [solid]), intercalate_splitGo solid]
  rfl

end Text

namespace Rendering

/-- No segment of a dotted text is empty. -/
def Solid (base : String) : Prop :=
  ∀ segment ∈ Text.splitOn ['.'] base.toList, segment ≠ []

instance (base : String) : Decidable (Solid base) :=
  inferInstanceAs (Decidable (∀ segment ∈ Text.splitOn ['.'] base.toList, segment ≠ []))

variable {base : String}

theorem pathOfText_of_solid (solid : Solid base) :
    pathOfText base = (Text.splitOn ['.'] base.toList).map String.ofList := by
  rw [pathOfText, List.filter_eq_self.mpr]
  intro segment listed
  simpa using solid segment listed

theorem pathOfText_ne_nil (solid : Solid base) : pathOfText base ≠ [] := by
  rw [pathOfText_of_solid solid]
  simp [Text.splitOn, Text.splitGo_ne_nil]

theorem intercalate_pathOfText (solid : Solid base) :
    ".".intercalate (pathOfText base) = base := by
  apply String.toList_injective
  rw [pathOfText_of_solid solid, String.toList_intercalate, List.map_map]
  have same : String.toList ∘ String.ofList = id := by
    funext segment
    simp
  rw [same, List.map_id]
  exact Text.intercalate_splitOn (by simp) base.toList

/-- Steps from a place stand behind the text that the place is given as. -/
theorem intercalate_steps (solid : Solid base) (steps : List String) :
    ".".intercalate (pathOfText base ++ steps) = ".".intercalate (base :: steps) := by
  by_cases none_left : steps = []
  · simp [none_left, intercalate_pathOfText solid]
  · rw [String.intercalate_append_of_ne_nil (pathOfText_ne_nil solid) none_left,
      String.intercalate_cons_of_ne_nil none_left, intercalate_pathOfText solid]

end Rendering

end StagePlan
