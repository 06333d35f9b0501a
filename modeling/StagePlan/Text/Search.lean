namespace StagePlan.Text

/-!
Finding, cutting and replacing pieces of a text, over lists of characters.
-/

/-- The rest of `text` behind `piece`, when `text` starts with it. -/
def dropPiece? : List Char → List Char → Option (List Char)
  | [], text => some text
  | _ :: _, [] => none
  | p :: piece, c :: text => if p = c then dropPiece? piece text else none

theorem dropPiece?_eq_some {piece text rest : List Char} :
    dropPiece? piece text = some rest ↔ text = piece ++ rest := by
  induction piece generalizing text with
  | nil => simp [dropPiece?, eq_comm]
  | cons p piece ih =>
      cases text with
      | nil => simp [dropPiece?]
      | cons c text =>
          by_cases same : p = c
          · simp [dropPiece?, same, ih]
          · simp [dropPiece?, same, Ne.symm same]

theorem dropPiece?_append {piece text rest : List Char} (found : dropPiece? piece text = some rest)
    (after : List Char) : dropPiece? piece (text ++ after) = some (rest ++ after) := by
  rw [dropPiece?_eq_some] at found ⊢
  rw [found, List.append_assoc]

def startsWith (piece text : List Char) : Bool :=
  (dropPiece? piece text).isSome

def endsWith (piece text : List Char) : Bool :=
  startsWith piece.reverse text.reverse

/-- Whether `piece` occurs in `text`. -/
def occurs (piece : List Char) : List Char → Bool
  | [] => piece.isEmpty
  | c :: text => startsWith piece (c :: text) || occurs piece text

theorem occurs_iff {piece text : List Char} :
    occurs piece text = true ↔ ∃ before after, text = before ++ piece ++ after := by
  induction text with
  | nil =>
      cases piece with
      | nil => simp [occurs]
      | cons p piece => simp [occurs]
  | cons c text ih =>
      simp only [occurs, Bool.or_eq_true, startsWith, Option.isSome_iff_exists,
        dropPiece?_eq_some, ih]
      constructor
      · rintro (⟨rest, whole⟩ | ⟨before, after, whole⟩)
        · exact ⟨[], rest, by simpa using whole⟩
        · exact ⟨c :: before, after, by simp [whole]⟩
      · rintro ⟨before, after, whole⟩
        cases before with
        | nil => exact .inl ⟨after, by simpa using whole⟩
        | cons b before =>
            simp only [List.cons_append, List.cons.injEq] at whole
            exact .inr ⟨before, after, by simpa using whole.2⟩

/-- What does not occur in a text occurs in no part of it. -/
theorem occurs_of_infix {piece text core : List Char} (absent : occurs piece text = false)
    (within : core <:+: text) : occurs piece core = false := by
  obtain ⟨before, after, rfl⟩ := within
  rw [Bool.eq_false_iff] at absent ⊢
  intro found
  obtain ⟨front, back, rfl⟩ := occurs_iff.mp found
  exact absent (occurs_iff.mpr ⟨before ++ front, back ++ after, by simp⟩)

/-- Cuts `text` at the first occurrence of `piece`: what stands before it and what stands after. -/
def cutAt? (piece : List Char) : List Char → Option (List Char × List Char)
  | [] => if piece.isEmpty then some ([], []) else none
  | c :: text =>
      match dropPiece? piece (c :: text) with
      | some rest => some ([], rest)
      | none => (cutAt? piece text).map fun (before, after) => (c :: before, after)

/-- Every stretch of `text` between two occurrences of a non-empty `piece`; `skip` counts the
characters of an occurrence that still have to be passed. -/
def splitGo (piece : List Char) (current : List Char) : Nat → List Char → List (List Char)
  | _, [] => [current.reverse]
  | skip + 1, _ :: text => splitGo piece current skip text
  | 0, c :: text =>
      if startsWith piece (c :: text) then
        current.reverse :: splitGo piece [] (piece.length - 1) text
      else splitGo piece (c :: current) 0 text

/-- The stretches of `text` between the occurrences of `piece`. An empty `piece` stands between
every two characters and at both ends. -/
def splitOn (piece text : List Char) : List (List Char) :=
  if piece.isEmpty then [] :: text.map (fun c => [c]) ++ [[]] else splitGo piece [] 0 text

/-- Puts `separator` between the members of a list of texts. -/
def join (separator : List Char) : List (List Char) → List Char
  | [] => []
  | [text] => text
  | text :: rest => text ++ separator ++ join separator rest

/-- Writes `replacement` for every occurrence of `piece`. -/
def replace (piece replacement text : List Char) : List Char :=
  join replacement (splitOn piece text)

/-- Cuts `text` where a character of the class stands, keeping empty stretches. -/
def splitBy (class? : Char → Bool) : List Char → List (List Char)
  | [] => [[]]
  | c :: text =>
      if class? c then [] :: splitBy class? text
      else
        match splitBy class? text with
        | [] => [[c]]
        | first :: rest => (c :: first) :: rest

end StagePlan.Text
