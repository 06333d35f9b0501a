import Mathlib.Tactic.SplitIfs
import StagePlan.Json.Reader
import StagePlan.Value.Written

namespace StagePlan.Json

/-!
Strings of documents, read back. A character is written as itself, as a letter behind a backslash,
or by its number; read piece by piece, each of the three gives the character again.
-/

/-- What a character of a string is read as: controls without a letter are written by their
number. -/
def pieceOf (c : Char) : Piece :=
  if (documentEscape? c).isNone && c.toNat < 0x20 then .unit c.toNat else .char c

variable {rest : List Char} {found : List Piece}

theorem hexValue?_digitChar : ∀ n < 16, hexValue? (Nat.digitChar n) = some n := by
  decide

/-- A letter behind a backslash is read as the character that it was written for. -/
theorem escaped?_of_documentEscape? {c letter : Char} (written : documentEscape? c = some letter) :
    escaped? letter = some c ∧ letter ≠ 'u' := by
  have numbered {n : Nat} (same : c.toNat = n) : Char.ofNat n = c := by
    rw [← same, Char.ofNat_toNat]
  unfold documentEscape? at written
  split_ifs at written with quote backslash back feed line carriage tab <;> cases written
  · exact ⟨by rw [quote]; rfl, by decide⟩
  · exact ⟨by rw [backslash]; rfl, by decide⟩
  · exact ⟨congrArg some (numbered back), by decide⟩
  · exact ⟨congrArg some (numbered feed), by decide⟩
  · exact ⟨by rw [line]; rfl, by decide⟩
  · exact ⟨by rw [carriage]; rfl, by decide⟩
  · exact ⟨by rw [tab]; rfl, by decide⟩

theorem hexQuad?_digits {n : Nat} (small : n < 0x20) :
    hexQuad? '0' '0' (Nat.digitChar (n / 16)) (Nat.digitChar (n % 16)) = some n := by
  have zero : hexValue? '0' = some 0 := rfl
  simp only [hexQuad?, zero, hexValue?_digitChar _ (show n / 16 < 16 by omega),
    hexValue?_digitChar _ (Nat.mod_lt n (by decide)), Option.bind_eq_bind, Option.bind_some,
    Option.pure_def, Option.some.injEq]
  omega

theorem readPieces_documentChar (c : Char) :
    readPieces found (documentChar c ++ rest) = readPieces (pieceOf c :: found) rest := by
  unfold documentChar pieceOf
  cases written : documentEscape? c with
  | some letter =>
      obtain ⟨read, plain⟩ := escaped?_of_documentEscape? written
      simp [readPieces, read, plain]
  | none =>
      by_cases control : c.toNat < 0x20
      · simp [control, readPieces, hexQuad?_digits control]
      · have plain : c ≠ '"' ∧ c ≠ '\\' := by
          constructor <;> rintro rfl <;> cases written
        simp [control, readPieces, plain]

theorem readPieces_documentChars (chars : List Char) :
    readPieces found (chars.flatMap documentChar ++ '"' :: rest) =
      some ((chars.map pieceOf).reverse ++ found, rest) := by
  induction chars generalizing found with
  | nil => simp [readPieces]
  | cons c chars ih =>
      rw [List.flatMap_cons, List.append_assoc, readPieces_documentChar, ih]
      simp

/-- The number of a control is no half of a surrogate pair. -/
theorem joinPieces?_unit {n : Nat} (small : n < 0x20) (pieces : List Piece) :
    joinPieces? (.unit n :: pieces) = (joinPieces? pieces).map (Char.ofNat n :: ·) := by
  have high : isHighSurrogate n = false := by
    simp only [isHighSurrogate, Bool.and_eq_false_iff, decide_eq_false_iff_not]
    omega
  have low : isLowSurrogate n = false := by
    simp only [isLowSurrogate, Bool.and_eq_false_iff, decide_eq_false_iff_not]
    omega
  cases pieces with
  | nil => simp [joinPieces?, high, low]
  | cons piece pieces => cases piece <;> simp [joinPieces?, high, low]

theorem joinPieces?_pieceOf (chars : List Char) :
    joinPieces? (chars.map pieceOf) = some chars := by
  induction chars with
  | nil => rfl
  | cons c chars ih =>
      rw [List.map_cons, pieceOf]
      split
      · rename_i control
        have small : c.toNat < 0x20 := by
          simp only [Bool.and_eq_true, decide_eq_true_eq] at control
          exact control.2
        rw [joinPieces?_unit small, ih, Option.map_some, Char.ofNat_toNat]
      · simp [joinPieces?, ih]

/-- The text of a string gives the string again, whatever follows. -/
theorem readString_documentString (text : String) :
    readString (text.toList.flatMap documentChar ++ '"' :: rest) =
      some (.scalar (stringScalar text), rest) := by
  rw [readString, readPieces_documentChars]
  simp [joinPieces?_pieceOf, String.ofList_toList]

end StagePlan.Json
