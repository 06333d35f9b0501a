import Mathlib.Data.List.TakeDrop
import Mathlib.Data.List.TakeWhile
import StagePlan.Expression.Lexer

namespace StagePlan.Expression

/-!
The tokens of a source, put together from the steps of the lexer. Where a token stands does not
matter for what it is.
-/

theorem Cursor.rest_goTo {cursor : Cursor} {passed rest : List Char}
    (whole : cursor.rest = passed ++ rest) : (cursor.goTo rest).rest = rest := by
  simp [Cursor.goTo, Cursor.advance, whole]

/-- The step of the lexer in a mode. -/
def Mode.step : Mode → Cursor → Step
  | .text trim => textStep trim
  | .marker kind depth => markerStep kind depth

theorem tokensFrom_succ (fuel : Nat) (mode : Mode) (cursor : Cursor) :
    tokensFrom (fuel + 1) mode cursor =
      match (mode.step cursor).next? with
      | some (next, behind) => (mode.step cursor).tokens ++ tokensFrom fuel next behind
      | none => (mode.step cursor).tokens := by
  cases mode <;> rfl

/-- The tokens that a text has in a mode, wherever it stands. -/
def Lexes (mode : Mode) (text : List Char) (found : List Token) : Prop :=
  ∀ (fuel : Nat) (cursor : Cursor), cursor.rest = text → text.length < fuel →
    (tokensFrom fuel mode cursor).map (·.token) = found

namespace Lexes

variable {text passed rest : List Char} {found : List Token} {kind : MarkerKind} {depth : Nat}

theorem map_tokens (lexes : Lexes (.text false) text found) :
    (tokens text).map (·.token) = found :=
  lexes (text.length + 1) (.ofSource text) rfl (Nat.lt_succ_self _)

theorem done : Lexes (.text false) [] [] := by
  intro fuel cursor whole enough
  cases fuel with
  | zero => cases enough
  | succ fuel => simp [tokensFrom, textStep, whole, Step.stop]

/-- Blanks are passed over inside markers. -/
theorem shorter_of_start (start : text.dropWhile isTokenBlank = passed ++ rest)
    (some_ : passed ≠ []) : rest.length < text.length := by
  have before : (text.takeWhile isTokenBlank ++ text.dropWhile isTokenBlank).length =
      text.length := congrArg List.length List.takeWhile_append_dropWhile
  have gone := List.length_pos_iff.mpr some_
  rw [start, List.length_append, List.length_append] at before
  omega

theorem rest_of_start {cursor : Cursor} (whole : cursor.rest = text)
    (start : text.dropWhile isTokenBlank = passed ++ rest) :
    (cursor.goTo (cursor.rest.dropWhile isTokenBlank)).rest = passed ++ rest := by
  rw [Cursor.rest_goTo (List.takeWhile_append_dropWhile).symm, whole, start]

/-- A step that gives one token, and what the tokens behind it are. -/
theorem cons {mode next : Mode} {token : Token} (shorter : rest.length < text.length)
    (step : ∀ cursor : Cursor, cursor.rest = text → ∃ span behind,
      mode.step cursor = ⟨[⟨token, span⟩], some (next, behind)⟩ ∧ behind.rest = rest)
    (others : Lexes next rest found) : Lexes mode text (token :: found) := by
  intro fuel cursor whole enough
  cases fuel with
  | zero => cases enough
  | succ fuel =>
      obtain ⟨span, behind, stepped, left⟩ := step cursor whole
      rw [tokensFrom_succ, stepped]
      simp only [List.singleton_append, List.map_cons, List.cons.injEq, true_and]
      exact others fuel behind left (by omega)

theorem openOutput (unsigned : splitTrimSign rest = (none, rest))
    (others : Lexes (.marker .output 0) rest found) :
    Lexes (.text false) (Markup.openOutput ++ rest) (.openOutput :: found) := by
  have shorter : rest.length < (Markup.openOutput ++ rest).length := by
    rw [List.length_append]
    exact Nat.lt_add_of_pos_left (by decide)
  refine cons shorter (fun cursor whole => ?_) others
  refine ⟨cursor.spanTo (cursor.goTo rest), cursor.goTo rest, ?_, Cursor.rest_goTo whole⟩
  have opens : opensMarker (Markup.openOutput ++ rest) = true := rfl
  have comment : Text.dropPiece? openComment (Markup.openOutput ++ rest) = none := rfl
  have statement : Text.dropPiece? Markup.openStatement (Markup.openOutput ++ rest) = none := rfl
  have inner : (Markup.openOutput ++ rest).drop 2 = rest := rfl
  have more : (Markup.openOutput ++ rest).isEmpty = false := rfl
  simp only [Mode.step, textStep, Bool.false_eq_true, if_false, whole, more, opens, if_true,
    openingStep, comment, statement, inner, unsigned]
  rfl

/-- A token inside a marker that does not end there, with blanks before it. -/
theorem token (passed : List Char) {token : Token}
    (start : text.dropWhile isTokenBlank = passed ++ rest) (some_ : passed ≠ [])
    (inside : depth ≠ 0 ∨ kind.endAt? (passed ++ rest) = none)
    (taken : tokenAt (passed ++ rest) = (token, rest)) (sound : ∀ reason, token ≠ .fault reason)
    (others : Lexes (.marker kind (token.depthBehind depth)) rest found) :
    Lexes (.marker kind depth) text (token :: found) := by
  refine cons (shorter_of_start start some_) (fun cursor whole => ?_) others
  have left := rest_of_start whole start
  have going : (if depth = 0 then kind.endAt? (passed ++ rest) else none) = none := by
    rcases inside with nested | unended
    · rw [if_neg nested]
    · rw [unended, ite_self]
  obtain ⟨c, tail, rfl⟩ := List.exists_cons_of_ne_nil some_
  let begun := cursor.goTo (cursor.rest.dropWhile isTokenBlank)
  refine ⟨begun.spanTo (begun.goTo rest), begun.goTo rest, ?_, Cursor.rest_goTo left⟩
  simp only [Mode.step, markerStep, left, going, taken]
  rfl

/-- The end of an output marker, with blanks before it. -/
theorem closeOutput (start : text.dropWhile isTokenBlank = Markup.closeOutput ++ rest)
    (others : Lexes (.text false) rest found) :
    Lexes (.marker .output 0) text (.closeOutput :: found) := by
  refine cons (shorter_of_start start (by decide)) (fun cursor whole => ?_) others
  have left := rest_of_start whole start
  have ending : MarkerKind.output.endAt? (Markup.closeOutput ++ rest) = some (false, rest) := rfl
  let begun := cursor.goTo (cursor.rest.dropWhile isTokenBlank)
  refine ⟨begun.spanTo (begun.goTo rest), begun.goTo rest, ?_, Cursor.rest_goTo left⟩
  simp only [Mode.step, markerStep, left, if_true, ending]
  rfl

end Lexes

section Names

variable {c : Char}

theorem isNameChar_of_isNameStart (starts : Markup.isNameStart c = true) :
    Markup.isNameChar c = true := by
  simp only [Markup.isNameStart, Bool.or_eq_true] at starts
  simp only [Markup.isNameChar, Char.isAlphanum, Bool.or_eq_true]
  exact starts.imp_left .inl

/-- What holds of every small character holds of the characters of names. -/
theorem of_isNameChar {p : Char → Prop} (continues : Markup.isNameChar c = true)
    (small : ∀ n < 0x7B, p (Char.ofNat n)) : p c := by
  have below : c.toNat < 0x7B := by
    simp only [Markup.isNameChar, Char.isAlphanum, Bool.or_eq_true, decide_eq_true_eq] at continues
    rcases continues with (letter | digit) | rfl
    · rcases Bool.or_eq_true_iff.mp letter with upper | lower
      · have last : c.val ≤ 'Z'.val := (of_decide_eq_true upper).2
        exact Nat.lt_of_le_of_lt (UInt32.le_iff_toNat_le.mp last) (by decide)
      · have last : c.val ≤ 'z'.val := of_decide_eq_true (Bool.and_eq_true_iff.mp lower).2
        exact Nat.lt_of_le_of_lt (UInt32.le_iff_toNat_le.mp last) (by decide)
    · have last : c.val ≤ '9'.val := of_decide_eq_true (Bool.and_eq_true_iff.mp digit).2
      exact Nat.lt_of_le_of_lt (UInt32.le_iff_toNat_le.mp last) (by decide)
    · decide
  rw [← Char.ofNat_toNat c]
  exact small c.toNat below

theorem isBlank_of_isNameChar (continues : Markup.isNameChar c = true) : Text.isBlank c = false :=
  of_isNameChar (p := fun c => Markup.isNameChar c = true → Text.isBlank c = false) continues
    (by decide) continues

theorem isTokenBlank_of_isNameStart (starts : Markup.isNameStart c = true) :
    isTokenBlank c = false :=
  of_isNameChar (p := fun c => Markup.isNameStart c = true → isTokenBlank c = false)
    (isNameChar_of_isNameStart starts) (by decide) starts

theorem isDigit_of_isNameStart (starts : Markup.isNameStart c = true) : c.isDigit = false :=
  of_isNameChar (p := fun c => Markup.isNameStart c = true → c.isDigit = false)
    (isNameChar_of_isNameStart starts) (by decide) starts

theorem symbol?_of_isNameStart (starts : Markup.isNameStart c = true) (tail : List Char) :
    Symbol.ofChars? (c :: tail) = none :=
  of_isNameChar (p := fun c => Markup.isNameStart c = true → Symbol.ofChars? (c :: tail) = none)
    (isNameChar_of_isNameStart starts) (of_decide_eq_true (Eq.refl true)) starts

end Names

/-- Whether a text is a name: a letter or an underscore, and then digits too. -/
def isName : List Char → Bool
  | [] => false
  | c :: tail => Markup.isNameStart c && tail.all Markup.isNameChar

theorem isNameChar_of_isName {name : List Char} (named : isName name = true) :
    ∀ c ∈ name, Markup.isNameChar c = true := by
  cases name with
  | nil => cases named
  | cons first tail =>
      simp only [isName, Bool.and_eq_true, List.all_eq_true] at named
      intro c among
      rcases List.mem_cons.mp among with rfl | behind
      · exact isNameChar_of_isNameStart named.1
      · exact named.2 c behind

theorem dropWhile_name {name : List Char} (named : isName name = true) (rest : List Char) :
    (name ++ rest).dropWhile isTokenBlank = name ++ rest := by
  cases name with
  | nil => cases named
  | cons c tail =>
      simp only [isName, Bool.and_eq_true] at named
      simp [isTokenBlank_of_isNameStart named.1]

theorem tokenAt_openParen (rest : List Char) :
    tokenAt ('(' :: rest) = (.symbol .openParen, rest) := by
  cases rest <;> rfl

theorem span_append {α : Type} {p : α → Bool} {front rest : List α} (inside : ∀ a ∈ front, p a)
    (ended : rest.head?.any p = false) : (front ++ rest).span p = (front, rest) := by
  rw [List.span_eq_takeWhile_dropWhile, List.takeWhile_append_of_pos inside,
    List.dropWhile_append_of_pos inside]
  cases rest with
  | nil => simp
  | cons a rest =>
      have outside : p a = false := ended
      simp [outside]

/-- A name is one word, if nothing of it follows. -/
theorem tokenAt_name {name rest : List Char} (named : isName name = true)
    (ended : rest.head?.any Markup.isNameChar = false) :
    tokenAt (name ++ rest) = (.word (String.ofList name), rest) := by
  cases name with
  | nil => cases named
  | cons c tail =>
      simp only [isName, Bool.and_eq_true, List.all_eq_true] at named
      obtain ⟨starts, continues⟩ := named
      have unquoted : ¬ (c = '"' || c = '\x27') = true := by
        simp only [Bool.or_eq_true, decide_eq_true_eq, not_or]
        constructor <;> rintro rfl <;> revert starts <;> decide
      have digit := isDigit_of_isNameStart starts
      rw [List.cons_append, tokenAt, List.take_succ_cons, symbol?_of_isNameStart starts,
        symbol?_of_isNameStart starts]
      simp only [unquoted, if_false, digit, Bool.false_eq_true, starts, if_true,
        span_append continues ended]

end StagePlan.Expression
