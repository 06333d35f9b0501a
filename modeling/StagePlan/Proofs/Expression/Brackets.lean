import StagePlan.Expression.Token

namespace StagePlan.Expression

/-!
Brackets in tokens. Tokens are gone through with a count of the brackets that are open. What belongs
to one expression closes every bracket that it opens and no other, and has commas only between
brackets.
-/

/-- How many brackets are open behind a token, if it may stand where `n` brackets are open. -/
def Token.level (n : Nat) : Token → Option Nat
  | .symbol .openParen | .symbol .openBracket | .symbol .openBrace => some (n + 1)
  | .symbol .closeParen | .symbol .closeBracket | .symbol .closeBrace => if n = 0 then none else some (n - 1)
  | .symbol .comma => if n = 0 then none else some n
  | .closeOutput => none
  | _ => some n

/-- How many brackets are open behind tokens, if each of them may stand where it does. -/
def level (n : Nat) : List Token → Option Nat
  | [] => some n
  | token :: rest => (token.level n).bind fun n => level n rest

@[simp] theorem level_nil (n : Nat) : level n [] = some n := rfl

@[simp] theorem level_cons (n : Nat) (token : Token) (rest : List Token) :
    level n (token :: rest) = (token.level n).bind fun n => level n rest := rfl

@[simp] theorem level_append (n : Nat) (first rest : List Token) :
    level n (first ++ rest) = (level n first).bind fun n => level n rest := by
  induction first generalizing n with
  | nil => rfl
  | cons token first ih =>
      rw [List.cons_append, level_cons, level_cons, Option.bind_assoc]
      exact congrArg _ (funext ih)

theorem Token.level_succ {token : Token} {n m : Nat} (reached : token.level n = some m) :
    token.level (n + 1) = some (m + 1) := by
  unfold level at *
  split <;> simp_all <;> omega

/-- In one more bracket tokens may stand as well. -/
theorem level_succ {tokens : List Token} {n m : Nat} (reached : level n tokens = some m) :
    level (n + 1) tokens = some (m + 1) := by
  induction tokens generalizing n with
  | nil => exact congrArg (some <| · + 1) (Option.some.inj reached)
  | cons token rest ih =>
      obtain ⟨next, first, others⟩ := Option.bind_eq_some_iff.mp reached
      rw [level_cons, token.level_succ first, Option.bind_some, ih others]

/-- Tokens that close what they open. -/
def Balanced (taken : List Token) : Prop :=
  ∀ n, level n taken = some n

/-- Tokens that close a bracket before them, and what they open. -/
def Closes (taken : List Token) : Prop :=
  ∀ n, level (n + 1) taken = some n

/-- The brackets that close. -/
def IsClosing (symbol : Symbol) : Prop :=
  symbol = .closeParen ∨ symbol = .closeBracket ∨ symbol = .closeBrace

variable {taken first rest : List Token}

theorem Balanced.nil : Balanced [] :=
  fun _ => rfl

theorem Balanced.cons {token : Token} (plain : ∀ n, token.level n = some n)
    (balanced : Balanced rest) : Balanced (token :: rest) :=
  fun n => by rw [level_cons, plain, Option.bind_some, balanced n]

theorem Balanced.append (balanced : Balanced first) (also : Balanced rest) :
    Balanced (first ++ rest) :=
  fun n => by rw [level_append, balanced n, Option.bind_some, also n]

theorem Balanced.closes (balanced : Balanced first) (closing : Closes rest) :
    Closes (first ++ rest) :=
  fun n => by rw [level_append, balanced (n + 1), Option.bind_some, closing n]

theorem Closes.only {closing : Symbol} (closes : IsClosing closing) : Closes [.symbol closing] := by
  rcases closes with rfl | rfl | rfl <;> exact fun _ => rfl

theorem Closes.comma (closing : Closes rest) : Closes (.symbol .comma :: rest) :=
  closing

/-- A bracket with what closes it. -/
theorem Closes.bracket {opening : Symbol}
    (opens : ∀ n, (Token.symbol opening).level n = some (n + 1)) (closing : Closes rest) :
    Balanced (.symbol opening :: rest) :=
  fun n => by rw [level_cons, opens, Option.bind_some, closing n]

theorem Closes.ne_nil (closing : Closes taken) : taken ≠ [] := by
  rintro rfl
  exact absurd (closing 0) (by simp)

/-- Tokens that may make up an expression. -/
structure IsPhrase (taken : List Token) : Prop where
  balanced : Balanced taken
  some_ : taken ≠ []

theorem IsPhrase.append (phrase : IsPhrase first) (balanced : Balanced rest) :
    IsPhrase (first ++ rest) :=
  ⟨phrase.balanced.append balanced, List.append_ne_nil_of_left_ne_nil phrase.some_ rest⟩

theorem IsPhrase.cons {token : Token} (plain : ∀ n, token.level n = some n)
    (balanced : Balanced rest) : IsPhrase (token :: rest) :=
  ⟨balanced.cons plain, List.cons_ne_nil _ _⟩

theorem IsPhrase.bracket {opening : Symbol}
    (opens : ∀ n, (Token.symbol opening).level n = some (n + 1)) (closing : Closes rest) :
    IsPhrase (.symbol opening :: rest) :=
  ⟨closing.bracket opens, List.cons_ne_nil _ _⟩

theorem IsPhrase.length_pos (phrase : IsPhrase taken) : 0 < taken.length :=
  List.length_pos_iff.mpr phrase.some_

/-- A comma or a closing bracket cannot follow outside of brackets. -/
theorem Balanced.level_eq_none (balanced : Balanced first) {token : Token}
    (unfit : token.level 0 = none) : level 0 (first ++ token :: rest) = none := by
  rw [level_append, balanced 0, Option.bind_some, level_cons, unfit, Option.bind_none]

end StagePlan.Expression
