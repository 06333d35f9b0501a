import StagePlan.Proofs.Expression.Brackets
import StagePlan.Proofs.Expression.TokenEnds
import StagePlan.Text.Search

namespace StagePlan.Expression

/-!
Tokens of a text inside a marker that does not end in it. They are the same ones wherever the text
stands, and go on with the tokens of what follows the text, unless there is a fault before.
-/

open Reader (IsSound)

variable {text follow rest : List Char} {c : Char} {token : Token} {reason : SourceFault}
  {found more : List Token} {depth : Nat}

/-- The tokens of a text that is inside a marker from its start to its end. -/
inductive Inside : List Char → List Token → Prop
  | done {text : List Char} (blank : text.dropWhile isTokenBlank = []) : Inside text []
  | fault {text rest : List Char} {c : Char} {reason : SourceFault}
      (start : text.dropWhile isTokenBlank = c :: rest)
      (faulty : (tokenAt (c :: rest)).1 = .fault reason) : Inside text [.fault reason]
  | token {text rest : List Char} {c : Char} {found : List Token}
      (start : text.dropWhile isTokenBlank = c :: rest) (sound : IsSound (tokenAt (c :: rest)).1)
      (others : Inside (tokenAt (c :: rest)).2 found) :
      Inside text ((tokenAt (c :: rest)).1 :: found)

/-- Every text has tokens. Induction on its length: each token takes some of it. -/
theorem exists_inside (text : List Char) : ∃ found, Inside text found := by
  induction h : text.length using Nat.strong_induction_on generalizing text with
  | h n ih =>
      cases start : text.dropWhile isTokenBlank with
      | nil => exact ⟨[], .done start⟩
      | cons c rest =>
          by_cases faulty : ∃ reason, (tokenAt (c :: rest)).1 = .fault reason
          · obtain ⟨reason, faulty⟩ := faulty
            exact ⟨_, .fault start faulty⟩
          · have sound : IsSound (tokenAt (c :: rest)).1 := fun reason fault => faulty ⟨reason, fault⟩
            have shorter := (suffix_of_tokenAt sound).length_le
            have within := (List.dropWhile_suffix isTokenBlank (l := text)).length_le
            rw [start, List.length_cons] at within
            obtain ⟨found, others⟩ := ih _ (by omega) (tokenAt (c :: rest)).2 rfl
            exact ⟨_, .token start sound others⟩

theorem Inside.blank_cons (inside : Inside text found) (blank : isTokenBlank c = true) :
    Inside (c :: text) found := by
  have same : (c :: text).dropWhile isTokenBlank = text.dropWhile isTokenBlank :=
    List.dropWhile_cons_of_pos blank
  cases inside with
  | done none_ => exact .done (same.trans none_)
  | fault start faulty => exact .fault (same.trans start) faulty
  | token start sound others => exact .token (same.trans start) sound others

/-- Where a marker cannot end: not in a text without its end, and not in what follows it. -/
theorem dropPiece?_closeOutput (unended : Text.occurs Markup.closeOutput text = false)
    (follows : Follows follow) : Text.dropPiece? Markup.closeOutput (text ++ follow) = none := by
  have other : ∀ c ∈ follow.head?, c ≠ '\x7d' := by
    intro c first
    rcases follows.head c first with rfl | rfl <;> decide
  rw [Option.eq_none_iff_forall_ne_some]
  intro behind found
  have whole := Text.dropPiece?_eq_some.mp found
  match text with
  | [] =>
      have same : follow = Markup.closeOutput ++ behind := whole
      exact other '\x7d' (by rw [same]; rfl) rfl
  | [c] =>
      have same : follow = '\x7d' :: behind := (List.cons.inj whole).2
      exact other '\x7d' (by rw [same]; rfl) rfl
  | c :: d :: rest =>
      have first := List.cons.inj whole
      have second := List.cons.inj first.2
      obtain ⟨rfl, rfl⟩ : c = '\x7d' ∧ d = '\x7d' := ⟨first.1, second.1⟩
      have occurs : Text.occurs Markup.closeOutput ('\x7d' :: '\x7d' :: rest) = true :=
        Text.occurs_iff.mpr ⟨[], rest, rfl⟩
      rw [occurs] at unended
      cases unended

theorem endAt?_eq_none (unended : Text.occurs Markup.closeOutput (c :: text) = false)
    (follows : Follows follow) : MarkerKind.output.endAt? (c :: text ++ follow) = none := by
  have behind := Text.occurs_of_infix unended (List.suffix_cons c text).isInfix
  have none_ := dropPiece?_closeOutput unended follows
  rw [List.cons_append] at none_ ⊢
  rw [MarkerKind.endAt?]
  simp only [MarkerKind.closingChars, dropPiece?_closeOutput behind follows, none_, ite_self,
    Option.map_none]

namespace Lexes

theorem blank {kind : MarkerKind} (blank : text.dropWhile isTokenBlank = []) :
    Lexes (.marker kind depth) text [] := by
  intro fuel cursor whole enough
  cases fuel with
  | zero => cases enough
  | succ fuel =>
      have passed : text.dropWhile isTokenBlank = [] ++ [] := blank
      have start := rest_of_start whole passed
      rw [tokensFrom_succ]
      simp only [Mode.step, markerStep, start, List.nil_append, Step.stop, List.map_nil]

theorem fault {kind : MarkerKind} (start : text.dropWhile isTokenBlank = c :: rest)
    (inside : depth ≠ 0 ∨ kind.endAt? (c :: rest) = none)
    (faulty : (tokenAt (c :: rest)).1 = .fault reason) :
    Lexes (.marker kind depth) text [.fault reason] := by
  intro fuel cursor whole enough
  cases fuel with
  | zero => cases enough
  | succ fuel =>
      have passed : text.dropWhile isTokenBlank = [] ++ c :: rest := start
      have left := rest_of_start whole passed
      have going : (if depth = 0 then kind.endAt? (c :: rest) else none) = none := by
        rcases inside with nested | unended
        · rw [if_neg nested]
        · rw [unended, ite_self]
      obtain ⟨behind, taken⟩ : ∃ behind, tokenAt (c :: rest) = (.fault reason, behind) :=
        ⟨_, Prod.ext faulty rfl⟩
      rw [tokensFrom_succ]
      simp only [Mode.step, markerStep, left, List.nil_append, going, taken]
      rfl

end Lexes

def Token.isFault : Token → Bool
  | .fault _ => true
  | _ => false

theorem Token.isFault_eq_false (sound : IsSound token) : token.isFault = false := by
  unfold isFault
  split
  · exact absurd rfl (sound _)
  · rfl

/-- Tokens with more behind them, unless there is a fault among them. -/
def upToFault (found more : List Token) : List Token :=
  if found.any Token.isFault then found else found ++ more

theorem upToFault_cons (sound : IsSound token) (found more : List Token) :
    upToFault (token :: found) more = token :: upToFault found more := by
  rw [upToFault, upToFault, List.any_cons, token.isFault_eq_false sound, Bool.false_or]
  split <;> rfl

/-- What follows a text gives the tokens behind those of the text. Induction on the tokens of the
text. -/
theorem Inside.lexes_append (inside : Inside text found)
    (unended : Text.occurs Markup.closeOutput text = false) (follows : Follows follow)
    (others : ∀ blanks : List Char, blanks.dropWhile isTokenBlank = [] →
      Lexes (.marker .output (found.foldl Token.depthBehind depth)) (blanks ++ follow) more) :
    Lexes (.marker .output depth) (text ++ follow) (upToFault found more) := by
  have begins {text rest : List Char} {c : Char} (start : text.dropWhile isTokenBlank = c :: rest) :
      (text ++ follow).dropWhile isTokenBlank = c :: rest ++ follow := by
    rw [List.dropWhile_append, start]
    rfl
  have within {text rest : List Char} {c : Char} (start : text.dropWhile isTokenBlank = c :: rest)
      (unended : Text.occurs Markup.closeOutput text = false) :
      Text.occurs Markup.closeOutput (c :: rest) = false := by
    rw [← start]
    exact Text.occurs_of_infix unended (List.dropWhile_suffix _).isInfix
  induction inside generalizing depth with
  | done blank => exact others _ blank
  | @fault text rest c reason start faulty =>
      have same := (sameToken_tokenAt follows (List.cons_ne_nil c rest)).resolve_right
        fun sound => sound.1 reason faulty
      obtain ⟨other, alone, behind⟩ := same
      rw [faulty] at alone
      cases alone
      exact .fault (begins start) (.inr (endAt?_eq_none (within start unended) follows)) behind
  | @token text rest c found start sound inside ih =>
      obtain ⟨mid, parted⟩ := suffix_of_tokenAt sound
      have taken := ((sameToken_tokenAt follows (List.cons_ne_nil c rest)).resolve_left
        fun ⟨reason, faulty, _⟩ => sound reason faulty).2
      have whole : c :: rest ++ follow = (c :: mid) ++ ((tokenAt (c :: rest)).2 ++ follow) := by
        rw [List.cons_append, List.cons_append, ← List.append_assoc mid, parted]
      have unended' := within start unended
      have ended := endAt?_eq_none unended' follows
      rw [whole] at taken ended
      rw [upToFault_cons sound]
      refine .token (c :: mid) ((begins start).trans whole) (List.cons_ne_nil _ _) (.inr ended) taken
        sound (ih ?_ others)
      exact Text.occurs_of_infix unended'
        ((suffix_of_tokenAt sound).trans (List.suffix_cons _ _)).isInfix

/-- The brackets that are open behind tokens are those that the lexer counts. -/
theorem foldl_depthBehind {n m : Nat} (reached : level n found = some m) :
    found.foldl Token.depthBehind n = m := by
  induction found generalizing n with
  | nil => exact Option.some.inj reached
  | cons token found ih =>
      obtain ⟨next, first, others⟩ := Option.bind_eq_some_iff.mp reached
      rw [List.foldl_cons, ← ih others]
      have same : token.depthBehind n = next := by
        unfold Token.level at first
        unfold Token.depthBehind
        split at first <;> simp_all
      rw [same]

/-- The kinds of the tokens of a source. -/
def kinds (source : List Char) : List Token :=
  (tokens source).map (·.token)

/-- The tokens of a text inside an output marker that is not ended. -/
def innerTokens (text : List Char) : List Token :=
  (kinds (Markup.openOutput ++ ' ' :: text)).tail

/-- What ends a marker: its end if no bracket is open, and otherwise two more brackets. -/
def ending : Nat → List Token
  | 0 => [.closeOutput]
  | _ + 1 => [.symbol .closeBrace, .symbol .closeBrace]

theorem Lexes.ending (depth : Nat) {blanks : List Char}
    (blank : blanks.dropWhile isTokenBlank = []) :
    Lexes (.marker .output depth) (blanks ++ ' ' :: Markup.closeOutput)
      (StagePlan.Expression.ending depth) := by
  have start : (blanks ++ ' ' :: Markup.closeOutput).dropWhile isTokenBlank =
      Markup.closeOutput ++ [] := by
    rw [List.dropWhile_append, blank]
    rfl
  cases depth with
  | zero => exact .closeOutput start .done
  | succ depth =>
      refine .token ['\x7d'] start (by decide) (.inl (Nat.succ_ne_zero depth)) rfl nofun ?_
      exact .token ['\x7d'] rfl (by decide) (.inr rfl) rfl nofun (.blank rfl)

theorem tokenAt_ne_closeOutput (text : List Char) : (tokenAt text).1 ≠ .closeOutput := by
  have number (text : List Char) : (readNumber text).1 ≠ .closeOutput := by
    rw [readNumber]
    dsimp only
    intro same
    repeat' split at same
    all_goals cases same
  cases text with
  | nil => nofun
  | cons c text =>
      intro same
      rw [tokenAt] at same
      repeat' split at same
      all_goals first | exact number _ same | cases same

/-- A text that does not end its marker has no such token. -/
theorem Inside.ne_closeOutput (inside : Inside text found) : .closeOutput ∉ found := by
  induction inside with
  | done => nofun
  | fault => simp
  | token start sound others ih =>
      intro among
      rcases List.mem_cons.mp among with same | behind
      · exact tokenAt_ne_closeOutput _ same.symm
      · exact ih behind

/-- The tokens of a marker whose text does not end it. -/
theorem Inside.lexes_marker (inside : Inside text found)
    (unended : Text.occurs Markup.closeOutput text = false) (follows : Follows follow)
    (others : ∀ blanks : List Char, blanks.dropWhile isTokenBlank = [] →
      Lexes (.marker .output (found.foldl Token.depthBehind 0)) (blanks ++ follow) more) :
    Lexes (.text false) (Markup.openOutput ++ ' ' :: (text ++ follow))
      (.openOutput :: upToFault found more) := by
  have wider : Text.occurs Markup.closeOutput (' ' :: text) = false := by
    rw [Text.occurs, unended, Bool.or_false]
    rfl
  exact .openOutput rfl ((inside.blank_cons rfl).lexes_append wider follows others)

theorem inside_innerTokens (unended : Text.occurs Markup.closeOutput text = false) :
    Inside text (innerTokens text) := by
  obtain ⟨found, inside⟩ := exists_inside text
  have alone := inside.lexes_marker unended .nil fun blanks blank => by
    rw [List.append_nil]
    exact .blank blank
  have same : innerTokens text = upToFault found [] := by
    rw [List.append_nil] at alone
    exact congrArg List.tail alone.map_tokens
  rw [upToFault, List.append_nil, ite_self] at same
  rwa [same]

/-- How many brackets are open behind a text in a marker. -/
def openedBy (text : List Char) : Nat :=
  (innerTokens text).foldl Token.depthBehind 0

theorem kinds_marker (unended : Text.occurs Markup.closeOutput text = false) :
    kinds (Markup.openOutput ++ ' ' :: (text ++ ' ' :: Markup.closeOutput)) =
      .openOutput :: upToFault (innerTokens text) (ending (openedBy text)) := by
  have follows : Follows (' ' :: Markup.closeOutput) := ⟨by simp, by simp [Markup.closeOutput]⟩
  exact Lexes.map_tokens ((inside_innerTokens unended).lexes_marker unended follows
    fun _ blank => .ending _ blank)

/-- The same behind a parenthesis, up to where it is closed, if the text does not close it. -/
theorem kinds_parenthesized (unended : Text.occurs Markup.closeOutput text = false) {n : Nat}
    (reached : level 0 (innerTokens text) = some n) {follow : List Char} {more : List Token}
    (unquoted : ∀ c ∈ follow, c ≠ '"' ∧ c ≠ '\x27')
    (others : Lexes (.marker .output n) follow more) :
    kinds (Markup.openOutput ++ ' ' :: '(' :: (text ++ ')' :: follow)) =
      .openOutput :: .symbol .openParen ::
        upToFault (innerTokens text) (.symbol .closeParen :: more) := by
  have follows : Follows (')' :: follow) := by
    refine ⟨by simp, fun c among => ?_⟩
    rcases List.mem_cons.mp among with rfl | behind
    · decide
    · exact unquoted c behind
  have paren : tokenAt (')' :: follow) = (.symbol .closeParen, follow) := by
    cases follow <;> rfl
  have deeper : (innerTokens text).foldl Token.depthBehind 1 = n + 1 :=
    foldl_depthBehind (level_succ reached)
  have inner : Lexes (.marker .output 1) (text ++ ')' :: follow)
      (upToFault (innerTokens text) (.symbol .closeParen :: more)) := by
    refine (inside_innerTokens unended).lexes_append unended follows fun blanks blank => ?_
    rw [deeper]
    refine .token [')'] ?_ (by decide) (.inl (Nat.succ_ne_zero n)) paren nofun others
    rw [List.dropWhile_append, blank]
    rfl
  refine Lexes.map_tokens (.openOutput rfl ?_)
  exact .token ['('] rfl (by decide) (.inr rfl) (tokenAt_openParen _) nofun inner

end StagePlan.Expression
