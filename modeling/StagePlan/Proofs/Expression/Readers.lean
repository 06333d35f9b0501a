import StagePlan.Expression.StatementReader

namespace StagePlan.Expression.Reader

/-!
What readers take from the tokens before them. Where the tokens stand makes no difference to this,
and shows only in the marks of what is read.
-/

variable {α β : Type} {depth : Nat} {reader : Reader α} {before mid after rest : List Token}
  {token other : Token} {P : α → Prop} {Q : β → Prop}

/-- Before these tokens, and at this depth, a reader succeeds, leaves the tokens `after` and gives a
result of a kind. -/
def Takes (depth : Nat) (reader : Reader α) (before after : List Token) (P : α → Prop) : Prop :=
  ∀ s : ReaderState, s.tokens.map (·.token) = before → s.depth = depth →
    ∃ result s', reader.run s = .ok (result, s') ∧ s'.tokens.map (·.token) = after ∧
      s'.depth = depth ∧ P result

namespace Takes

theorem pure {result : α} (holds : P result) :
    Takes depth (Pure.pure result) before before P :=
  fun s tokens level => ⟨result, s, rfl, tokens, level, holds⟩

theorem bind {next : α → Reader β} (first : Takes depth reader before mid P)
    (others : ∀ result, P result → Takes depth (next result) mid after Q) :
    Takes depth (reader >>= next) before after Q := by
  intro s tokens level
  obtain ⟨result, s', done, left, same, holds⟩ := first s tokens level
  obtain ⟨last, s'', later, remaining⟩ := others result holds s' left same
  refine ⟨last, s'', ?_, remaining⟩
  rw [StateT.run_bind, done]
  exact later

/-- The same where it is known what is read first. -/
theorem bind_eq {first : α} {next : α → Reader β}
    (known : Takes depth reader before mid (· = first))
    (others : Takes depth (next first) mid after Q) :
    Takes depth (reader >>= next) before after Q :=
  known.bind fun _ same => same ▸ others

theorem mono {P' : α → Prop} (takes : Takes depth reader before after P)
    (weaker : ∀ result, P result → P' result) : Takes depth reader before after P' := by
  intro s tokens level
  obtain ⟨result, s', done, left, same, holds⟩ := takes s tokens level
  exact ⟨result, s', done, left, same, weaker result holds⟩

end Takes

/-- A token that is no fault. -/
def IsSound (token : Token) : Prop :=
  ∀ reason, token ≠ .fault reason

theorem takes_peek? (sound : IsSound token) :
    Takes depth peek? (token :: rest) (token :: rest) (· = some token) := by
  intro s tokens level
  obtain ⟨placed, others, whole, rfl, left⟩ := List.map_eq_cons_iff.mp tokens
  refine ⟨some placed.token, s, ?_, tokens, level, rfl⟩
  simp only [peek?, StateT.run_bind, StateT.run_get, pure_bind, whole]
  split
  · rename_i reason faulty
    exact absurd faulty (sound reason)
  · rfl

theorem takes_peek?_nil : Takes depth peek? [] [] (· = none) := by
  intro s tokens level
  refine ⟨none, s, ?_, tokens, level, rfl⟩
  simp only [peek?, StateT.run_bind, StateT.run_get, pure_bind, List.map_eq_nil_iff.mp tokens]
  rfl

theorem takes_next? (sound : IsSound token) :
    Takes depth next? (token :: rest) rest (· = some token) := by
  refine Takes.bind_eq (takes_peek? sound) ?_
  intro s tokens level
  obtain ⟨placed, others, whole, rfl, left⟩ := List.map_eq_cons_iff.mp tokens
  refine ⟨some placed.token, { s with tokens := others, last := placed.span }, ?_, left, level, rfl⟩
  simp only [StateT.run_bind, StateT.run_modify, pure_bind, whole]
  rfl

theorem takes_next?_nil : Takes depth next? [] [] (· = none) := by
  refine Takes.bind_eq takes_peek?_nil ?_
  exact Takes.pure rfl

theorem takes_peekSpan : Takes depth peekSpan before before fun _ => True := by
  intro s tokens level
  simp only [peekSpan, StateT.run_bind, StateT.run_get, pure_bind]
  split
  · exact ⟨s.last, s, rfl, tokens, level, trivial⟩
  · split
    · exact ⟨s.last, s, rfl, tokens, level, trivial⟩
    · rename_i placed _ _ _ _
      exact ⟨placed.span, s, rfl, tokens, level, trivial⟩

theorem takes_lastSpan : Takes depth lastSpan before before fun _ => True :=
  fun s tokens level => ⟨s.last, s, rfl, tokens, level, trivial⟩

theorem takes_spanFrom (first : Span) :
    Takes depth (spanFrom first) before before fun _ => True :=
  fun s tokens level => ⟨first.upTo s.last, s, rfl, tokens, level, trivial⟩

/-- The token that is wanted is taken. -/
theorem takes_skip (sound : IsSound token) :
    Takes depth (skip token) (token :: rest) rest (· = true) := by
  refine Takes.bind_eq (takes_peek? sound) ?_
  rw [if_pos rfl]
  refine Takes.bind_eq (takes_next? sound) ?_
  exact Takes.pure rfl

/-- Another token stays. -/
theorem takes_skip_other (sound : IsSound other) (different : other ≠ token) :
    Takes depth (skip token) (other :: rest) (other :: rest) (· = false) := by
  refine Takes.bind_eq (takes_peek? sound) ?_
  rw [if_neg fun same => different (Option.some.inj same)]
  exact Takes.pure rfl

theorem takes_expect (sound : IsSound token) :
    Takes depth (expect token) (token :: rest) rest fun _ => True := by
  refine Takes.bind_eq (takes_next? sound) ?_
  simp only [ne_eq, not_true, if_false]
  exact Takes.pure trivial

theorem takes_deeper (room : depth < depthLimit)
    (inner : Takes (depth + 1) reader before after P) :
    Takes depth (deeper reader) before after P := by
  intro s tokens level
  obtain ⟨result, s', done, left, same, holds⟩ :=
    inner { s with depth := s.depth + 1 } tokens (congrArg (· + 1) level)
  refine ⟨result, { s' with depth := s'.depth - 1 }, ?_, left, by simp [same], holds⟩
  have shallow : ¬ depthLimit ≤ s.depth := by rw [level]; exact Nat.not_le_of_lt room
  simp only [deeper, StateT.run_bind, StateT.run_get, pure_bind, shallow, if_false,
    StateT.run_modify, done]
  rfl

/-! Expressions without operators. Readers for all of the operators pass such an expression on to
each other, as what stands behind it is none of theirs. -/

/-- The tokens that end the expressions in parentheses or in an output marker. -/
inductive Closing : Token → Prop
  | paren : Closing (.symbol .closeParen)
  | output : Closing .closeOutput

theorem Closing.sound (closing : Closing token) : IsSound token := by
  cases closing <;> nofun

section Operators

variable {fuel : Nat} {rank : Rank} {node : Node} {kind : Node → Prop}

theorem takes_rankedTail (closing : Closing token) (span : Span) :
    Takes depth (rankedTail (fuel + 1) rank span node) (token :: rest) (token :: rest)
      (· = node) := by
  rw [rankedTail]
  refine Takes.bind_eq (takes_peek? closing.sound) ?_
  have none_ : (some token).bind rank.operator? = none := by
    cases closing <;> cases rank <;> rfl
  rw [none_]
  exact Takes.pure rfl

theorem takes_ranked (closing : Closing token)
    (inner : Takes depth (operand (fuel + 1) rank) before (token :: rest) kind) :
    Takes depth (ranked (fuel + 2) rank) before (token :: rest) kind := by
  rw [ranked]
  refine Takes.bind takes_peekSpan fun span _ => ?_
  refine Takes.bind inner fun first holds => ?_
  exact (takes_rankedTail closing span).mono fun _ same => same ▸ holds

theorem takes_comparison (closing : Closing token)
    (inner : Takes depth (ranked (fuel + 1) .sum) before (token :: rest) kind) :
    Takes depth (comparison (fuel + 2)) before (token :: rest) kind := by
  rw [comparison]
  refine Takes.bind takes_lastSpan fun span _ => ?_
  refine Takes.bind inner fun first holds => ?_
  have links : Takes depth (comparisonLinks (fuel + 1)) (token :: rest) (token :: rest)
      (· = []) := by
    rw [comparisonLinks]
    refine Takes.bind_eq (takes_peek? closing.sound) ?_
    have none_ : (some token).bind comparison? = none := by cases closing <;> rfl
    rw [none_]
    exact Takes.pure rfl
  refine Takes.bind_eq links ?_
  exact Takes.bind (takes_spanFrom span) fun _ _ => Takes.pure holds

theorem takes_negation (sound : IsSound other) (plain : other ≠ .word "not")
    (inner : Takes depth (comparison fuel) (other :: before) after kind) :
    Takes depth (negation (fuel + 1)) (other :: before) after kind := by
  rw [negation]
  refine Takes.bind takes_peekSpan fun span _ => ?_
  refine Takes.bind_eq (takes_skip_other sound plain) ?_
  exact inner

theorem takes_choice (closing : Closing token)
    (inner : Takes depth (plain (fuel + 1)) before (token :: rest) kind) :
    Takes depth (choice (fuel + 2)) before (token :: rest) kind := by
  rw [choice]
  refine Takes.bind takes_lastSpan fun span _ => ?_
  refine Takes.bind inner fun first holds => ?_
  have different : token ≠ .word "if" := by cases closing <;> nofun
  rw [choiceTail]
  refine Takes.bind_eq (takes_skip_other closing.sound different) ?_
  exact Takes.pure holds

/-- An expression that is nothing but an operand with its filters. -/
theorem takes_expression (closing : Closing token) (room : depth < depthLimit)
    (sound : IsSound other) (plain_ : other ≠ .word "not")
    (inner : Takes (depth + 1) (filtered fuel) (other :: before) (token :: rest) kind) :
    Takes depth (expression (fuel + 17)) (other :: before) (token :: rest) kind := by
  have power : Takes (depth + 1) (ranked (fuel + 2) .power) (other :: before) (token :: rest)
      kind := takes_ranked closing inner
  have product : Takes (depth + 1) (ranked (fuel + 4) .product) (other :: before) (token :: rest)
      kind := takes_ranked closing power
  have concat : Takes (depth + 1) (ranked (fuel + 6) .concat) (other :: before) (token :: rest)
      kind := takes_ranked closing product
  have sum : Takes (depth + 1) (ranked (fuel + 8) .sum) (other :: before) (token :: rest) kind :=
    takes_ranked closing concat
  have compared : Takes (depth + 1) (comparison (fuel + 9)) (other :: before) (token :: rest)
      kind := takes_comparison closing sum
  have negated : Takes (depth + 1) (negation (fuel + 10)) (other :: before) (token :: rest) kind :=
    takes_negation sound plain_ compared
  have both : Takes (depth + 1) (ranked (fuel + 12) .and) (other :: before) (token :: rest) kind :=
    takes_ranked closing negated
  have either : Takes (depth + 1) (ranked (fuel + 14) .or) (other :: before) (token :: rest) kind :=
    takes_ranked closing both
  exact takes_deeper room (takes_choice closing either)

end Operators

/-! Operands: a name, an expression in parentheses, and a filter behind an operand. -/

section Operands

variable {fuel : Nat} {name : String} {node : Node} {kind : Node → Prop}

/-- What does not go on with an operand: it is no attribute, no item and no call. -/
def Ends (token : Token) : Prop :=
  IsSound token ∧ token ≠ .symbol .dot ∧ token ≠ .symbol .openBracket ∧ token ≠ .symbol .openParen

theorem Closing.ends (closing : Closing token) : Ends token := by
  cases closing <;> exact ⟨nofun, nofun, nofun, nofun⟩

theorem takes_primary_word (variable_ : literalWord? name = none) :
    Takes depth (primary (fuel + 1)) (.word name :: rest) rest
      fun node => ∃ span, node = .variable span name := by
  rw [primary]
  refine Takes.bind_eq (takes_next? (by nofun)) ?_
  refine Takes.bind takes_lastSpan fun span _ => ?_
  simp only [variable_]
  exact Takes.pure ⟨span, rfl⟩

theorem takes_primary_parens (sound : IsSound other) (some_ : other ≠ .symbol .closeParen)
    (inner : Takes depth (expression fuel) (other :: before) (.symbol .closeParen :: rest) kind) :
    Takes depth (primary (fuel + 2)) (.symbol .openParen :: other :: before) rest kind := by
  rw [primary]
  refine Takes.bind_eq (takes_next? (by nofun)) ?_
  refine Takes.bind takes_lastSpan fun span _ => ?_
  dsimp only
  rw [grouped]
  refine Takes.bind_eq (takes_skip_other sound some_) ?_
  refine Takes.bind inner fun first holds => ?_
  refine Takes.bind_eq (takes_peek? (by nofun)) ?_
  rw [if_neg (by nofun)]
  exact Takes.bind (takes_expect (by nofun)) fun _ _ => Takes.pure holds

theorem takes_extended (ended : Ends token) (sound : IsSound other)
    (unsigned : other ≠ .symbol .minus) (room : depth < depthLimit)
    (inner : Takes (depth + 1) (primary (fuel + 1)) (other :: before) (token :: rest) kind) :
    Takes depth (extended (fuel + 3)) (other :: before) (token :: rest) kind := by
  rw [extended]
  refine Takes.bind takes_peekSpan fun span _ => ?_
  have operand : Takes depth (signed (fuel + 2)) (other :: before) (token :: rest) kind := by
    rw [signed]
    refine Takes.bind takes_peekSpan fun _ _ => ?_
    refine Takes.bind_eq (takes_skip_other sound unsigned) ?_
    exact takes_deeper room inner
  refine Takes.bind operand fun first holds => ?_
  rw [extensions]
  refine Takes.bind takes_peekSpan fun _ _ => ?_
  obtain ⟨sound, noDot, noBracket, noParen⟩ := ended
  refine Takes.bind_eq (takes_peek? sound) ?_
  split
  · rename_i same
    exact absurd (Option.some.inj same) noDot
  · rename_i same
    exact absurd (Option.some.inj same) noBracket
  · rename_i same
    exact absurd (Option.some.inj same) noParen
  · exact Takes.pure holds

theorem takes_filters_none (closing : Closing token) :
    Takes depth (filters (fuel + 1) node) (token :: rest) (token :: rest) (· = node) := by
  have noBar : token ≠ .symbol .bar := by cases closing <;> nofun
  have noTest : token ≠ .word "is" := by cases closing <;> nofun
  rw [filters]
  refine Takes.bind_eq (takes_skip_other closing.sound noBar) ?_
  refine Takes.bind_eq (takes_skip_other closing.sound noTest) ?_
  exact Takes.pure rfl

theorem takes_filters_word (closing : Closing token) :
    Takes depth (filters (fuel + 2) node) (.symbol .bar :: .word name :: token :: rest)
      (token :: rest) fun whole => ∃ span, whole = .filter span name node [] := by
  obtain ⟨sound, noDot, _, noParen⟩ := closing.ends
  rw [filters]
  refine Takes.bind_eq (takes_skip (by nofun)) ?_
  have named : Takes depth (dottedName (fuel + 1)) (.word name :: token :: rest) (token :: rest)
      (·.1 = name) := by
    have first : Takes depth word (.word name :: token :: rest) (token :: rest) (· = name) := by
      refine Takes.bind_eq (takes_next? (by nofun)) ?_
      exact Takes.pure rfl
    have alone : Takes depth (nameTail name (fuel + 1)) (token :: rest) (token :: rest)
        (· = name) := by
      rw [nameTail]
      refine Takes.bind_eq (takes_skip_other sound noDot) ?_
      exact Takes.pure rfl
    refine Takes.bind_eq first ?_
    refine Takes.bind takes_lastSpan fun span _ => ?_
    exact Takes.bind alone fun _ same => Takes.pure same
  refine Takes.bind named ?_
  rintro ⟨_, span⟩ rfl
  dsimp only
  have unapplied : Takes depth (optionalArguments (fuel + 1)) (token :: rest) (token :: rest)
      (· = []) := by
    rw [optionalArguments]
    refine Takes.bind_eq (takes_peek? sound) ?_
    rw [if_neg fun same => noParen (Option.some.inj same)]
    exact Takes.pure rfl
  refine Takes.bind_eq unapplied ?_
  refine Takes.bind (takes_spanFrom span) fun whole _ => ?_
  exact (takes_filters_none closing).mono fun _ same => ⟨whole, same⟩

/-- A name in parentheses with a filter behind it. -/
theorem takes_filtered_word {filter : String} (closing : Closing token)
    (variable_ : literalWord? name = none) (plain : name ≠ "not") (room : depth + 3 < depthLimit) :
    Takes depth (expression (fuel + 43))
      (.symbol .openParen :: .word name :: .symbol .closeParen :: .symbol .bar :: .word filter ::
        token :: rest)
      (token :: rest) fun node =>
        ∃ span inner, node = .filter span filter (.variable inner name) [] := by
  have word : IsSound (.word name) := by nofun
  have behind : Ends (.symbol .bar) := ⟨nofun, nofun, nofun, nofun⟩
  have bare : Takes (depth + 3) (filtered (fuel + 4))
      (.word name :: .symbol .closeParen :: .symbol .bar :: .word filter :: token :: rest)
      (.symbol .closeParen :: .symbol .bar :: .word filter :: token :: rest)
      fun node => ∃ span, node = .variable span name := by
    rw [filtered]
    refine Takes.bind (takes_extended Closing.paren.ends word (by nofun) (by omega)
      (takes_primary_word variable_)) fun operand named => ?_
    exact (takes_filters_none .paren).mono fun _ same => same ▸ named
  have inner : Takes (depth + 2) (expression (fuel + 21))
      (.word name :: .symbol .closeParen :: .symbol .bar :: .word filter :: token :: rest)
      (.symbol .closeParen :: .symbol .bar :: .word filter :: token :: rest)
      fun node => ∃ span, node = .variable span name :=
    takes_expression .paren (by omega) word (fun same => plain (Token.word.inj same)) bare
  have whole : Takes (depth + 1) (filtered (fuel + 26))
      (.symbol .openParen :: .word name :: .symbol .closeParen :: .symbol .bar :: .word filter ::
        token :: rest)
      (token :: rest) fun node =>
        ∃ span inner, node = .filter span filter (.variable inner name) [] := by
    rw [filtered]
    refine Takes.bind (takes_extended behind (by nofun) (by nofun) (by omega)
      (takes_primary_parens word (by nofun) inner)) ?_
    rintro _ ⟨operand, rfl⟩
    exact (takes_filters_word closing).mono fun _ ⟨span, same⟩ => ⟨span, operand, same⟩
  exact takes_expression closing (by omega) (by nofun) (by nofun) whole

end Operands

/-- A template that is one output. -/
theorem takes_body_output {fuel : Nat} {kind : Node → Prop} {ends : List String}
    (inner : Takes depth (expression (fuel + 1)) before [.closeOutput] kind) :
    Takes depth (body (fuel + 2) ends) (.openOutput :: before) [] fun statements =>
      ∃ node, kind node ∧ statements = [.emit node.mark node] := by
  rw [body]
  refine Takes.bind_eq (takes_next? (by nofun)) ?_
  refine Takes.bind inner fun node holds => ?_
  refine Takes.bind (takes_expect (by nofun)) fun _ _ => ?_
  have ended : Takes depth (body (fuel + 1) ends) [] [] (· = []) := by
    rw [body]
    refine Takes.bind_eq takes_next?_nil ?_
    exact Takes.pure rfl
  refine Takes.bind_eq ended ?_
  exact Takes.pure ⟨node, holds, rfl⟩

end StagePlan.Expression.Reader
