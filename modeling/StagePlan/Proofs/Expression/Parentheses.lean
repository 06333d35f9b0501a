import Mathlib.Data.List.Basic
import StagePlan.Proofs.Expression.Inside
import StagePlan.Proofs.Expression.LockstepReaders

namespace StagePlan.Expression.Reader

/-!
An expression in parentheses with a filter behind it, and the same expression alone. Whether they can
be read is the same, and so is the expression that is read, if the tokens of the expression close no
bracket that they do not open and have no commas outside of brackets.
-/

open Expression.Expr

variable {α β : Type} {depth fuel : Nat} {reader : Reader α} {before mid after rest : List Token}
  {token : Token} {reason : SourceFault} {P : α → Prop}

/-- Before these tokens, and at this depth, a reader fails. -/
def Fails (depth : Nat) (reader : Reader α) (before : List Token) (reason : SourceFault) : Prop :=
  ∀ s : ReaderState, ahead s = before → s.depth = depth → reader.run s = .error reason

namespace Fails

theorem bind {next : α → Reader β} (first : Fails depth reader before reason) :
    Fails depth (reader >>= next) before reason := by
  intro s tokens level
  rw [StateT.run_bind, first s tokens level]
  rfl

theorem later {next : α → Reader β} (first : Takes depth reader before mid P)
    (others : ∀ result, P result → Fails depth (next result) mid reason) :
    Fails depth (reader >>= next) before reason := by
  intro s tokens level
  obtain ⟨result, s', done, left, same, holds⟩ := first s tokens level
  rw [StateT.run_bind, done]
  exact others result holds s' left same

theorem later_eq {first : α} {next : α → Reader β} (known : Takes depth reader before mid (· = first))
    (others : Fails depth (next first) mid reason) : Fails depth (reader >>= next) before reason :=
  later known fun _ same => same ▸ others

theorem deeper (room : depth < depthLimit) (inner : Fails (depth + 1) reader before reason) :
    Fails depth (Reader.deeper reader) before reason := by
  intro s tokens level
  rw [run_deeper, if_neg (by omega), inner { s with depth := s.depth + 1 } tokens (by simp [level])]

end Fails

/-- A state before tokens, wherever they stand. -/
def stateAt (depth : Nat) (before : List Token) : ReaderState :=
  { tokens := before.map fun token => ⟨token, default⟩, depth }

theorem ahead_stateAt (depth : Nat) (before : List Token) : ahead (stateAt depth before) = before := by
  simp [ahead, stateAt, Function.comp_def]

theorem Fails.not_takes (fails : Fails depth reader before reason)
    (takes : Takes depth reader before after P) : False := by
  obtain ⟨result, s', done, -⟩ := takes (stateAt depth before) (ahead_stateAt depth before) rfl
  rw [fails (stateAt depth before) (ahead_stateAt depth before) rfl] at done
  cases done

theorem Fails.unique {other : SourceFault} (fails : Fails depth reader before reason)
    (fails' : Fails depth reader before other) : other = reason := by
  have same := fails (stateAt depth before) (ahead_stateAt depth before) rfl
  rw [fails' (stateAt depth before) (ahead_stateAt depth before) rfl] at same
  exact Except.error.inj same

theorem Takes.unique {after' : List Token} {P' : α → Prop} (takes : Takes depth reader before after P)
    (takes' : Takes depth reader before after' P') : after' = after ∧ ∃ result, P result ∧ P' result := by
  obtain ⟨result, s, done, left, -, holds⟩ := takes (stateAt depth before) (ahead_stateAt depth before) rfl
  obtain ⟨result', s', done', left', -, holds'⟩ :=
    takes' (stateAt depth before) (ahead_stateAt depth before) rfl
  rw [done] at done'
  cases done'
  exact ⟨left'.symm.trans left, result, holds, holds'⟩

/-- What keeps a reader from reading on, where it needs some other token. -/
def obstacle : List Token → SourceFault
  | .fault reason :: _ => reason
  | _ => .malformed

theorem fails_peek?_fault : Fails depth peek? (.fault reason :: rest) reason := by
  intro s tokens _
  exact (run_of_ahead_fault tokens).1

theorem obstacle_of_sound (sound : IsSound token) : obstacle (token :: rest) = .malformed := by
  unfold obstacle
  split
  · rename_i same
    exact absurd (List.cons.inj same).1 (sound _)
  · rfl

/-- A token that is expected in vain. -/
theorem fails_expect (other : after.head? ≠ some token) :
    Fails depth (expect token) after (obstacle after) := by
  intro s tokens level
  rw [expect, StateT.run_bind]
  obtain ⟨none_, -, taken⟩ | ⟨reason, _, faulty, -, taken⟩ | ⟨found, _, _, some_, sound, -, taken, -⟩ :=
    next_cases s
  all_goals rw [taken]
  · rw [tokens] at none_
    rw [none_]
    rfl
  · rw [tokens] at faulty
    rw [faulty]
    rfl
  · rw [tokens] at some_
    rw [some_] at other ⊢
    rw [obstacle_of_sound sound]
    change (if some found ≠ some token then Reader.malformed else pure () : Reader Unit).run _ = _
    rw [if_pos (show some found ≠ some token from other)]
    rfl

section Chain

theorem fails_ranked {rank : Rank} (inner : Fails depth (operand fuel rank) before reason) :
    Fails depth (ranked (fuel + 1) rank) before reason := by
  rw [ranked]
  exact .later takes_peekSpan fun _ _ => .bind inner

/-- What makes a reader of negations fail makes the reader of expressions fail. -/
theorem fails_expression (room : depth < depthLimit)
    (inner : Fails (depth + 1) (negation fuel) before reason) :
    Fails depth (expression (fuel + 7)) before reason := by
  have both : Fails (depth + 1) (ranked (fuel + 2) .and) before reason := fails_ranked inner
  have either : Fails (depth + 1) (ranked (fuel + 4) .or) before reason := fails_ranked both
  refine .deeper room ?_
  rw [choice]
  exact .later takes_lastSpan fun _ _ => .bind either

/-- So does what makes the reader of operands fail. -/
theorem fails_expression_operand (room : depth < depthLimit) (sound : IsSound token)
    (plain_ : token ≠ .word "not")
    (inner : Fails (depth + 1) (extended fuel) (token :: before) reason) :
    Fails depth (expression (fuel + 18)) (token :: before) reason := by
  have filtered_ : Fails (depth + 1) (filtered (fuel + 1)) (token :: before) reason := by
    rw [filtered]
    exact .bind inner
  have power : Fails (depth + 1) (ranked (fuel + 3) .power) (token :: before) reason :=
    fails_ranked filtered_
  have product : Fails (depth + 1) (ranked (fuel + 5) .product) (token :: before) reason :=
    fails_ranked power
  have concat : Fails (depth + 1) (ranked (fuel + 7) .concat) (token :: before) reason :=
    fails_ranked product
  have sum : Fails (depth + 1) (ranked (fuel + 9) .sum) (token :: before) reason :=
    fails_ranked concat
  have compared : Fails (depth + 1) (comparison (fuel + 10)) (token :: before) reason := by
    rw [comparison]
    exact .later takes_lastSpan fun _ _ => .bind sum
  refine fails_expression room ?_
  rw [negation]
  exact .later takes_peekSpan fun _ _ => .later_eq (takes_skip_other sound plain_) compared

theorem fails_expression_parenthesis (room : depth + 1 < depthLimit)
    (inner : ∀ span, Fails (depth + 2) (grouped fuel span) before reason) :
    Fails depth (expression (fuel + 21)) (.symbol .openParen :: before) reason := by
  have primary_ : Fails (depth + 2) (primary (fuel + 1)) (.symbol .openParen :: before) reason := by
    rw [primary]
    exact .later_eq (takes_next? (by simp [IsSound])) (.later takes_lastSpan fun span _ => inner span)
  have signed_ : Fails (depth + 1) (signed (fuel + 2)) (.symbol .openParen :: before) reason := by
    rw [signed]
    exact .later takes_peekSpan fun _ _ =>
      .later_eq (takes_skip_other (by simp [IsSound]) (by simp)) (.deeper room primary_)
  refine fails_expression_operand (by omega) (by simp [IsSound]) (by simp) ?_
  rw [extended]
  exact .later takes_peekSpan fun _ _ => .bind signed_

theorem fails_expression_fault (room : depth < depthLimit) :
    Fails depth (expression (fuel + 8)) (.fault reason :: rest) reason := by
  refine fails_expression room ?_
  rw [negation]
  exact .later takes_peekSpan fun _ _ => .bind (.bind fails_peek?_fault)

/-- What stands in parentheses cannot be read if its first token cannot. -/
theorem fails_grouped_fault (span : Span) :
    Fails depth (grouped (fuel + 1) span) (.fault reason :: rest) reason := by
  rw [grouped]
  exact .bind (.bind fails_peek?_fault)

theorem fails_grouped (span : Span) (sound : IsSound token) (some_ : token ≠ .symbol .closeParen)
    (inner : Fails depth (expression fuel) (token :: rest) reason) :
    Fails depth (grouped (fuel + 1) span) (token :: rest) reason := by
  rw [grouped]
  exact .later_eq (takes_skip_other sound some_) (.bind inner)

/-- An expression that is not the whole of what stands in parentheses. -/
theorem fails_grouped_behind {kind : Node → Prop} (span : Span) (sound : IsSound token)
    (some_ : token ≠ .symbol .closeParen)
    (inner : Takes depth (expression fuel) (token :: rest) after kind)
    (noComma : after.head? ≠ some (.symbol .comma))
    (unclosed : after.head? ≠ some (.symbol .closeParen)) :
    Fails depth (grouped (fuel + 1) span) (token :: rest) (obstacle after) := by
  rw [grouped]
  refine .later_eq (takes_skip_other sound some_) (.later inner fun first _ => ?_)
  cases after with
  | nil =>
      refine .later_eq takes_peek?_nil ?_
      rw [if_neg (by simp)]
      exact .bind (fails_expect (by simp))
  | cons next behind =>
      by_cases faulty : ∃ reason, next = .fault reason
      · obtain ⟨reason, rfl⟩ := faulty
        exact .bind fails_peek?_fault
      · refine .later_eq (takes_peek? fun reason fault => faulty ⟨reason, fault⟩) ?_
        rw [if_neg (show some next ≠ some (.symbol .comma) from noComma)]
        exact .bind (fails_expect unclosed)

end Chain

section Alongside

variable {left right common : List Token} {gap f g : Nat} {e : Expr Place}

/-- An expression can be read or cannot, wherever its tokens stand. -/
theorem expression_cases (depth : Nat) (before : List Token) (enough : 25 * before.length + 21 ≤ f) :
    (∃ reason, Fails depth (expression f) before reason ∧
      (reason = .malformed ∨ .fault reason ∈ before)) ∨
    ∃ e taken after, Takes depth (expression f) before after (·.bare = e) ∧
      before = taken ++ after ∧ IsPhrase taken := by
  have steps := (allInStep f f).expression
  have alike (t : ReaderState) (tokens : ahead t = before) (level : t.depth = depth) :
      Matches [] [] 0 bare ((expression f).run (stateAt depth before)) ((expression f).run t) := by
    refine steps.alike [] [] 0 _ t .never ⟨⟨before, ?_, ?_⟩, level.symm⟩ trivial trivial ?_ ?_
    · rw [ahead_stateAt, List.append_nil]
    · rw [tokens, List.append_nil]
    · rwa [← length_ahead, ahead_stateAt]
    · rwa [← length_ahead, tokens]
  cases one : (expression f).run (stateAt depth before) with
  | error reason =>
      have known := steps.fails _ reason trivial one
      rw [ahead_stateAt] at known
      refine .inl ⟨reason, fun t tokens level => ?_, known⟩
      have same := alike t tokens level
      rw [one] at same
      exact same rfl rfl
  | ok result =>
      obtain ⟨node, mid⟩ := result
      obtain ⟨-, taken, split, phrase⟩ := steps.takes _ node mid trivial one
      rw [ahead_stateAt] at split
      refine .inr ⟨node.bare, taken, ahead mid, fun t tokens level => ?_, split, phrase⟩
      have same := alike t tokens level
      rw [one] at same
      rcases same with beyond | ⟨other, last, done, equal, ⟨common, front, front'⟩, level'⟩
      · cases beyond
      · obtain ⟨stays, -⟩ := steps.takes _ other last trivial done
        refine ⟨other, last, done, ?_, stays.trans level, equal.symm⟩
        rw [List.append_nil] at front front'
        exact front'.trans front.symm

/-- What one reader reads before the parting, another one reads that is no deeper. -/
theorem Takes.alongside (parting : Parting left right)
    (takes : Takes (depth + gap) (expression f) (common ++ left) (rest ++ left) (·.bare = e))
    (enough : 25 * (common ++ left).length + 21 ≤ f)
    (enough' : 25 * (common ++ right).length + 21 ≤ g) :
    Takes depth (expression g) (common ++ right) (rest ++ right) (·.bare = e) := by
  intro t tokens level
  obtain ⟨node, mid, done, front, -, equal⟩ :=
    takes (stateAt (depth + gap) (common ++ left)) (ahead_stateAt _ _) rfl
  have same := (allInStep f g).expression.alike left right gap (stateAt (depth + gap) (common ++ left))
    t parting ⟨⟨common, ahead_stateAt _ _, tokens⟩, by rw [level]; rfl⟩ trivial trivial
    (by rwa [← length_ahead, ahead_stateAt])
    (by rwa [← length_ahead, show ahead t = common ++ right from tokens])
  rw [done] at same
  rcases same with beyond | ⟨other, last, done', alike, ⟨shared, before, before'⟩, level'⟩
  · have length := congrArg List.length front
    rw [List.length_map, List.length_append] at length
    omega
  · obtain ⟨stays, -⟩ := (allInStep g g).expression.takes t other last trivial done'
    obtain rfl : shared = rest := List.append_cancel_right (before.symm.trans front)
    exact ⟨other, last, done', before', stays.trans level, alike.symm.trans equal⟩

/-- The amount of fuel makes no difference, if it is enough. -/
theorem Takes.refueled (takes : Takes depth (expression f) before after (·.bare = e))
    (enough : 25 * before.length + 21 ≤ f) (enough' : 25 * before.length + 21 ≤ g) :
    Takes depth (expression g) before after (·.bare = e) := by
  have wide : Takes (depth + 0) (expression f) (before ++ []) (after ++ []) (·.bare = e) := by
    rw [List.append_nil, List.append_nil]
    exact takes
  have same : Takes depth (expression g) (before ++ []) (after ++ []) (·.bare = e) :=
    wide.alongside .never (by rwa [List.append_nil]) (by rwa [List.append_nil])
  rwa [List.append_nil, List.append_nil] at same

theorem Fails.refueled (fails : Fails depth (expression f) before reason)
    (enough : 25 * before.length + 21 ≤ f) (enough' : 25 * before.length + 21 ≤ g) :
    Fails depth (expression g) before reason := by
  intro t tokens level
  have same := (allInStep f g).expression.alike [] [] 0 (stateAt depth before) t .never
    ⟨⟨before, by rw [ahead_stateAt, List.append_nil], by rw [tokens, List.append_nil]⟩, level.symm⟩
    trivial trivial (by rwa [← length_ahead, ahead_stateAt]) (by rwa [← length_ahead, tokens])
  rw [fails (stateAt depth before) (ahead_stateAt _ _) rfl] at same
  exact same rfl rfl

end Alongside

/-- An expression up to the end of its marker. -/
def output (fuel : Nat) : Reader Node := do
  let value ← expression fuel
  expect .closeOutput
  pure value

section Output

variable {inner taken : List Token} {n f g : Nat} {e : Expr Place}

theorem takes_output {kind : Node → Prop}
    (takes : Takes depth (expression f) before (.closeOutput :: rest) kind) :
    Takes depth (output f) before rest kind :=
  .bind takes fun _ holds => .bind (takes_expect (by simp [IsSound])) fun _ _ => .pure holds

theorem fails_output_behind {kind : Node → Prop}
    (takes : Takes depth (expression f) before after kind)
    (unended : after.head? ≠ some .closeOutput) :
    Fails depth (output f) before (obstacle after) :=
  .later takes fun _ _ => .bind (fails_expect unended)

theorem obstacle_of_clean (sound : ∀ token ∈ after, IsSound token) : obstacle after = .malformed := by
  cases after with
  | nil => rfl
  | cons token rest => exact obstacle_of_sound (sound token List.mem_cons_self)

/-- Without its end no marker can be read. -/
theorem fails_output (enough : 25 * before.length + 21 ≤ f)
    (sound : ∀ token ∈ before, IsSound token) (unended : .closeOutput ∉ before) :
    Fails depth (output f) before .malformed := by
  rcases expression_cases depth before enough with
    ⟨reason, fails, known⟩ | ⟨e, taken, after, takes, rfl, -⟩
  · obtain rfl := known.resolve_right fun among => sound _ among reason rfl
    exact .bind fails
  · have clean : ∀ token ∈ after, IsSound token := fun token among =>
      sound token (List.mem_append_right _ among)
    rw [← obstacle_of_clean clean]
    refine fails_output_behind takes fun head => unended ?_
    exact List.mem_append_right _ (List.mem_of_head? head)

/-- What cannot stand outside of brackets does not stand behind a phrase. -/
theorem head?_ne_of_level (reached : level 0 (taken ++ after) = some n) (balanced : Balanced taken)
    (unfit : token.level 0 = none) : after.head? ≠ some token := by
  intro head
  obtain ⟨rest, rfl⟩ := List.head?_eq_some_iff.mp head
  rw [balanced.level_eq_none unfit] at reached
  cases reached

theorem notMem_of_level (reached : level 0 inner = some n) : .closeOutput ∉ inner := by
  intro among
  obtain ⟨first, rest, rfl⟩ := List.append_of_mem among
  rw [level_append] at reached
  obtain ⟨m, -, behind⟩ := Option.bind_eq_some_iff.mp reached
  cases behind

/-- Neither the expression alone nor the one in parentheses can be read where neither is closed. -/
theorem fails_unclosed {first : Token} (reached : level 0 (first :: rest) = some n)
    (enough : 25 * (first :: rest).length + 21 ≤ f) (enough' : 25 * (first :: rest).length + 21 ≤ g) :
    ∃ reason, Fails 0 (output (f + 22)) (.symbol .openParen :: first :: rest) reason ∧
      Fails 2 (output g) (first :: rest) reason := by
  by_cases faulty : ∃ reason, first = .fault reason
  · obtain ⟨reason, rfl⟩ := faulty
    obtain ⟨g, rfl⟩ := Nat.exists_eq_add_of_le' (show 8 ≤ g by omega)
    refine ⟨reason, .bind (fails_expression_parenthesis (by decide) fails_grouped_fault), .bind ?_⟩
    exact fails_expression_fault (by decide)
  · have sound : IsSound first := fun reason fault => faulty ⟨reason, fault⟩
    have open_ : first ≠ .symbol .closeParen := by
      rintro rfl
      cases reached
    rcases expression_cases 2 (first :: rest) enough with
      ⟨reason, fails, -⟩ | ⟨e, taken, after, takes, split, phrase⟩
    · refine ⟨reason, .bind (fails_expression_parenthesis (by decide) fun span => ?_), .bind ?_⟩
      · exact fails_grouped span sound open_ fails
      · exact fails.refueled enough enough'
    · rw [split] at reached
      have behind {token : Token} (unfit : token.level 0 = none) : after.head? ≠ some token :=
        head?_ne_of_level reached phrase.balanced unfit
      refine ⟨obstacle after, .bind (fails_expression_parenthesis (by decide) fun span => ?_), ?_⟩
      · exact fails_grouped_behind span sound open_ takes (behind rfl) (behind rfl)
      · exact fails_output_behind (takes.refueled enough enough') (behind rfl)

/-- What stands behind the expression in parentheses. -/
def closing (name : String) (n : Nat) : List Token :=
  .symbol .closeParen :: .symbol .bar :: .word name :: ending n

theorem isSound_ending : ∀ token ∈ ending n, IsSound token := by
  cases n <;> simp [ending, IsSound]

theorem isSound_closing {name : String} : ∀ token ∈ closing name n, IsSound token := by
  simpa [closing, IsSound] using isSound_ending (n := n)

theorem isSound_append (sound : ∀ token ∈ inner, IsSound token)
    (behind : ∀ token ∈ after, IsSound token) : ∀ token ∈ inner ++ after, IsSound token :=
  fun token among => (List.mem_append.mp among).elim (sound token) (behind token)

/-- An expression in parentheses with a filter behind it. -/
theorem takes_parenthesized {first : Token} {name : String} {kind : Node → Prop}
    (sound : IsSound first) (open_ : first ≠ .symbol .closeParen)
    (inner : Takes 2 (expression f) (first :: (rest ++ closing name 0)) (closing name 0) kind) :
    Takes 0 (expression (f + 22)) (.symbol .openParen :: first :: (rest ++ closing name 0))
      [.closeOutput] fun node => ∃ span input, node = .filter span name input [] ∧ kind input := by
  have behind : Ends (.symbol .bar) := ⟨by simp [IsSound], by simp, by simp, by simp⟩
  have operand : Takes 1 (extended (f + 4)) (.symbol .openParen :: first :: (rest ++ closing name 0))
      (.symbol .bar :: .word name :: ending 0) kind :=
    takes_extended behind (by simp [IsSound]) (by simp) (by decide) (takes_primary_parens sound open_ inner)
  refine takes_expression .output (by decide) (by simp [IsSound]) (by simp) ?_
  rw [filtered]
  refine .bind operand fun input holds => ?_
  refine (takes_filters_word .output).mono ?_
  rintro _ ⟨span, same⟩
  exact ⟨span, input, same, holds⟩

/-- What a phrase leaves of the expression, with the closing behind it. -/
theorem exists_left {name : String} (reached : level 0 inner = some 0) (phrase : Balanced taken)
    (split : inner ++ closing name 0 = taken ++ after) :
    ∃ others, inner = taken ++ others ∧ after = others ++ closing name 0 := by
  rcases List.append_eq_append_iff.mp split with ⟨more, rfl, beyond⟩ | ⟨others, within, behind⟩
  · cases more with
    | nil => exact ⟨[], by simp, by simpa using beyond.symm⟩
    | cons token more =>
        -- a phrase that goes beyond the expression would close a parenthesis that it does not open
        obtain ⟨rfl, -⟩ := List.cons.inj beyond
        have none_ := phrase 0
        rw [level_append, reached] at none_
        cases none_
  · exact ⟨others, within, behind⟩

/-- What cannot be read in parentheses cannot be read alone. -/
theorem fails_alone {name : String} (reached : level 0 inner = some 0)
    (sound : ∀ token ∈ inner, IsSound token)
    (fails : Fails 2 (expression f) (inner ++ closing name 0) .malformed)
    (enough : 25 * (inner ++ closing name 0).length + 21 ≤ f)
    (enough' : 25 * (inner ++ ending 0).length + 21 ≤ g) :
    Fails 2 (output g) (inner ++ ending 0) .malformed := by
  have clean := isSound_append sound (isSound_ending (n := 0))
  rcases expression_cases 2 (inner ++ ending 0) enough' with
    ⟨reason, fails', known⟩ | ⟨e, taken, after, takes, split, -⟩
  · obtain rfl := known.resolve_right fun among => clean _ among reason rfl
    exact .bind fails'
  · rw [split] at clean
    rw [← obstacle_of_clean fun token among => clean token (List.mem_append_right _ among)]
    refine fails_output_behind takes fun ends => ?_
    obtain ⟨more, rfl⟩ := List.head?_eq_some_iff.mp ends
    obtain ⟨whole, -, rfl⟩ := (List.append_cons_inj_of_notMem (notMem_of_level reached)
      List.not_mem_nil).mp split
    have alone : Takes (2 + 0) (expression g) (inner ++ ending 0) ([] ++ ending 0) (·.bare = e) :=
      takes
    exact fails.not_takes (alone.alongside (.opened [] [.symbol .bar, .word name, .closeOutput])
      enough' enough)

/-- What is read in parentheses is read alone, at any depth up to theirs. -/
theorem takes_alone {name : String} {others : List Token}
    (takes : Takes 2 (expression f) (inner ++ closing name 0) (others ++ closing name 0) (·.bare = e))
    (enough : 25 * (inner ++ closing name 0).length + 21 ≤ f)
    (enough' : 25 * (inner ++ ending 0).length + 21 ≤ g) (shallow : depth ≤ 2) :
    Takes depth (expression g) (inner ++ ending 0) (others ++ ending 0) (·.bare = e) := by
  obtain ⟨gap, deep⟩ := Nat.exists_eq_add_of_le shallow
  rw [deep] at takes
  exact takes.alongside (.closed _ []) enough enough'

/-- The expression alone and the one in parentheses are read alike where both are closed. -/
theorem read_alike_closed {first : Token} {name : String} (reached : level 0 (first :: rest) = some 0)
    (sound : ∀ token ∈ first :: rest, IsSound token)
    (enough : 25 * (first :: (rest ++ closing name 0)).length + 21 ≤ f)
    (enough' : 25 * (first :: (rest ++ ending 0)).length + 21 ≤ g) :
    (Fails 0 (output (f + 22)) (.symbol .openParen :: first :: (rest ++ closing name 0)) .malformed ∧
      Fails 2 (output g) (first :: (rest ++ ending 0)) .malformed) ∨
    ∃ e, Takes 0 (output (f + 22)) (.symbol .openParen :: first :: (rest ++ closing name 0)) []
        (fun node => ∃ span input, node = .filter span name input [] ∧ input.bare = e) ∧
      ∀ depth ≤ 2, Takes depth (output g) (first :: (rest ++ ending 0)) [] (·.bare = e) := by
  have head := sound first List.mem_cons_self
  have open_ : first ≠ .symbol .closeParen := by
    rintro rfl
    cases reached
  rcases expression_cases 2 (first :: (rest ++ closing name 0)) enough with
    ⟨reason, fails, known⟩ | ⟨e, taken, after, takes, split, phrase⟩
  · obtain rfl := known.resolve_right fun among =>
      isSound_append sound isSound_closing _ among reason rfl
    refine .inl ⟨.bind (fails_expression_parenthesis (by decide) fun span => ?_), ?_⟩
    · exact fails_grouped span head open_ fails
    · exact fails_alone reached sound fails enough enough'
  · obtain ⟨others, within, rfl⟩ := exists_left reached phrase.balanced split
    have alone (depth : Nat) (shallow : depth ≤ 2) : Takes depth (expression g)
        (first :: rest ++ ending 0) (others ++ ending 0) (·.bare = e) :=
      takes_alone takes enough enough' shallow
    cases others with
    | nil =>
        refine .inr ⟨e, takes_output (takes_parenthesized head open_ takes), fun depth shallow => ?_⟩
        exact takes_output (alone depth shallow)
    | cons next others =>
        rw [within] at reached
        have plain : IsSound next := sound next (by rw [within]; simp)
        have noted {token : Token} (unfit : token.level 0 = none) (more : List Token) :
            (next :: (others ++ more)).head? ≠ some token :=
          fun same => head?_ne_of_level reached phrase.balanced unfit same
        refine .inl ⟨.bind (fails_expression_parenthesis (by decide) fun span => ?_), ?_⟩
        · rw [← obstacle_of_sound plain]
          exact fails_grouped_behind span head open_ takes (noted rfl _) (noted rfl _)
        · rw [← obstacle_of_sound plain]
          exact fails_output_behind (alone 2 (Nat.le_refl 2)) (noted rfl _)

/-- The expression alone and the one in parentheses are read alike: neither can be read, for the same
reason, even if the former is as deep as the latter, or both can. -/
theorem read_alike (reached : level 0 inner = some n) (some_ : inner ≠ []) (name : String)
    (enough : 25 * (upToFault inner (closing name n)).length + 25 ≤ f)
    (enough' : 25 * (upToFault inner (ending n)).length + 21 ≤ g) :
    (∃ reason,
      Fails 0 (output (f + 22)) (.symbol .openParen :: upToFault inner (closing name n)) reason ∧
      Fails 2 (output g) (upToFault inner (ending n)) reason) ∨
    ∃ e, Takes 0 (output (f + 22)) (.symbol .openParen :: upToFault inner (closing name n)) []
        (fun node => ∃ span input, node = .filter span name input [] ∧ input.bare = e) ∧
      ∀ depth ≤ 2, Takes depth (output g) (upToFault inner (ending n)) [] (·.bare = e) := by
  obtain ⟨first, rest, rfl⟩ := List.exists_cons_of_ne_nil some_
  by_cases faulty : (first :: rest).any Token.isFault = true
  · simp only [upToFault, if_pos faulty] at enough enough' ⊢
    exact .inl (fails_unclosed reached (by omega) enough')
  · simp only [upToFault, if_neg faulty] at enough enough' ⊢
    have sound : ∀ token ∈ first :: rest, IsSound token := by
      rintro token among reason rfl
      exact faulty (List.any_eq_true.mpr ⟨_, among, rfl⟩)
    cases n with
    | zero =>
        refine (read_alike_closed reached sound ?_ enough').imp_left fun fails => ⟨.malformed, fails⟩
        rw [List.cons_append] at enough
        omega
    | succ n =>
        refine .inl ⟨.malformed, ?_, ?_⟩
        · refine fails_output ?_ ?_ ?_
          · rw [List.length_cons]
            omega
          · refine List.forall_mem_cons.mpr ⟨by simp [IsSound], ?_⟩
            exact isSound_append sound isSound_closing
          · intro among
            have later := (List.mem_cons.mp among).resolve_left (by simp)
            rcases List.mem_append.mp later with within | behind
            · exact notMem_of_level reached within
            · simp [closing, ending] at behind
        · refine fails_output enough' ?_ ?_
          · exact isSound_append sound isSound_ending
          · intro among
            rcases List.mem_append.mp among with within | behind
            · exact notMem_of_level reached within
            · simp [ending] at behind

/-- An expression is read up to the end of its marker, or it is not. -/
theorem output_cases (depth : Nat) (before : List Token) (enough : 25 * before.length + 21 ≤ f) :
    (∃ reason, Fails depth (output f) before reason) ∨
    ∃ e taken after, Takes depth (output f) before after (·.bare = e) ∧
      before = taken ++ .closeOutput :: after ∧ IsPhrase taken := by
  rcases expression_cases depth before enough with
    ⟨reason, fails, -⟩ | ⟨e, taken, after, takes, split, phrase⟩
  · exact .inl ⟨reason, .bind fails⟩
  · by_cases ends : after.head? = some .closeOutput
    · obtain ⟨rest, rfl⟩ := List.head?_eq_some_iff.mp ends
      exact .inr ⟨e, taken, rest, takes_output takes, split, phrase⟩
    · exact .inl ⟨obstacle after, fails_output_behind takes ends⟩

theorem Fails.refueled_output (fails : Fails depth (output f) before reason)
    (enough : 25 * before.length + 21 ≤ f) (enough' : 25 * before.length + 21 ≤ g) :
    Fails depth (output g) before reason := by
  rcases expression_cases depth before enough with
    ⟨other, fails', -⟩ | ⟨e, taken, after, takes, -, -⟩
  · obtain rfl : other = reason := fails.unique (.bind fails')
    exact .bind (fails'.refueled enough enough')
  · by_cases ends : after.head? = some .closeOutput
    · obtain ⟨rest, rfl⟩ := List.head?_eq_some_iff.mp ends
      exact (fails.not_takes (takes_output takes)).elim
    · obtain rfl : obstacle after = reason := fails.unique (fails_output_behind takes ends)
      exact fails_output_behind (takes.refueled enough enough') ends

theorem Takes.refueled_output (takes : Takes depth (output f) before after (·.bare = e))
    (enough : 25 * before.length + 21 ≤ f) (enough' : 25 * before.length + 21 ≤ g) :
    Takes depth (output g) before after (·.bare = e) := by
  rcases expression_cases depth before enough with
    ⟨reason, fails, -⟩ | ⟨other, taken, behind, takes', -, -⟩
  · exact (fails.bind.not_takes takes).elim
  · by_cases ends : behind.head? = some .closeOutput
    · obtain ⟨rest, rfl⟩ := List.head?_eq_some_iff.mp ends
      obtain ⟨rfl, node, rfl, same⟩ := (takes_output takes').unique takes
      rw [same] at takes'
      exact takes_output (takes'.refueled enough enough')
    · exact ((fails_output_behind takes' ends).not_takes takes).elim

end Output

section Bodies

variable {f : Nat} {ends : List String} {chars : List Char}

theorem takes_body_of_output {kind : Node → Prop}
    (inner : Takes depth (output (f + 1)) before [] kind) :
    Takes depth (body (f + 2) ends) (.openOutput :: before) [] fun statements =>
      ∃ node, kind node ∧ statements = [.emit node.mark node] := by
  have ended : Takes depth (body (f + 1) ends) [] [] (· = []) := by
    rw [body]
    exact .bind_eq takes_next?_nil (.pure rfl)
  have whole : Takes depth
      (output (f + 1) >>= fun value => do pure (.emit value.mark value :: (← body (f + 1) ends)))
      before [] fun statements => ∃ node, kind node ∧ statements = [.emit node.mark node] :=
    .bind inner fun node holds => .bind_eq ended (.pure ⟨node, holds, rfl⟩)
  rw [body]
  refine .bind_eq (takes_next? (by simp [IsSound])) ?_
  simpa only [output, bind_assoc, pure_bind] using whole

theorem fails_body_of_output (inner : Fails depth (output f) before reason) :
    Fails depth (body (f + 1) ends) (.openOutput :: before) reason := by
  have whole : Fails depth
      (output f >>= fun value => do pure (.emit value.mark value :: (← body f ends))) before reason :=
    .bind inner
  rw [body]
  refine .later_eq (takes_next? (by simp [IsSound])) ?_
  simpa only [output, bind_assoc, pure_bind] using whole

theorem takes_body_text {kind : List (Statement Span) → Prop}
    (inner : Takes depth (body f ends) before after kind) :
    Takes depth (body (f + 1) ends) (.text chars :: before) after fun statements =>
      ∃ rest, kind rest ∧ statements = .text chars :: rest := by
  rw [body]
  refine .bind_eq (takes_next? (by simp [IsSound])) (.bind inner fun rest holds => .pure ⟨rest, holds, rfl⟩)

theorem fails_body_text (inner : Fails depth (body f ends) before reason) :
    Fails depth (body (f + 1) ends) (.text chars :: before) reason := by
  rw [body]
  exact .later_eq (takes_next? (by simp [IsSound])) (.bind inner)

end Bodies

end StagePlan.Expression.Reader
