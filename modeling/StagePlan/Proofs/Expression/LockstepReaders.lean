import StagePlan.Proofs.Expression.LockstepRules

namespace StagePlan.Expression.Reader

/-!
The readers of expressions in step. There is one lemma for each reader, which goes through the reader
by the rules and uses what is known of the readers that it calls with less fuel. Every reader needs
fuel for the readers that call each other before a token is taken, and what a token pays for is more
than that.
-/

open Expression.Expr

/-- The fuel that the reader of a rank needs besides what tokens need. -/
def Rank.cost : Rank → Nat
  | .or => 18
  | .and => 16
  | .sum => 12
  | .concat => 10
  | .product => 8
  | .power => 6

/-- What both readers find out about operators and their right sides. -/
def bareOperands (links : List (Operator × Node)) : List (Operator × Expr Place) :=
  links.map fun link => (link.1, link.2.bare)

theorem bareLinks_map (whole : Span) (links : List (Operator × Node)) :
    bareLinks (links.map fun link => (whole, link)) =
      (bareOperands links).map fun link => (default, link) := by
  induction links with
  | nil => rfl
  | cons link rest ih => rw [List.map_cons, bareLinks, ih]; rfl

theorem Rank.le_cost (rank : Rank) : 6 ≤ rank.cost := by
  cases rank <;> decide

theorem Rank.cost_le (rank : Rank) : rank.cost ≤ 18 := by
  cases rank <;> decide

/-- An operator makes no difference to brackets. -/
theorem Rank.level_operator? {rank : Rank} {token : Token} {operator : Operator}
    (found : rank.operator? token = some operator) (n : Nat) : token.level n = some n := by
  unfold Rank.operator? at found
  split at found <;> first | rfl | cases found

theorem level_comparison? {token : Token} {operator : Operator}
    (found : comparison? token = some operator) (n : Nat) : token.level n = some n := by
  unfold comparison? at found
  split at found <;> first | rfl | cases found

/-- All readers of expressions with two amounts of fuel. -/
structure AllInStep (f g : Nat) : Prop where
  expression : InStep f g 21 anything anything bare (fun _ => IsPhrase) (expression f) (expression g)
  choice : InStep f g 20 anything anything bare (fun _ => IsPhrase) (choice f) (choice g)
  choiceTail (span span' : Span) {yes yes' : Node} (same : yes.bare = yes'.bare) :
    InStep f g 1 anything anything bare (fun _ => Balanced) (choiceTail f span yes)
      (choiceTail g span' yes')
  plain : InStep f g 19 anything anything bare (fun _ => IsPhrase) (plain f) (plain g)
  ranked (rank : Rank) : InStep f g rank.cost anything anything bare (fun _ => IsPhrase)
    (ranked f rank) (ranked g rank)
  rankedTail (rank : Rank) (span span' : Span) {left left' : Node} (same : left.bare = left'.bare) :
    InStep f g 1 anything anything bare (fun _ => Balanced) (rankedTail f rank span left)
      (rankedTail g rank span' left')
  operand (rank : Rank) : InStep f g (rank.cost - 1) anything anything bare (fun _ => IsPhrase)
    (operand f rank) (operand g rank)
  negation : InStep f g 14 anything anything bare (fun _ => IsPhrase) (negation f) (negation g)
  comparison : InStep f g 13 anything anything bare (fun _ => IsPhrase) (comparison f) (comparison g)
  comparisonLinks : InStep f g 1 anything anything bareOperands (fun _ => Balanced)
    (comparisonLinks f) (comparisonLinks g)
  filtered : InStep f g 4 anything anything bare (fun _ => IsPhrase) (filtered f) (filtered g)
  extended : InStep f g 3 anything anything bare (fun _ => IsPhrase) (extended f) (extended g)
  signed : InStep f g 2 anything anything bare (fun _ => IsPhrase) (signed f) (signed g)
  extensions (span span' : Span) {base base' : Node} (same : base.bare = base'.bare) :
    InStep f g 2 anything anything bare (fun _ => Balanced) (extensions f span base)
      (extensions g span' base')
  subscript (span span' : Span) {base base' : Node} (same : base.bare = base'.bare) :
    InStep f g 22 anything anything bare (fun _ => Closes) (subscript f span base)
      (subscript g span' base')
  filters {input input' : Node} (same : input.bare = input'.bare) :
    InStep f g 1 anything anything bare (fun _ => Balanced) (filters f input) (filters g input')
  optionalArguments : InStep f g 2 anything anything bareArguments (fun _ => Balanced)
    (optionalArguments f) (optionalArguments g)
  arguments : InStep f g 1 anything anything bareArguments (fun _ => IsPhrase) (arguments f)
    (arguments g)
  argumentsTail {given given' : List (ArgumentKind × Node)} (named : Bool)
    (same : bareArguments given = bareArguments given') :
    InStep f g 23 anything anything bareArguments (fun _ => Closes) (argumentsTail f given named)
      (argumentsTail g given' named)
  argument (named : Bool) :
    InStep f g 22 anything anything
      (fun found : (ArgumentKind × Node) × Bool => (found.1.1, found.1.2.bare, found.2))
      (fun _ => IsPhrase) (argument f named) (argument g named)
  primary : InStep f g 1 anything anything bare (fun _ => IsPhrase) (primary f) (primary g)
  grouped (span span' : Span) : InStep f g 22 anything anything bare (fun _ => Closes)
    (grouped f span) (grouped g span')
  listed {closing : Symbol} {items items' : List Node}
    (closes : IsClosing closing)
    (same : bareItems items = bareItems items') :
    InStep f g 22 anything anything bareItems (fun _ => Closes) (listed f closing items)
      (listed g closing items')
  entries {given given' : List (Node × Node)} (same : bareEntries given = bareEntries given') :
    InStep f g 22 anything anything bareEntries (fun _ => Closes) (entries f given)
      (entries g given')

section Tails

variable {α γ ι : Type} {k : Nat} {view : α → γ} {P : α → List Token → Prop}
  {reader : ι → Nat → Reader α}

/-- Induction on the first fuel for a reader that calls itself; the second fuel only has to be
there. -/
theorem inStep_of_succ (some_ : 0 < k) (unfueled : ∀ i, reader i 0 = Reader.malformed)
    (step : ∀ f g, (∀ i, InStep f g k anything anything view P (reader i f) (reader i g)) → ∀ i,
      InStep (f + 1) (g + 1) k anything anything view P (reader i (f + 1)) (reader i (g + 1)))
    (i : ι) (f g : Nat) : InStep f g k anything anything view P (reader i f) (reader i g) := by
  induction f generalizing g i with
  | zero =>
      rw [unfueled]
      exact .unfueled some_
  | succ f ih =>
      cases g with
      | zero => exact (step f 0 (fun i => ih i 0) i).alone some_
      | succ g => exact step f g (fun i => ih i g) i

/-- What is read so far is the text. -/
theorem inStep_stringTail : ∀ (text : String) (f g : Nat),
    InStep f g 1 anything anything id (fun _ => Balanced) (stringTail text f) (stringTail text g) := by
  refine inStep_of_succ Nat.one_pos (fun _ => rfl) fun f g ih text => ?_
  rw [stringTail, stringTail]
  refine .peek fun token? token?' alongside => ?_
  cases alongside with
  | closed | opened => exact .pure rfl .nil
  | same =>
    split
    · rename_i more
      exact .take (((ih (text ++ more)).call (by omega)).mono fun _ _ tail =>
        tail.cons fun _ => rfl)
    · exact .pure rfl .nil

theorem inStep_nameTail : ∀ (name : String) (f g : Nat),
    InStep f g 1 anything anything id (fun _ => Balanced) (nameTail name f) (nameTail name g) := by
  refine inStep_of_succ Nat.one_pos (fun _ => rfl) fun f g ih name => ?_
  rw [nameTail, nameTail]
  refine .skips (by decide) ?_ (.pure rfl .nil)
  refine .bind .word fun part _ taken same known => ?_
  obtain rfl := same
  subst known
  refine ((ih (name ++ "." ++ part)).call (by omega)).mono fun _ _ tail => ?_
  exact (tail.cons fun _ => rfl).cons fun _ => rfl

end Tails

theorem inStep_dottedName (f g : Nat) : InStep f g 0 anything anything Prod.fst (fun _ => IsPhrase)
    (dottedName f) (dottedName g) := by
  refine .bind .word fun first _ taken same known => ?_
  obtain rfl := same
  subst known
  refine .seq .lastSpan fun span span' => ?_
  refine .bind ((inStep_nameTail first f g).more (by simp)) fun name _ taken same balanced => ?_
  obtain rfl := same
  refine .pure rfl ?_
  rw [List.append_nil]
  exact .cons (fun _ => rfl) balanced

section Phrases

variable {f g k : Nat} {pre pre' : List Token → Prop} {m n other other' : Reader Node}

/-- A phrase and what goes on behind it. -/
theorem InStep.goes_on {next after : Node → Reader Node}
    (first : InStep f g k pre pre' bare (fun _ => IsPhrase) m n)
    (tail : ∀ node node', node.bare = node'.bare →
      InStep f g k anything anything bare (fun _ => Balanced) (next node) (after node')) :
    InStep f g k pre pre' bare (fun _ => IsPhrase) (m >>= next) (n >>= after) :=
  first.bind fun node node' _ same phrase =>
    ((tail node node' same).more (Nat.le_add_right _ _)).mono fun _ _ behind =>
      phrase.append behind

/-- A token in front of a phrase, or else another phrase. -/
theorem inStep_prefixed {token : Token} {build : Span → Node → Node} (inner : IsInner token)
    (plain : ∀ n, token.level n = some n)
    (builds : ∀ whole whole' node node', bare node = bare node' →
      bare (build whole node) = bare (build whole' node'))
    (wanted : InStep f g (k + 25) anything anything bare (fun _ => IsPhrase) m n)
    (else_ : InStep f g k anything anything bare (fun _ => IsPhrase) other other') :
    InStep f g k pre pre' bare (fun _ => IsPhrase)
      (do
        let span ← peekSpan
        if ← skip token then
          let node ← m
          pure (build (← spanFrom span) node)
        else other)
      (do
        let span ← peekSpan
        if ← skip token then
          let node ← n
          pure (build (← spanFrom span) node)
        else other') := by
  refine .seq .peekSpan fun span span' => .skips inner ?_ else_
  refine .bind wanted fun node node' taken same phrase => ?_
  refine .seq (.spanFrom span span') fun whole whole' => .pure (builds _ _ _ _ same) ?_
  rw [List.append_nil]
  exact .cons plain phrase.balanced

end Phrases

section Steps

variable {f g : Nat} (ih : AllInStep f g)

include ih

theorem inStep_expression : InStep (f + 1) (g + 1) 21 anything anything bare (fun _ => IsPhrase)
    (expression (f + 1)) (expression (g + 1)) := by
  rw [expression, expression]
  exact .deeper (ih.choice.call (by omega))

theorem inStep_choice : InStep (f + 1) (g + 1) 20 anything anything bare (fun _ => IsPhrase)
    (choice (f + 1)) (choice (g + 1)) := by
  rw [choice, choice]
  refine .seq .lastSpan fun span span' => .goes_on (ih.plain.call (by omega)) ?_
  exact fun _ _ same => (ih.choiceTail span span' same).call (by omega)

theorem inStep_choiceTail (span span' : Span) {yes yes' : Node} (same : yes.bare = yes'.bare) :
    InStep (f + 1) (g + 1) 1 anything anything bare (fun _ => Balanced)
      (choiceTail (f + 1) span yes) (choiceTail (g + 1) span' yes') := by
  rw [choiceTail, choiceTail]
  refine .skips (by decide) ?_ (.pure same .nil)
  refine .bind (ih.plain.call (by omega)) fun test test' taken agree phrase => ?_
  have rest {k : Nat} {no no' : Node} {more : List Token} (enough : 2 ≤ k)
      (alike : no.bare = no'.bare) (balanced : Balanced more) :
      InStep (f + 1) (g + 1) k anything anything bare
        (fun _ behind => Balanced (.word "if" :: (taken ++ (more ++ behind))))
        (do
          let whole ← spanFrom span
          choiceTail f (← lastSpan) (.choice whole test yes no))
        (do
          let whole ← spanFrom span'
          choiceTail g (← lastSpan) (.choice whole test' yes' no')) := by
    refine .seq (.spanFrom span span') fun whole whole' => .seq .lastSpan fun last last' => ?_
    have equal : bare (.choice whole test yes no) = bare (.choice whole' test' yes' no') := by
      rw [bare, bare, agree, same, alike]
    refine ((ih.choiceTail last last' equal).call enough).mono fun _ behind closed => ?_
    exact .cons (fun _ => rfl) (phrase.balanced.append (balanced.append closed))
  refine .skips (by decide) ?_ ?_
  · refine .bind (ih.choice.call (by omega)) fun no no' taken' alike phrase' => ?_
    exact rest (by omega) alike (.cons (fun _ => rfl) phrase'.balanced)
  · have nothing : bare (.literal span .nothing) = bare (.literal span' .nothing) := by
      rw [bare, bare]
    exact rest (by omega) nothing .nil

theorem inStep_plain : InStep (f + 1) (g + 1) 19 anything anything bare (fun _ => IsPhrase)
    (plain (f + 1)) (plain (g + 1)) := by
  rw [plain, plain]
  exact (ih.ranked .or).call (by simp only [Rank.cost]; omega)

theorem inStep_ranked (rank : Rank) :
    InStep (f + 1) (g + 1) rank.cost anything anything bare (fun _ => IsPhrase)
      (ranked (f + 1) rank) (ranked (g + 1) rank) := by
  rw [ranked, ranked]
  have some_ : 6 ≤ rank.cost := by cases rank <;> simp [Rank.cost]
  refine .seq .peekSpan fun span span' => .goes_on ((ih.operand rank).call (by omega)) ?_
  exact fun _ _ same => (ih.rankedTail rank span span' same).call (by omega)

theorem inStep_rankedTail (rank : Rank) (span span' : Span) {left left' : Node}
    (same : left.bare = left'.bare) :
    InStep (f + 1) (g + 1) 1 anything anything bare (fun _ => Balanced)
      (rankedTail (f + 1) rank span left) (rankedTail (g + 1) rank span' left') := by
  rw [rankedTail, rankedTail]
  refine .peek fun token? token?' alongside => ?_
  rw [alongside.bind_eq (by cases rank <;> rfl) (by cases rank <;> rfl)]
  cases found : token?.bind rank.operator? with
  | none => exact .pure same .nil
  | some operator =>
      obtain ⟨token, rfl, which⟩ := Option.bind_eq_some_iff.mp found
      have small := rank.cost_le
      refine .take (.bind ((ih.operand rank).call (by omega)) fun right right' taken agree phrase => ?_)
      refine .seq (.spanFrom span span') fun whole whole' => ?_
      have equal : bare (.binary whole operator left right) =
          bare (.binary whole' operator left' right') := by
        rw [bare, bare, same, agree]
      refine ((ih.rankedTail rank span span' equal).call (by omega)).mono fun _ behind closed => ?_
      exact .cons (Rank.level_operator? which) (phrase.balanced.append closed)

theorem inStep_operand (rank : Rank) :
    InStep (f + 1) (g + 1) (rank.cost - 1) anything anything bare (fun _ => IsPhrase)
      (operand (f + 1) rank) (operand (g + 1) rank) := by
  cases rank <;> rw [operand, operand]
  case or => exact (ih.ranked .and).call (by decide)
  case and => exact ih.negation.call (by decide)
  case sum => exact (ih.ranked .concat).call (by decide)
  case concat => exact (ih.ranked .product).call (by decide)
  case product => exact (ih.ranked .power).call (by decide)
  case power => exact ih.filtered.call (by decide)

theorem inStep_negation : InStep (f + 1) (g + 1) 14 anything anything bare (fun _ => IsPhrase)
    (negation (f + 1)) (negation (g + 1)) := by
  rw [negation, negation]
  refine inStep_prefixed (by decide) ?_ ?_ (ih.negation.call (by omega))
    (ih.comparison.call (by omega))
  · exact fun _ => rfl
  · intro _ _ _ _ same
    rw [bare, bare, same]

theorem inStep_comparison : InStep (f + 1) (g + 1) 13 anything anything bare (fun _ => IsPhrase)
    (comparison (f + 1)) (comparison (g + 1)) := by
  rw [comparison, comparison]
  refine .seq .lastSpan fun span span' => ?_
  refine .bind ((ih.ranked .sum).call (by decide)) fun first first' taken same phrase => ?_
  refine .bind (ih.comparisonLinks.call (by omega)) fun links links' taken' agree balanced => ?_
  refine .seq (.spanFrom span span') fun whole whole' => ?_
  have closed : IsPhrase (taken ++ (taken' ++ [])) := by
    rw [List.append_nil]
    exact phrase.append balanced
  have mismatched {P : Prop} (long : links.length ≠ links'.length) : P :=
    absurd (by simpa [bareOperands] using congrArg List.length agree) long
  rcases links with _ | ⟨link, _ | ⟨two, rest⟩⟩ <;>
    rcases links' with _ | ⟨link', _ | ⟨two', rest'⟩⟩
  case nil.nil => exact .pure same closed
  case cons.nil.cons.nil =>
      obtain ⟨operator, right⟩ : link.1 = link'.1 ∧ link.2.bare = link'.2.bare := by
        simpa [bareOperands] using agree
      exact .pure (by rw [bare, bare, same, operator, right]) closed
  case cons.cons.cons.cons =>
      exact .pure (by rw [bare, bare, same, bareLinks_map, bareLinks_map, agree]) closed
  all_goals exact mismatched (by simp)

theorem inStep_comparisonLinks : InStep (f + 1) (g + 1) 1 anything anything bareOperands
    (fun _ => Balanced) (comparisonLinks (f + 1)) (comparisonLinks (g + 1)) := by
  rw [comparisonLinks, comparisonLinks]
  refine .peek fun token? token?' alongside => ?_
  rw [alongside.bind_eq rfl rfl]
  cases found : token?.bind comparison? with
  | none => exact .pure rfl .nil
  | some operator =>
      obtain ⟨token, rfl, which⟩ := Option.bind_eq_some_iff.mp found
      -- the right side and further links, behind the word that `not in` takes besides
      have rest {k : Nat} {more : List Token} (enough : 13 ≤ k) (balanced : Balanced more) :
          InStep (f + 1) (g + 1) k anything anything bareOperands
            (fun _ behind => Balanced (token :: (more ++ behind)))
            (do
              let right ← ranked f .sum
              pure ((operator, right) :: (← comparisonLinks f)))
            (do
              let right ← ranked g .sum
              pure ((operator, right) :: (← comparisonLinks g))) := by
        refine .bind ((ih.ranked .sum).call enough) fun right right' taken same phrase => ?_
        refine .bind (ih.comparisonLinks.call (by omega)) fun links links' taken' agree closed => ?_
        refine .pure ?_ (.cons (level_comparison? which) ?_)
        · rw [bareOperands, bareOperands, List.map_cons, List.map_cons, same]
          exact congrArg _ agree
        · rw [List.append_nil]
          exact balanced.append (phrase.balanced.append closed)
      refine .take ?_
      dsimp only
      by_cases negated : operator = .notMember
      · rw [if_pos negated, if_pos negated]
        refine .bind (.expect (.word "in")) fun _ _ _ _ known => ?_
        subst known
        refine rest ?_ (.cons (fun _ => rfl) .nil)
        omega
      · rw [if_neg negated, if_neg negated]
        refine rest ?_ .nil
        omega

theorem inStep_filtered : InStep (f + 1) (g + 1) 4 anything anything bare (fun _ => IsPhrase)
    (filtered (f + 1)) (filtered (g + 1)) := by
  rw [filtered, filtered]
  exact .goes_on (ih.extended.call (by omega)) fun _ _ same => (ih.filters same).call (by omega)

theorem inStep_extended : InStep (f + 1) (g + 1) 3 anything anything bare (fun _ => IsPhrase)
    (extended (f + 1)) (extended (g + 1)) := by
  rw [extended, extended]
  refine .seq .peekSpan fun span span' => .goes_on (ih.signed.call (by omega)) ?_
  exact fun _ _ same => (ih.extensions span span' same).call (by omega)

theorem inStep_signed : InStep (f + 1) (g + 1) 2 anything anything bare (fun _ => IsPhrase)
    (signed (f + 1)) (signed (g + 1)) := by
  rw [signed, signed]
  refine inStep_prefixed (by decide) ?_ ?_ (ih.signed.call (by omega))
    (.deeper (ih.primary.call (by omega)))
  · exact fun _ => rfl
  · intro _ _ _ _ same
    rw [bare, bare, same]

theorem inStep_extensions (span span' : Span) {base base' : Node} (same : base.bare = base'.bare) :
    InStep (f + 1) (g + 1) 2 anything anything bare (fun _ => Balanced)
      (extensions (f + 1) span base) (extensions (g + 1) span' base') := by
  rw [extensions, extensions]
  refine .seq .peekSpan fun start start' => .peek fun token? token?' alongside => ?_
  cases alongside with
  | closed | opened => exact .pure same .nil
  | same =>
    split
    · refine .take (.takes_any fun token? => ?_)
      have goes {k : Nat} {name : Token} {whole whole' : Node} (enough : 3 ≤ k)
          (plain : ∀ n, name.level n = some n) (equal : whole.bare = whole'.bare) :
          InStep (f + 1) (g + 1) k anything anything bare
            (fun _ behind => Balanced (.symbol .dot :: ([name] ++ behind)))
            (extensions f start whole) (extensions g start' whole') :=
        ((ih.extensions start start' equal).call enough).mono fun _ _ closed =>
          .cons (fun _ => rfl) (.cons plain closed)
      split
      · refine .seq (.spanFrom span span') fun whole whole' => ?_
        refine goes ?_ (fun _ => rfl) ?_
        · omega
        · rw [bare, bare, same]
      · refine .seq (.spanFrom span span') fun whole whole' => .seq .lastSpan fun last last' => ?_
        refine goes ?_ (fun _ => rfl) ?_
        · omega
        · rw [bare, bare, same, bare, bare]
      · exact .malformed
    · refine .take (.bind ((ih.subscript span span' same).call (by omega)) ?_)
      intro whole whole' taken equal closes
      refine ((ih.extensions start start' equal).call (by omega)).mono fun _ _ closed => ?_
      exact (closes.bracket fun _ => rfl).append closed
    · refine .bind (ih.arguments.call (by omega)) fun given given' taken equal phrase => ?_
      have some_ := phrase.length_pos
      refine .seq (.spanFrom span span') fun whole whole' => ?_
      refine ((ih.extensions start start' ?_).call (by omega)).mono fun _ _ closed => ?_
      · rw [bare, bare, equal, bareCallee_asCallee, bareCallee_asCallee, same]
      · exact phrase.balanced.append closed
    · exact .pure same .nil

theorem inStep_subscript (span span' : Span) {base base' : Node} (same : base.bare = base'.bare) :
    InStep (f + 1) (g + 1) 22 anything anything bare (fun _ => Closes)
      (subscript (f + 1) span base) (subscript (g + 1) span' base') := by
  rw [subscript, subscript]
  have absent : bare (.literal span .none) = bare (.literal span' .none) := by rw [bare, bare]
  have nothing {k : Nat} : InStep (f + 1) (g + 1) k anything anything bare (fun _ => Balanced)
      (pure (.literal span .none)) (pure (.literal span' .none)) := .pure absent .nil
  have some_ {k : Nat} (enough : 22 ≤ k) : InStep (f + 1) (g + 1) k anything anything bare
      (fun _ => Balanced) (expression f) (expression g) :=
    (ih.expression.call enough).mono fun _ _ phrase => phrase.balanced
  refine .looks_bind (by decide) nothing (some_ (Nat.le_refl _)) ?_
  intro start start' taken one balanced
  refine .skips (by decide) ?_ ?_
  · -- the end of a slice, once all its parts are read
    have slice {k : Nat} {stop stop' step step' : Node} {more : List Token}
        (two : stop.bare = stop'.bare) (three : step.bare = step'.bare) (also : Balanced more) :
        InStep (f + 1) (g + 1) k anything anything bare
          (fun _ behind => Closes (taken ++ (.symbol .colon :: (more ++ behind))))
          (do
            expectSymbol .closeBracket
            pure (.slice (← spanFrom span) base start stop step))
          (do
            expectSymbol .closeBracket
            pure (.slice (← spanFrom span') base' start' stop' step')) := by
      refine .bind (.expect (.symbol .closeBracket)) fun _ _ _ _ closing => ?_
      subst closing
      refine .seq (.spanFrom span span') fun whole whole' => .pure ?_ ?_
      · rw [bare, bare, same, one, two, three]
      · have colon : Balanced (.symbol .colon :: more) := also.cons fun _ => rfl
        exact balanced.closes (colon.closes fun _ => rfl)
    -- what follows the second part of a slice: a step, or nothing
    have behind {k : Nat} {stop stop' : Node} {more : List Token} (enough : 22 ≤ k)
        (two : stop.bare = stop'.bare) (also : Balanced more) :
        InStep (f + 1) (g + 1) k anything anything bare
          (fun _ behind => Closes (taken ++ (.symbol .colon :: (more ++ behind))))
          (do
            let step ←
              if ← skipSymbol .colon then
                if (← peek?) = some (.symbol .closeBracket) then pure (.literal span .none)
                else expression f
              else pure (.literal span .none)
            expectSymbol .closeBracket
            pure (.slice (← spanFrom span) base start stop step))
          (do
            let step ←
              if ← skipSymbol .colon then
                if (← peek?) = some (.symbol .closeBracket) then pure (.literal span' .none)
                else expression g
              else pure (.literal span' .none)
            expectSymbol .closeBracket
            pure (.slice (← spanFrom span') base' start' stop' step)) := by
      refine .skips (by decide) ?_ (slice two absent also)
      refine .looks_bind (by decide) nothing (some_ (by omega)) ?_
      intro step step' last three later
      have colon : Balanced (.symbol .colon :: last) := later.cons fun _ => rfl
      refine (slice two three (also.append colon)).mono fun _ _ closes => ?_
      simpa using closes
    refine .peek fun token? token?' alongside => ?_
    cases alongside with
    | closed | opened =>
      refine .bind (some_ (by omega)).of_anything fun _ _ _ two also => ?_
      exact behind (by omega) two also
    | same =>
      split
      · refine .bind nothing.of_anything fun _ _ _ two also => ?_
        exact behind (by omega) two also
      · refine .bind nothing.of_anything fun _ _ _ two also => ?_
        exact behind (by omega) two also
      · refine .bind (some_ (by omega)).of_anything fun _ _ _ two also => ?_
        exact behind (by omega) two also
  · refine .bind (.expect (.symbol .closeBracket)) fun _ _ _ _ closing => ?_
    subst closing
    refine .seq (.spanFrom span span') fun whole whole' => .pure ?_ (balanced.closes fun _ => rfl)
    rw [bare, bare, same, one]

theorem inStep_filters {input input' : Node} (same : input.bare = input'.bare) :
    InStep (f + 1) (g + 1) 1 anything anything bare (fun _ => Balanced)
      (filters (f + 1) input) (filters (g + 1) input') := by
  rw [filters, filters]
  refine .skips (by decide) ?_ (.skips (by decide) ?_ (.pure same .nil))
  · refine .bind ((inStep_dottedName f g).call (by omega)) fun named named' taken agree phrase => ?_
    obtain ⟨name, span⟩ := named
    obtain ⟨_, span'⟩ := named'
    obtain rfl := agree
    refine .bind (ih.optionalArguments.call (by omega)) fun given given' taken' alike balanced => ?_
    refine .seq (.spanFrom span span') fun whole whole' => ?_
    refine ((ih.filters ?_).call (by omega)).mono fun _ _ tail => ?_
    · rw [bare, bare, same, alike]
    · exact .cons (fun _ => rfl) (phrase.balanced.append (balanced.append tail))
  · refine .bind (.skip (by decide)) fun negated _ word agree known => ?_
    obtain rfl := agree
    have plain : Balanced word := by
      subst known
      split
      · exact .cons (fun _ => rfl) .nil
      · exact .nil
    refine .bind ((inStep_dottedName f g).call (by omega)) fun named named' taken agree phrase => ?_
    obtain ⟨name, span⟩ := named
    obtain ⟨_, span'⟩ := named'
    obtain rfl := agree
    -- the test with its arguments, of which there may be none, and the filters behind it
    have rest {k : Nat} {given given' : List (ArgumentKind × Node)} {more : List Token}
        (enough : 2 ≤ k) (alike : bareArguments given = bareArguments given')
        (balanced : Balanced more) :
        InStep (f + 1) (g + 1) k anything anything bare
          (fun _ behind => Balanced (.word "is" :: (word ++ (taken ++ (more ++ behind)))))
          (do
            let whole ← spanFrom span
            filters f (if negated then .not whole (.test whole name input given)
              else .test whole name input given))
          (do
            let whole ← spanFrom span'
            filters g (if negated then .not whole (.test whole name input' given')
              else .test whole name input' given')) := by
      refine .seq (.spanFrom span span') fun whole whole' => ?_
      refine ((ih.filters ?_).call enough).mono fun _ _ tail => ?_
      · cases negated
        · simp only [bare, same, alike, Bool.false_eq_true, if_false]
        · simp only [bare, same, alike, if_true]
      · refine .cons (fun _ => rfl) (plain.append (phrase.balanced.append (balanced.append tail)))
    cases negated <;> simp only [id, if_true, Bool.false_eq_true, if_false] at rest ⊢
    all_goals
      have without {k : Nat} (enough : 2 ≤ k) := @rest k [] [] [] enough rfl .nil
      refine .peek fun token? token?' alongside => ?_
      cases alongside with
      | closed | opened => exact (without (by omega)).of_anything
      | same =>
        split
        · refine .bind (ih.arguments.call (by omega)) fun given given' more alike phrase' => ?_
          refine rest ?_ alike phrase'.balanced
          omega
        · split
          · refine .bind (ih.extended.call (by omega)) fun one one' more equal phrase' => ?_
            have alike : bareArguments [(.positional, one)] = bareArguments [(.positional, one')] := by
              rw [bareArguments, bareArguments, equal]
              rfl
            refine rest ?_ alike phrase'.balanced
            omega
          · exact (without (by omega)).of_anything
        · exact (without (by omega)).of_anything

theorem inStep_optionalArguments :
    InStep (f + 1) (g + 1) 2 anything anything bareArguments (fun _ => Balanced)
      (optionalArguments (f + 1)) (optionalArguments (g + 1)) := by
  rw [optionalArguments, optionalArguments]
  refine .looks (by decide) ?_ (.pure rfl .nil)
  exact (ih.arguments.call (by omega)).mono fun _ _ phrase => phrase.balanced

theorem inStep_arguments :
    InStep (f + 1) (g + 1) 1 anything anything bareArguments (fun _ => IsPhrase)
      (arguments (f + 1)) (arguments (g + 1)) := by
  rw [arguments, arguments]
  refine .bind (.expect (.symbol .openParen)) fun _ _ _ _ opening => ?_
  subst opening
  refine .bind ((ih.argumentsTail false rfl).call ?_) fun given given' taken same closes => ?_
  · simp
  · simp only [List.partition_eq_filter_filter]
    refine .pure ?_ ?_
    · rw [bareArguments_append, bareArguments_append]
      simp only [Function.comp_def, bareArguments_filter _ ArgumentKind.isNamed,
        bareArguments_filter _ fun kind => !kind.isNamed, same]
    · rw [List.append_nil]
      exact .bracket (fun _ => rfl) closes

theorem inStep_argumentsTail {given given' : List (ArgumentKind × Node)} (named : Bool)
    (same : bareArguments given = bareArguments given') :
    InStep (f + 1) (g + 1) 23 anything anything bareArguments (fun _ => Closes)
      (argumentsTail (f + 1) given named) (argumentsTail (g + 1) given' named) := by
  rw [argumentsTail, argumentsTail, ← isEmpty_eq_of_bareArguments same]
  refine .separated (.inl rfl) same ?_
  refine .bind ((ih.argument named).call (Nat.le_refl _)) fun found found' taken agree phrase => ?_
  obtain ⟨⟨kind, value⟩, isNamed⟩ := found
  obtain ⟨⟨kind', value'⟩, isNamed'⟩ := found'
  obtain ⟨rfl, equal, rfl⟩ : kind = kind' ∧ value.bare = value'.bare ∧ isNamed = isNamed' := by
    simpa using agree
  have longer : bareArguments (given ++ [(kind, value)]) =
      bareArguments (given' ++ [(kind, value')]) := by
    rw [bareArguments_append, bareArguments_append, same, bareArguments, bareArguments, equal]
    rfl
  have some_ := phrase.length_pos
  refine ((ih.argumentsTail (named || isNamed) longer).call (by omega)).mono fun _ _ closes => ?_
  exact phrase.balanced.closes closes

theorem inStep_argument (named : Bool) :
    InStep (f + 1) (g + 1) 22 anything anything
      (fun found : (ArgumentKind × Node) × Bool => (found.1.1, found.1.2.bare, found.2))
      (fun _ => IsPhrase) (argument (f + 1) named) (argument (g + 1) named) := by
  rw [argument, argument]
  have spread {k : Nat} {token : Token} (kind : ArgumentKind) (flag : Bool) (enough : 22 ≤ k)
      (plain : ∀ n, token.level n = some n) :
      InStep (f + 1) (g + 1) k anything anything
        (fun found : (ArgumentKind × Node) × Bool => (found.1.1, found.1.2.bare, found.2))
        (fun _ behind => IsPhrase (token :: behind))
        (do pure ((kind, ← expression f), flag)) (do pure ((kind, ← expression g), flag)) := by
    refine .bind (ih.expression.call enough) fun value value' taken same phrase => ?_
    refine .pure (by rw [same]) ?_
    rw [List.append_nil]
    exact .cons plain phrase.balanced
  refine .skips (by decide) (spread _ _ (by omega) fun _ => rfl) ?_
  refine .skips (by decide) (spread _ _ (by omega) fun _ => rfl) ?_
  refine .bind (ih.expression.call (by omega)) fun value value' taken same phrase => ?_
  have plain (agree : value.bare = value'.bare) :
      InStep (f + 1) (g + 1) (22 + 25 * taken.length) anything anything
        (fun found : (ArgumentKind × Node) × Bool => (found.1.1, found.1.2.bare, found.2))
        (fun _ behind => IsPhrase (taken ++ behind))
        (if named then Reader.malformed else pure ((.positional, value), false))
        (if named then Reader.malformed else pure ((.positional, value'), false)) := by
    split
    · exact .malformed
    · exact .pure (by rw [agree]) (phrase.append .nil)
  split
  · rename_i mark name
    obtain ⟨mark', rfl⟩ := eq_variable_of_bare (same.symm.trans (by rw [bare]))
    refine .skips (by decide) ?_ (plain same)
    refine .bind (ih.plain.call (by omega)) fun given given' taken' agree phrase' => ?_
    refine .pure (by rw [agree]) ?_
    rw [List.append_nil]
    exact phrase.append (phrase'.balanced.cons fun _ => rfl)
  · rename_i other
    cases value' <;> try exact plain same
    rename_i mark name
    obtain ⟨mark', known⟩ := eq_variable_of_bare (same.trans (by rw [bare]))
    exact absurd known (other mark' name)

theorem inStep_listed {closing : Symbol} {items items' : List Node} (closes : IsClosing closing)
    (same : bareItems items = bareItems items') :
    InStep (f + 1) (g + 1) 22 anything anything bareItems (fun _ => Closes)
      (listed (f + 1) closing items) (listed (g + 1) closing items') := by
  rw [listed, listed, ← isEmpty_eq_of_bareItems same]
  refine .separated closes same ?_
  refine .bind (ih.expression.call (Nat.le_refl _)) fun item item' taken agree phrase => ?_
  have longer : bareItems (items ++ [item]) = bareItems (items' ++ [item']) := by
    rw [bareItems_append, bareItems_append, same, bareItems, bareItems, agree]
    rfl
  have some_ := phrase.length_pos
  refine ((ih.listed closes longer).call (by omega)).mono fun _ _ behind => ?_
  exact phrase.balanced.closes behind

theorem inStep_entries {given given' : List (Node × Node)}
    (same : bareEntries given = bareEntries given') :
    InStep (f + 1) (g + 1) 22 anything anything bareEntries (fun _ => Closes)
      (entries (f + 1) given) (entries (g + 1) given') := by
  rw [entries, entries, ← isEmpty_eq_of_bareEntries same]
  refine .separated (.inr (.inr rfl)) same ?_
  refine .bind (ih.expression.call (Nat.le_refl _)) fun key key' taken agree phrase => ?_
  refine .bind (.expect (.symbol .colon)) fun _ _ _ _ colon => ?_
  subst colon
  refine .bind (ih.expression.call (by omega)) fun value value' taken' equal phrase' => ?_
  have longer : bareEntries (given ++ [(key, value)]) = bareEntries (given' ++ [(key', value')]) := by
    rw [bareEntries_append, bareEntries_append, same, bareEntries, bareEntries, agree, equal]
    rfl
  have some_ := phrase.length_pos
  refine ((ih.entries longer).call (by omega)).mono fun _ _ closes => ?_
  refine phrase.balanced.closes ?_
  exact Balanced.closes (.cons (fun _ => rfl) .nil) (phrase'.balanced.closes closes)

theorem inStep_grouped (span span' : Span) :
    InStep (f + 1) (g + 1) 22 anything anything bare (fun _ => Closes)
      (grouped (f + 1) span) (grouped (g + 1) span') := by
  rw [grouped, grouped]
  refine .skip_closing (fun _ _ closes => closes.ne_nil) ?_ ?_
  · refine .seq (.spanFrom span span') fun whole whole' => .pure ?_ fun _ => rfl
    rw [bare, bare]
  · refine .bind (ih.expression.call (Nat.le_refl _)) fun first first' taken same phrase => ?_
    have some_ := phrase.length_pos
    refine .looks (by decide) ?_ ?_
    · have one : bareItems [first] = bareItems [first'] := by
        rw [bareItems, bareItems, same]
        rfl
      refine .bind ((ih.listed (.inl rfl) one).call (by omega)) fun items items' taken' all closes => ?_
      refine .seq (.spanFrom span span') fun whole whole' => .pure ?_ ?_
      · rw [bare, bare, all]
      · rw [List.append_nil]
        exact phrase.balanced.closes closes
    · refine .bind (.expect (.symbol .closeParen)) fun _ _ _ _ closing => ?_
      subst closing
      refine .pure same (phrase.balanced.closes fun _ => rfl)

theorem inStep_primary : InStep (f + 1) (g + 1) 1 anything anything bare (fun _ => IsPhrase)
    (primary (f + 1)) (primary (g + 1)) := by
  rw [primary, primary]
  refine .takes_any fun token? => .seq .lastSpan fun span span' => ?_
  split
  · split
    · exact .pure (by rw [bare, bare]) (.cons (fun _ => rfl) .nil)
    · exact .pure (by rw [bare, bare]) (.cons (fun _ => rfl) .nil)
  · refine .bind ((inStep_stringTail _ f g).call ?_) fun whole _ taken same balanced => ?_
    · simp
    · obtain rfl := same
      refine .seq (.spanFrom span span') fun _ _ => .pure (by rw [bare, bare]; rfl) ?_
      rw [List.append_nil]
      exact .cons (fun _ => rfl) balanced
  · exact .pure (by rw [bare, bare]) (.cons (fun _ => rfl) .nil)
  · exact .pure (by rw [bare, bare]) (.cons (fun _ => rfl) .nil)
  · exact ((ih.grouped span span').call (by simp)).mono fun _ _ closes => .bracket (fun _ => rfl) closes
  · have none_ : bareItems ([] : List Node) = bareItems ([] : List Node) := rfl
    refine .bind ((ih.listed (.inr (.inl rfl)) none_).call (by simp)) ?_
    intro items items' taken same closes
    refine .seq (.spanFrom span span') fun _ _ => .pure (by rw [bare, bare, same]) ?_
    rw [List.append_nil]
    exact .bracket (fun _ => rfl) closes
  · have none_ : bareEntries ([] : List (Node × Node)) = bareEntries ([] : List (Node × Node)) := rfl
    refine .bind ((ih.entries none_).call (by simp)) ?_
    intro given given' taken same closes
    refine .seq (.spanFrom span span') fun _ _ => .pure (by rw [bare, bare, same]) ?_
    rw [List.append_nil]
    exact .bracket (fun _ => rfl) closes
  · exact .malformed

/-- What is known of the readers with less fuel is known of those with more. -/
theorem AllInStep.succ : AllInStep (f + 1) (g + 1) where
  expression := inStep_expression ih
  choice := inStep_choice ih
  choiceTail := inStep_choiceTail ih
  plain := inStep_plain ih
  ranked := inStep_ranked ih
  rankedTail := inStep_rankedTail ih
  operand := inStep_operand ih
  negation := inStep_negation ih
  comparison := inStep_comparison ih
  comparisonLinks := inStep_comparisonLinks ih
  filtered := inStep_filtered ih
  extended := inStep_extended ih
  signed := inStep_signed ih
  extensions := inStep_extensions ih
  subscript := inStep_subscript ih
  filters := inStep_filters ih
  optionalArguments := inStep_optionalArguments ih
  arguments := inStep_arguments ih
  argumentsTail := inStep_argumentsTail ih
  argument := inStep_argument ih
  primary := inStep_primary ih
  grouped := inStep_grouped ih
  listed := inStep_listed ih
  entries := inStep_entries ih

end Steps

/-- Without fuel nothing is read. -/
theorem AllInStep.unfueled (g : Nat) : AllInStep 0 g where
  expression := .unfueled (by decide)
  choice := .unfueled (by decide)
  choiceTail _ _ _ _ _ := .unfueled (by decide)
  plain := .unfueled (by decide)
  ranked rank := .unfueled (Nat.lt_of_lt_of_le (by decide) rank.le_cost)
  rankedTail _ _ _ _ _ _ := .unfueled (by decide)
  operand rank := .unfueled (by have := rank.le_cost; omega)
  negation := .unfueled (by decide)
  comparison := .unfueled (by decide)
  comparisonLinks := .unfueled (by decide)
  filtered := .unfueled (by decide)
  extended := .unfueled (by decide)
  signed := .unfueled (by decide)
  extensions _ _ _ _ _ := .unfueled (by decide)
  subscript _ _ _ _ _ := .unfueled (by decide)
  filters _ := .unfueled (by decide)
  optionalArguments := .unfueled (by decide)
  arguments := .unfueled (by decide)
  argumentsTail _ _ := .unfueled (by decide)
  argument _ := .unfueled (by decide)
  primary := .unfueled (by decide)
  grouped _ _ := .unfueled (by decide)
  listed _ _ := .unfueled (by decide)
  entries _ := .unfueled (by decide)

theorem AllInStep.alone {f g : Nat} (steps : AllInStep f g) : AllInStep f 0 where
  expression := steps.expression.alone (by decide)
  choice := steps.choice.alone (by decide)
  choiceTail span span' _ _ same := (steps.choiceTail span span' same).alone (by decide)
  plain := steps.plain.alone (by decide)
  ranked rank := (steps.ranked rank).alone (Nat.lt_of_lt_of_le (by decide) rank.le_cost)
  rankedTail rank span span' _ _ same := (steps.rankedTail rank span span' same).alone (by decide)
  operand rank := (steps.operand rank).alone (by have := rank.le_cost; omega)
  negation := steps.negation.alone (by decide)
  comparison := steps.comparison.alone (by decide)
  comparisonLinks := steps.comparisonLinks.alone (by decide)
  filtered := steps.filtered.alone (by decide)
  extended := steps.extended.alone (by decide)
  signed := steps.signed.alone (by decide)
  extensions span span' _ _ same := (steps.extensions span span' same).alone (by decide)
  subscript span span' _ _ same := (steps.subscript span span' same).alone (by decide)
  filters same := (steps.filters same).alone (by decide)
  optionalArguments := steps.optionalArguments.alone (by decide)
  arguments := steps.arguments.alone (by decide)
  argumentsTail named same := (steps.argumentsTail named same).alone (by decide)
  argument named := (steps.argument named).alone (by decide)
  primary := steps.primary.alone (by decide)
  grouped span span' := (steps.grouped span span').alone (by decide)
  listed closes same := (steps.listed closes same).alone (by decide)
  entries same := (steps.entries same).alone (by decide)

/-- Induction on the first fuel; the second one only has to be there. -/
theorem allInStep (f g : Nat) : AllInStep f g := by
  induction f generalizing g with
  | zero => exact .unfueled g
  | succ f ih =>
    cases g with
    | zero => exact (AllInStep.succ (ih 0)).alone
    | succ g => exact .succ (ih g)

end StagePlan.Expression.Reader
