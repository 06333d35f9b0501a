import StagePlan.Proofs.Expression.Brackets
import StagePlan.Proofs.Expression.Marks
import StagePlan.Proofs.Expression.Readers

namespace StagePlan.Expression.Reader

/-!
Readers in step. The same reader is run twice, before the same tokens at first: the two sources part
only where one has the parenthesis and the other has the marker end that may close an expression.
What one reader takes the other takes as well, as long as it stays in front of that, and what both
read differs in marks alone. Neither the depth of nesting, below its limit, nor the fuel, if there is
enough of it, makes a difference.
-/

variable {α β γ δ : Type}

/-- The tokens that are before a reader. -/
def ahead (s : ReaderState) : List Token :=
  s.tokens.map (·.token)

theorem length_ahead (s : ReaderState) : (ahead s).length = s.tokens.length :=
  List.length_map _

/-- How two sources go on where they part, if they do. -/
inductive Parting : List Token → List Token → Prop
  | never : Parting [] []
  | closed (left right : List Token) :
      Parting (.symbol .closeParen :: left) (.closeOutput :: right)
  | opened (left right : List Token) :
      Parting (.closeOutput :: left) (.symbol .closeParen :: right)

/-- States before the same tokens up to the parting, the first one `gap` levels deeper. -/
structure Beside (left right : List Token) (gap : Nat) (s t : ReaderState) : Prop where
  tokens : ∃ common, ahead s = common ++ left ∧ ahead t = common ++ right
  depth : s.depth = t.depth + gap

/-- What the second reader comes to, given what the first one does. A first reader that has gone
beyond the parting, or that fails where there is one, says nothing about the second. -/
def Matches (left right : List Token) (gap : Nat) (view : α → γ) :
    Except SourceFault (α × ReaderState) → Except SourceFault (α × ReaderState) → Prop
  | .ok (a, s), second =>
      s.tokens.length < left.length ∨
        ∃ b t, second = .ok (b, t) ∧ view a = view b ∧ Beside left right gap s t
  | .error reason, second => left = [] → gap = 0 → second = .error reason

/-- Readers with the fuels `f` and `g`, of which they need `k` besides what tokens need, in states
whose tokens satisfy `pre` and `pre'`. `P` says what is taken for a result, and `view` what is the
same in both results. -/
structure InStep (f g k : Nat) (pre pre' : List Token → Prop) (view : α → γ)
    (P : α → List Token → Prop) (m n : Reader α) : Prop where
  takes : ∀ s a s', pre (ahead s) → m.run s = .ok (a, s') →
    s'.depth = s.depth ∧ ∃ taken, ahead s = taken ++ ahead s' ∧ P a taken
  fails : ∀ s reason, pre (ahead s) → m.run s = .error reason →
    reason = .malformed ∨ .fault reason ∈ ahead s
  alike : ∀ left right gap s t, Parting left right → Beside left right gap s t →
    pre (ahead s) → pre' (ahead t) →
    25 * s.tokens.length + k ≤ f → 25 * t.tokens.length + k ≤ g →
    Matches left right gap view (m.run s) (n.run t)

/-- Nothing is known of the tokens. -/
def anything : List Token → Prop := fun _ => True

/-- The first token is known. -/
def Head (token? : Option Token) (tokens : List Token) : Prop := tokens.head? = token?

section Rules

variable {f g k : Nat} {pre pre' : List Token → Prop} {view : α → γ} {P : α → List Token → Prop}
  {m n : Reader α}

namespace InStep

theorem pure {a b : α} (same : view a = view b) (holds : P a []) :
    InStep f g k pre pre' view P (Pure.pure a) (Pure.pure b) where
  takes := by
    rintro s _ _ - ⟨⟩
    exact ⟨rfl, [], rfl, holds⟩
  fails := nofun
  alike _ _ _ s t _ beside _ _ _ _ := .inr ⟨b, t, rfl, same, beside⟩

theorem malformed : InStep f g k pre pre' view P Reader.malformed Reader.malformed where
  takes := nofun
  fails := by
    rintro s _ - ⟨⟩
    exact .inl rfl
  alike _ _ _ _ _ _ _ _ _ _ _ := fun _ _ => rfl

theorem run_bind_eq_ok {next : α → Reader β} {s : ReaderState} {b : β} {s' : ReaderState}
    (done : (m >>= next).run s = .ok (b, s')) :
    ∃ a mid, m.run s = .ok (a, mid) ∧ (next a).run mid = .ok (b, s') := by
  rw [StateT.run_bind] at done
  cases first : m.run s with
  | error reason => rw [first] at done; cases done
  | ok result => rw [first] at done; exact ⟨result.1, result.2, rfl, done⟩

theorem run_bind_eq_error {next : α → Reader β} {s : ReaderState} {reason : SourceFault}
    (failed : (m >>= next).run s = .error reason) :
    m.run s = .error reason ∨ ∃ a mid, m.run s = .ok (a, mid) ∧ (next a).run mid = .error reason := by
  rw [StateT.run_bind] at failed
  cases first : m.run s with
  | error other => rw [first] at failed; cases failed; exact .inl rfl
  | ok result => rw [first] at failed; exact .inr ⟨result.1, result.2, rfl, failed⟩

/-- What is taken later is taken behind what is taken first. -/
theorem bind {view' : β → δ} {Q : β → List Token → Prop} {next after : α → Reader β}
    (first : InStep f g k pre pre' view P m n)
    (others : ∀ a b taken, view a = view b → P a taken →
      InStep f g (k + 25 * taken.length) anything anything view'
        (fun result behind => Q result (taken ++ behind)) (next a) (after b)) :
    InStep f g k pre pre' view' Q (m >>= next) (n >>= after) where
  takes := by
    intro s b s' known done
    obtain ⟨a, mid, begun, later⟩ := run_bind_eq_ok done
    obtain ⟨level, taken, split, holds⟩ := first.takes s a mid known begun
    obtain ⟨level', behind, split', holds'⟩ :=
      (others a a taken rfl holds).takes mid b s' trivial later
    exact ⟨level'.trans level, taken ++ behind, by rw [split, split', List.append_assoc], holds'⟩
  fails := by
    intro s reason known failed
    rcases run_bind_eq_error failed with begun | ⟨a, mid, begun, later⟩
    · exact first.fails s reason known begun
    · obtain ⟨-, taken, split, holds⟩ := first.takes s a mid known begun
      refine ((others a a taken rfl holds).fails mid reason trivial later).imp_right fun among => ?_
      rw [split]
      exact List.mem_append_right _ among
  alike := by
    intro left right gap s t parting beside known known' enough enough'
    have begun := first.alike left right gap s t parting beside known known' enough enough'
    rw [StateT.run_bind]
    cases one : m.run s with
    | error reason =>
        rw [one] at begun
        intro whole level
        rw [StateT.run_bind, begun whole level]
        rfl
    | ok result =>
        obtain ⟨a, mid⟩ := result
        obtain ⟨-, taken, split, holds⟩ := first.takes s a mid known one
        rw [one] at begun
        change Matches left right gap view' ((next a).run mid) _
        rcases begun with beyond | ⟨b, mid', other, same, beside'⟩
        · -- whatever is read from here on, it is read beyond the parting
          cases later : (next a).run mid with
          | error reason =>
              intro whole
              rw [whole] at beyond
              cases beyond
          | ok last =>
              obtain ⟨c, s'⟩ := last
              obtain ⟨-, behind, split', -⟩ :=
                (others a a taken rfl holds).takes mid c s' trivial later
              have shorter := congrArg List.length split'
              rw [List.length_append, length_ahead, length_ahead] at shorter
              exact .inl (by omega)
        · rw [StateT.run_bind, other]
          obtain ⟨common, before, before'⟩ := beside.tokens
          obtain ⟨rest, behind, behind'⟩ := beside'.tokens
          have length := congrArg List.length split
          have length₁ := congrArg List.length before
          have length₂ := congrArg List.length before'
          have length₃ := congrArg List.length behind
          have length₄ := congrArg List.length behind'
          simp only [List.length_append, length_ahead] at length length₁ length₂ length₃ length₄
          exact (others a b taken same holds).alike left right gap mid mid' parting beside' trivial
            trivial (by omega) (by omega)

/-- The same where nothing is taken first, and the result makes no difference. -/
theorem seq {view' : β → δ} {Q : β → List Token → Prop} {next after : α → Reader β}
    (first : InStep f g k pre pre' (fun _ => ()) (fun _ taken => taken = []) m n)
    (others : ∀ a b, InStep f g k anything anything view' Q (next a) (after b)) :
    InStep f g k pre pre' view' Q (m >>= next) (n >>= after) :=
  first.bind fun a b _ _ none => by
    subst none
    exact others a b

theorem mono {Q : α → List Token → Prop} (steps : InStep f g k pre pre' view P m n)
    (weaker : ∀ a taken, P a taken → Q a taken) : InStep f g k pre pre' view Q m n where
  takes s a s' known done := by
    obtain ⟨level, taken, split, holds⟩ := steps.takes s a s' known done
    exact ⟨level, taken, split, weaker a taken holds⟩
  fails := steps.fails
  alike := steps.alike

/-- A reader that has more fuel than it needs. -/
theorem more {k' : Nat}
    (steps : InStep f g k' pre pre' view P m n) (less : k' ≤ k) :
    InStep f g k pre pre' view P m n where
  takes := steps.takes
  fails := steps.fails
  alike left right gap s t parting beside known known' enough enough' :=
    steps.alike left right gap s t parting beside known known' (by omega) (by omega)

/-- Without fuel nothing is read. -/
theorem unfueled (some_ : 0 < k) : InStep 0 g k pre pre' view P Reader.malformed n where
  takes := nofun
  fails := by
    rintro s _ - ⟨⟩
    exact .inl rfl
  alike _ _ _ _ _ _ _ _ _ enough _ := by omega

/-- Nothing is said of a second reader without fuel. -/
theorem alone {n' : Reader α} (some_ : 0 < k) (steps : InStep f g k pre pre' view P m n) :
    InStep f 0 k pre pre' view P m n' where
  takes := steps.takes
  fails := steps.fails
  alike _ _ _ _ _ _ _ _ _ _ enough := by omega

theorem of_anything (steps : InStep f g k anything anything view P m n) :
    InStep f g k pre pre' view P m n where
  takes s a s' _ := steps.takes s a s' trivial
  fails s reason _ := steps.fails s reason trivial
  alike left right gap s t parting beside _ _ :=
    steps.alike left right gap s t parting beside trivial trivial

/-- A reader that is called with less fuel. -/
theorem call {k' : Nat} (steps : InStep f g k' anything anything view P m n) (less : k' + 1 ≤ k) :
    InStep (f + 1) (g + 1) k pre pre' view P m n where
  takes s a s' _ := steps.takes s a s' trivial
  fails s reason _ := steps.fails s reason trivial
  alike left right gap s t parting beside _ _ enough enough' :=
    steps.alike left right gap s t parting beside trivial trivial (by omega) (by omega)

end InStep

/-! Reading tokens. -/

/-- There is no token, or a fault, or a token that can be looked at and taken. -/
theorem next_cases (s : ReaderState) :
    (ahead s = [] ∧ peek?.run s = .ok (none, s) ∧ next?.run s = .ok (none, s)) ∨
      (∃ reason rest, ahead s = .fault reason :: rest ∧ peek?.run s = .error reason ∧
        next?.run s = .error reason) ∨
      ∃ token rest s', ahead s = token :: rest ∧ IsSound token ∧
        peek?.run s = .ok (some token, s) ∧ next?.run s = .ok (some token, s') ∧
        ahead s' = rest ∧ s'.depth = s.depth := by
  cases before : ahead s with
  | nil =>
      obtain ⟨_, _, peeked, -, -, rfl⟩ := takes_peek?_nil s before rfl
      refine .inl ⟨rfl, ?_, ?_⟩
      all_goals
        have none_ : s.tokens = [] := List.map_eq_nil_iff.mp before
        simp only [next?, peek?, StateT.run_bind, StateT.run_get, pure_bind, none_]
        rfl
  | cons token rest =>
      obtain ⟨placed, others, whole, rfl, left⟩ := List.map_eq_cons_iff.mp before
      by_cases faulty : ∃ reason, placed.token = .fault reason
      · obtain ⟨reason, fault⟩ := faulty
        refine .inr (.inl ⟨reason, rest, by rw [fault], ?_, ?_⟩)
        all_goals
          simp only [next?, peek?, StateT.run_bind, StateT.run_get, pure_bind, whole, fault]
          rfl
      · have sound : IsSound placed.token := fun reason fault => faulty ⟨reason, fault⟩
        obtain ⟨_, s', taken, after, level, rfl⟩ := takes_next? sound s before rfl
        refine .inr (.inr ⟨placed.token, rest, s', rfl, sound, ?_, taken, after, level⟩)
        simp only [peek?, StateT.run_bind, StateT.run_get, pure_bind, whole]
        split
        · rename_i reason fault
          exact absurd fault (sound reason)
        · rfl

/-- First tokens that readers in step may have before them: the same one, or those at the parting. -/
inductive Alongside : Option Token → Option Token → Prop
  | same (token? : Option Token) : Alongside token? token?
  | closed : Alongside (some (.symbol .closeParen)) (some .closeOutput)
  | opened : Alongside (some .closeOutput) (some (.symbol .closeParen))

theorem Beside.alongside {left right : List Token} {gap : Nat} {s t : ReaderState}
    (beside : Beside left right gap s t) (parting : Parting left right) :
    Alongside (ahead s).head? (ahead t).head? := by
  obtain ⟨common, before, before'⟩ := beside.tokens
  rw [before, before']
  cases common with
  | cons token rest => exact .same (some token)
  | nil =>
      cases parting with
      | never => exact .same none
      | closed => exact .closed
      | opened => exact .opened

/-- States that do not part have the same tokens. -/
theorem Beside.ahead_eq {right : List Token} {gap : Nat} {s t : ReaderState}
    (beside : Beside [] right gap s t) (parting : Parting [] right) : ahead s = ahead t := by
  obtain ⟨common, before, before'⟩ := beside.tokens
  cases parting
  rw [before, before']

/-- A token beside a sound one is sound as well. -/
theorem Alongside.sound {token? : Option Token} (alongside : Alongside (some token) token?)
    (sound : IsSound token) : ∃ token', token? = some token' ∧ IsSound token' := by
  cases alongside with
  | same => exact ⟨token, rfl, sound⟩
  | closed => exact ⟨_, rfl, nofun⟩
  | opened => exact ⟨_, rfl, nofun⟩

theorem run_of_ahead_nil {s : ReaderState} (before : ahead s = []) :
    peek?.run s = .ok (none, s) ∧ next?.run s = .ok (none, s) := by
  obtain ⟨-, peeked, taken⟩ | ⟨_, _, faulty, -⟩ | ⟨_, _, _, some_, -⟩ := next_cases s
  · exact ⟨peeked, taken⟩
  · rw [faulty] at before
    cases before
  · rw [some_] at before
    cases before

theorem run_of_ahead_fault {s : ReaderState} (before : ahead s = .fault reason :: rest) :
    peek?.run s = .error reason ∧ next?.run s = .error reason := by
  obtain ⟨none_, -⟩ | ⟨_, _, faulty, peeked, taken⟩ | ⟨_, _, _, some_, sound, -⟩ := next_cases s
  · rw [none_] at before
    cases before
  · rw [faulty] at before
    cases before
    exact ⟨peeked, taken⟩
  · rw [some_] at before
    cases before
    exact absurd rfl (sound _)

theorem run_of_ahead_cons {s : ReaderState} (sound : IsSound token)
    (before : ahead s = token :: rest) :
    peek?.run s = .ok (some token, s) ∧
      ∃ s', next?.run s = .ok (some token, s') ∧ ahead s' = rest ∧ s'.depth = s.depth := by
  obtain ⟨none_, -⟩ | ⟨_, _, faulty, -⟩ | ⟨_, _, s', some_, -, peeked, taken, behind, level⟩ :=
    next_cases s
  · rw [none_] at before
    cases before
  · rw [faulty] at before
    cases before
    exact absurd rfl (sound _)
  · rw [some_] at before
    cases before
    exact ⟨peeked, s', taken, behind, level⟩

/-- What is read one level deeper. -/
theorem run_deeper (s : ReaderState) :
    (deeper m).run s =
      if depthLimit ≤ s.depth then .error .malformed
      else
        match m.run { s with depth := s.depth + 1 } with
        | .ok (a, s') => .ok (a, { s' with depth := s'.depth - 1 })
        | .error reason => .error reason := by
  simp only [deeper, StateT.run_bind, StateT.run_get, pure_bind]
  split
  · rfl
  · simp only [StateT.run_bind, StateT.run_modify, pure_bind]
    cases m.run { s with depth := s.depth + 1 } <;> rfl

namespace InStep

/-- The next token is looked at, and is known from then on. -/
theorem peek {view' : β → δ} {Q : β → List Token → Prop} {next after : Option Token → Reader β}
    (others : ∀ token? token?', Alongside token? token?' →
      InStep f g k (Head token?) (Head token?') view' Q (next token?) (after token?')) :
    InStep f g k pre pre' view' Q (peek? >>= next) (peek? >>= after) where
  takes s b s' _ done := by
    obtain ⟨token?, mid, peeked, later⟩ := run_bind_eq_ok done
    obtain ⟨none_, looked, -⟩ | ⟨_, _, _, looked, -⟩ | ⟨token, rest, -, some_, -, looked, -⟩ :=
      next_cases s
    · rw [looked] at peeked
      cases peeked
      exact (others none none (.same none)).takes s b s' (by rw [none_]; rfl) later
    · rw [looked] at peeked
      cases peeked
    · rw [looked] at peeked
      cases peeked
      exact (others _ _ (.same (some token))).takes s b s' (by rw [some_]; rfl) later
  fails s reason _ failed := by
    obtain ⟨none_, looked, -⟩ | ⟨other, rest, faulty, looked, -⟩ | ⟨token, rest, -, some_, -, looked, -⟩ :=
      next_cases s
    all_goals rw [StateT.run_bind, looked] at failed
    · exact (others none none (.same none)).fails s reason (by rw [none_]; rfl) failed
    · cases failed
      exact .inr (by rw [faulty]; exact List.mem_cons_self)
    · exact (others _ _ (.same (some token))).fails s reason (by rw [some_]; rfl) failed
  alike left right gap s t parting beside _ _ enough enough' := by
    have heads := beside.alongside parting
    rw [StateT.run_bind, StateT.run_bind]
    obtain ⟨none_, looked, -⟩ | ⟨reason, rest, faulty, looked, -⟩ |
      ⟨token, rest, -, some_, sound, looked, -⟩ := next_cases s
    all_goals rw [looked]
    · have none' : ahead t = [] := by
        rw [none_] at heads
        generalize there : (ahead t).head? = token? at heads
        cases heads
        exact List.head?_eq_none_iff.mp there
      rw [(run_of_ahead_nil none').1]
      exact (others none none (.same none)).alike left right gap s t parting beside
        (by rw [none_]; rfl) (by rw [none']; rfl) enough enough'
    · rintro rfl -
      rw [(run_of_ahead_fault (beside.ahead_eq parting ▸ faulty)).1]
      rfl
    · rw [some_, List.head?_cons] at heads
      obtain ⟨token', head, sound'⟩ := heads.sound sound
      obtain ⟨_, before'⟩ := List.head?_eq_some_iff.mp head
      rw [(run_of_ahead_cons sound' before').1]
      rw [head] at heads
      exact (others _ _ heads).alike left right gap s t parting beside (by rw [some_]; rfl) head
        enough enough'

/-- What is not known of the first token does not have to be known. -/
theorem of_heads (heads : ∀ token?, InStep f g k (Head token?) anything view P m n) :
    InStep f g k pre pre' view P m n where
  takes s a s' _ := (heads _).takes s a s' rfl
  fails s reason _ := (heads _).fails s reason rfl
  alike left right gap s t parting beside _ _ :=
    (heads _).alike left right gap s t parting beside rfl trivial

theorem next {token? : Option Token} :
    InStep f g k (Head token?) pre' id (fun result taken => result = token? ∧ taken = token?.toList)
      next? next? where
  takes s a s' head done := by
    obtain ⟨none_, -, taken⟩ | ⟨_, _, _, -, taken⟩ |
      ⟨token, rest, mid, some_, -, -, taken, behind, level⟩ := next_cases s
    all_goals
      rw [taken] at done
      cases done
    · rw [Head, none_] at head
      subst head
      exact ⟨rfl, [], rfl, rfl, rfl⟩
    · rw [Head, some_] at head
      subst head
      exact ⟨level, [token], by rw [some_, behind]; rfl, rfl, rfl⟩
  fails s reason _ failed := by
    obtain ⟨_, -, taken⟩ | ⟨_, _, faulty, -, taken⟩ | ⟨_, _, _, _, -, -, taken, -⟩ := next_cases s
    all_goals
      rw [taken] at failed
      cases failed
    exact .inr (by rw [faulty]; exact List.mem_cons_self)
  alike left right gap s t parting beside _ _ _ _ := by
    obtain ⟨common, before, before'⟩ := beside.tokens
    obtain ⟨none_, -, taken⟩ | ⟨reason, rest, faulty, -, taken⟩ |
      ⟨token, rest, s', some_, sound, -, taken, behind, level⟩ := next_cases s
    all_goals rw [taken]
    · have nothing : common = [] ∧ left = [] := by
        rw [none_] at before
        exact List.append_eq_nil_iff.mp before.symm
      obtain ⟨rfl, rfl⟩ := nothing
      cases parting
      exact .inr ⟨none, t, (run_of_ahead_nil before').2, rfl, beside⟩
    · rintro rfl -
      exact (run_of_ahead_fault (beside.ahead_eq parting ▸ faulty)).2
    · rw [some_] at before
      cases common with
      | nil =>
          have shorter := congrArg List.length before
          have length := congrArg List.length behind
          rw [length_ahead] at length
          simp only [List.length_cons, List.nil_append] at shorter
          exact .inl (by omega)
      | cons first others =>
          simp only [List.cons_append, List.cons.injEq] at before
          obtain ⟨rfl, rfl⟩ := before
          obtain ⟨-, t', taken', behind', level'⟩ := run_of_ahead_cons sound before'
          refine .inr ⟨_, t', taken', rfl, ⟨others, behind, behind'⟩, ?_⟩
          rw [level, level', beside.depth]

end InStep

end Rules

end StagePlan.Expression.Reader
