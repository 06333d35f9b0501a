import StagePlan.Proofs.Expression.Lockstep

namespace StagePlan.Expression.Reader

/-!
Rules for readers in step. They go by what a reader does with the tokens before it: takes one of them
if it is there, looks at one, expects one, or takes items up to a closing bracket.
-/

variable {α β γ δ : Type}

/-- A token that is no end of an expression in parentheses or in a marker. -/
def IsInner (token : Token) : Prop :=
  token ≠ .symbol .closeParen ∧ token ≠ .closeOutput

instance (token : Token) : Decidable (IsInner token) :=
  inferInstanceAs (Decidable (_ ∧ _))

/-- Tokens alongside each other are the same ones for a reader that looks at them for anything else
than the end of an expression. -/
theorem Alongside.bind_eq {α : Type} {token? token?' : Option Token} {look : Token → Option α}
    (alongside : Alongside token? token?') (paren : look (.symbol .closeParen) = none)
    (output : look .closeOutput = none) : token?'.bind look = token?.bind look := by
  cases alongside with
  | same => rfl
  | closed | opened => rw [Option.bind_some, Option.bind_some, paren, output]

section Separated

variable {α : Type} {closing : Symbol} {known : α} {item : Reader α}

/-- Items with commas between them, up to a closing bracket: what is known of them before, and what
goes on with one more. -/
def separated (closing : Symbol) (none_ : Bool) (known : α) (item : Reader α) : Reader α := do
  if ← skip (.symbol closing) then pure known
  else
    if !none_ then expect (.symbol .comma)
    if !none_ && (← skip (.symbol closing)) then pure known
    else item

theorem skip_cases (token : Token) (s : ReaderState) :
    (∃ reason, (skip token).run s = .error reason) ∨ (skip token).run s = .ok (false, s) ∨
      ∃ s', (skip token).run s = .ok (true, s') := by
  rw [skip, StateT.run_bind]
  obtain ⟨-, looked, -⟩ | ⟨_, _, -, looked, -⟩ | ⟨other, _, s', -, -, looked, taken, -⟩ := next_cases s
  all_goals rw [looked]
  · exact .inr (.inl rfl)
  · exact .inl ⟨_, rfl⟩
  · by_cases there : other = token
    · refine .inr (.inr ⟨s', ?_⟩)
      change (if some other = some token then next? >>= fun _ => pure true
        else pure false : Reader Bool).run s = _
      rw [if_pos (congrArg some there), StateT.run_bind, taken]
      rfl
    · refine .inr (.inl ?_)
      change (if some other = some token then next? >>= fun _ => pure true
        else pure false : Reader Bool).run s = _
      rw [if_neg (there <| Option.some.inj ·)]
      rfl

/-- A token that was not there the first time is not there the second time. -/
theorem skip_twice (token : Token) (found : Reader α) (go : Bool → Reader α) :
    (do if ← skip token then found else go (← skip token)) =
      (do if ← skip token then found else go false) := by
  funext s
  change (skip token >>= _).run s = (skip token >>= _).run s
  rw [StateT.run_bind, StateT.run_bind]
  obtain ⟨reason, failed⟩ | missing | ⟨s', taken⟩ := skip_cases token s
  · rw [failed]
    rfl
  · rw [missing]
    change (skip token >>= _).run s = _
    rw [StateT.run_bind, missing]
    rfl
  · rw [taken]
    rfl

theorem separated_true : separated closing true known item =
    (do if ← skip (.symbol closing) then pure known else item) :=
  skip_twice (.symbol closing) (pure known) fun _ => item

theorem separated_false : separated closing false known item =
    (do
      if ← skip (.symbol closing) then pure known
      else
        expect (.symbol .comma)
        if ← skip (.symbol closing) then pure known else item) :=
  rfl

end Separated

section Rules

variable {f g k : Nat} {pre pre' : List Token → Prop} {view : α → γ} {P : α → List Token → Prop}
  {m n : Reader α}

namespace InStep

theorem wanted_iff {token?  token?' : Option Token} {token : Token} (inner : IsInner token)
    (alongside : Alongside token? token?') : token? = some token ↔ token?' = some token := by
  obtain ⟨noParen, noOutput⟩ := inner
  cases alongside with
  | same => exact Iff.rfl
  | closed => simp [noParen.symm, noOutput.symm]
  | opened => simp [noParen.symm, noOutput.symm]

theorem skip {token : Token} (inner : IsInner token) :
    InStep f g k pre pre' id (fun skipped taken => taken = if skipped then [token] else [])
      (Reader.skip token) (Reader.skip token) := by
  refine .peek fun token? token?' alongside => ?_
  by_cases wanted : token? = some token
  · have wanted' := (wanted_iff inner alongside).mp wanted
    rw [if_pos wanted, if_pos wanted']
    refine .bind next fun _ _ taken _ known => .pure rfl ?_
    rw [known.2, wanted]
    rfl
  · have unwanted := fun same => wanted ((wanted_iff inner alongside).mpr same)
    rw [if_neg wanted, if_neg unwanted]
    exact .pure rfl rfl

theorem expect (token : Token) :
    InStep f g k pre pre' (fun _ => ()) (fun _ taken => taken = [token]) (Reader.expect token)
      (Reader.expect token) := by
  refine of_heads fun token? => .bind next fun a b taken same known => ?_
  obtain rfl : a = b := same
  obtain ⟨rfl, rfl⟩ := known
  split
  · exact .malformed
  · rename_i wanted
    refine .pure rfl ?_
    rw [Decidable.not_not.mp wanted]
    rfl

theorem word : InStep f g k pre pre' id (fun name taken => taken = [.word name]) Reader.word
    Reader.word := by
  refine of_heads fun token? => .bind next fun a b taken same known => ?_
  obtain rfl : a = b := same
  obtain ⟨rfl, rfl⟩ := known
  split
  · exact .pure rfl rfl
  · exact .malformed

theorem spans {read : Reader Span} (stays : ∀ s, ∃ span, read.run s = .ok (span, s)) :
    InStep f g k pre pre' (fun _ => ()) (fun _ taken => taken = []) read read where
  takes s a s' _ done := by
    obtain ⟨span, known⟩ := stays s
    rw [known] at done
    cases done
    exact ⟨rfl, [], rfl, rfl⟩
  fails s reason _ failed := by
    obtain ⟨span, known⟩ := stays s
    rw [known] at failed
    cases failed
  alike left right gap s t _ beside _ _ _ _ := by
    obtain ⟨span, known⟩ := stays s
    obtain ⟨span', known'⟩ := stays t
    rw [known, known']
    exact .inr ⟨span', t, rfl, rfl, beside⟩

theorem peekSpan : InStep f g k pre pre' (fun _ => ()) (fun _ taken => taken = [])
    Reader.peekSpan Reader.peekSpan := by
  refine spans fun s => ?_
  simp only [Reader.peekSpan, StateT.run_bind, StateT.run_get, pure_bind]
  split
  · exact ⟨_, rfl⟩
  · split <;> exact ⟨_, rfl⟩

theorem lastSpan : InStep f g k pre pre' (fun _ => ()) (fun _ taken => taken = [])
    Reader.lastSpan Reader.lastSpan :=
  spans fun s => ⟨s.last, rfl⟩

theorem spanFrom (first other : Span) :
    InStep f g k pre pre' (fun _ => ()) (fun _ taken => taken = []) (Reader.spanFrom first)
      (Reader.spanFrom other) where
  takes := by
    rintro s _ _ - ⟨⟩
    exact ⟨rfl, [], rfl, rfl⟩
  fails := nofun
  alike _ _ _ s t _ beside _ _ _ _ := .inr ⟨_, t, rfl, rfl, beside⟩

/-- One level deeper both readers stay in step, as the first one is the deeper one anyway. -/
theorem deeper (steps : InStep f g k anything anything view P m n) :
    InStep f g k pre pre' view P (Reader.deeper m) (Reader.deeper n) where
  takes s a s' _ done := by
    rw [run_deeper] at done
    split at done
    · cases done
    · cases inner : m.run { s with depth := s.depth + 1 } with
      | error reason =>
          rw [inner] at done
          cases done
      | ok result =>
          rw [inner] at done
          cases done
          obtain ⟨level, taken, split_, holds⟩ := steps.takes _ _ _ trivial inner
          exact ⟨by simp [level], taken, split_, holds⟩
  fails s reason _ failed := by
    rw [run_deeper] at failed
    split at failed
    · cases failed
      exact .inl rfl
    · cases inner : m.run { s with depth := s.depth + 1 } with
      | error other =>
          rw [inner] at failed
          cases failed
          exact steps.fails { s with depth := s.depth + 1 } _ trivial inner
      | ok result =>
          rw [inner] at failed
          cases failed
  alike left right gap s t parting beside _ _ enough enough' := by
    rw [run_deeper, run_deeper]
    by_cases deep : depthLimit ≤ s.depth
    · rw [if_pos deep]
      rintro - rfl
      rw [if_pos (by rw [← Nat.add_zero t.depth, ← beside.depth]; exact deep)]
    · have level := beside.depth
      rw [if_neg deep, if_neg (by omega)]
      have below : Beside left right gap { s with depth := s.depth + 1 }
          { t with depth := t.depth + 1 } := ⟨beside.tokens, by simp only; omega⟩
      have inner := steps.alike left right gap _ _ parting below trivial trivial enough enough'
      cases one : m.run { s with depth := s.depth + 1 } with
      | error reason =>
          rw [one] at inner
          intro whole level
          rw [inner whole level]
      | ok result =>
          obtain ⟨a, s'⟩ := result
          obtain ⟨same, -⟩ := steps.takes _ a s' trivial one
          rw [one] at inner
          rcases inner with beyond | ⟨b, t', other, alike, beside'⟩
          · exact .inl beyond
          · rw [other]
            have level' := beside'.depth
            exact .inr ⟨b, _, rfl, alike, beside'.tokens, by simp only at same ⊢; omega⟩

/-- At the parting a first reader that takes anything is beyond it. -/
theorem beyond {token other : Token} {m' : Reader α} (apart : token ≠ other)
    (steps : InStep f g k (Head (some token)) anything view P m m')
    (some_ : ∀ a taken, P a taken → taken ≠ []) :
    InStep f g k (Head (some token)) (Head (some other)) view P m n where
  takes := steps.takes
  fails := steps.fails
  alike left right gap s t parting beside head head' _ _ := by
    obtain ⟨common, before, before'⟩ := beside.tokens
    rw [Head, before] at head
    rw [Head, before'] at head'
    cases common with
    | cons first rest => exact absurd (Option.some.inj (head.symm.trans head')) apart
    | nil =>
        cases one : m.run s with
        | error reason =>
            rintro rfl
            cases head
        | ok result =>
            obtain ⟨a, s'⟩ := result
            obtain ⟨-, taken, split_, holds⟩ :=
              steps.takes s a s' (by rw [Head, before]; exact head) one
            have length := congrArg List.length split_
            have whole := congrArg List.length before
            rw [List.length_append, length_ahead, length_ahead] at length
            rw [length_ahead, List.nil_append] at whole
            have gone := List.length_pos_iff.mpr (some_ a taken holds)
            exact .inl (by omega)

/-- A closing parenthesis may be there for one reader where the marker ends for the other. Whether it
is taken or not, the first reader is beyond the parting then, if it goes on to take a token. -/
theorem skip_closing {view' : β → δ} {Q : β → List Token → Prop} {go after : Bool → Reader β}
    (some_ : ∀ b taken, Q b taken → taken ≠ [])
    (skipped : InStep f g (k + 25) anything anything view'
      (fun b behind => Q b (.symbol .closeParen :: behind)) (go true) (after true))
    (other : InStep f g k anything anything view' Q (go false) (after false)) :
    InStep f g k pre pre' view' Q (Reader.skip (.symbol .closeParen) >>= go)
      (Reader.skip (.symbol .closeParen) >>= after) := by
  have taken {pre' : List Token → Prop} : InStep f g k (Head (some (.symbol .closeParen))) pre' view'
      Q (next? >>= fun _ => go true) (next? >>= fun _ => after true) := by
    refine .bind next fun _ _ taken _ known => ?_
    obtain rfl : taken = [.symbol .closeParen] := known.2
    exact skipped
  unfold Reader.skip
  simp only [bind_assoc]
  refine .peek fun token? token?' alongside => ?_
  cases alongside with
  | same =>
      split
      · rename_i wanted
        subst wanted
        simpa only [bind_assoc, pure_bind] using taken
      · simpa only [pure_bind] using other.of_anything
  | closed => simpa only [if_true, bind_assoc, pure_bind] using beyond (by nofun) taken some_
  | opened => exact beyond (by nofun) (other.of_anything) some_

/-- A token that is taken if it is there. -/
theorem skips {view' : β → δ} {Q : β → List Token → Prop} {go after : Bool → Reader β}
    {token : Token} (inner : IsInner token)
    (skipped : InStep f g (k + 25) anything anything view'
      (fun b behind => Q b (token :: behind)) (go true) (after true))
    (other : InStep f g k anything anything view' Q (go false) (after false)) :
    InStep f g k pre pre' view' Q (Reader.skip token >>= go) (Reader.skip token >>= after) := by
  refine .bind (.skip inner) fun found _ taken same known => ?_
  obtain rfl := same
  subst known
  cases found with
  | true => exact skipped
  | false => exact other

/-- The first token, which is known, is taken. -/
theorem take {view' : β → δ} {Q : β → List Token → Prop} {go after : Option Token → Reader β}
    {token : Token}
    (rest : InStep f g (k + 25) anything anything view' (fun b behind => Q b (token :: behind))
      (go (some token)) (after (some token))) :
    InStep f g k (Head (some token)) pre' view' Q (next? >>= go) (next? >>= after) := by
  refine .bind .next fun found found' taken same known => ?_
  obtain rfl : found = found' := same
  obtain ⟨rfl, rfl⟩ := known
  exact rest

/-- The first token is taken, if there is one. -/
theorem takes_any {view' : β → δ} {Q : β → List Token → Prop} {go after : Option Token → Reader β}
    (rest : ∀ token?, InStep f g (k + 25 * token?.toList.length) anything anything view'
      (fun b behind => Q b (token?.toList ++ behind)) (go token?) (after token?)) :
    InStep f g k pre pre' view' Q (next? >>= go) (next? >>= after) := by
  refine .of_heads fun token? => .bind .next fun found found' taken same known => ?_
  obtain rfl : found = found' := same
  obtain ⟨rfl, rfl⟩ := known
  exact rest _

/-- What is read if the next token is a certain one, and what else. -/
theorem looks {m m' n n' : Reader α} {P : α → List Token → Prop} {token : Token}
    (inner : IsInner token) (wanted : InStep f g k anything anything view P m m')
    (other : InStep f g k anything anything view P n n') :
    InStep f g k pre pre' view P (do if (← peek?) = some token then m else n)
      (do if (← peek?) = some token then m' else n') := by
  refine .peek fun token? token?' alongside => ?_
  simp only [← wanted_iff inner alongside]
  split
  · exact wanted.of_anything
  · exact other.of_anything

/-- The same where it is known what is done with what is read. -/
theorem looks_bind {m m' n n' : Reader α} {P : α → List Token → Prop} {view' : β → δ}
    {Q : β → List Token → Prop} {go after : α → Reader β} {token : Token}
    (inner : IsInner token) (wanted : InStep f g k anything anything view P m m')
    (other : InStep f g k anything anything view P n n')
    (others : ∀ a b taken, view a = view b → P a taken →
      InStep f g (k + 25 * taken.length) anything anything view'
        (fun result behind => Q result (taken ++ behind)) (go a) (after b)) :
    InStep f g k pre pre' view' Q (do if (← peek?) = some token then m >>= go else n >>= go)
      (do if (← peek?) = some token then m' >>= after else n' >>= after) :=
  .looks inner (.bind wanted others) (.bind other others)

/-- A closing bracket that is taken if it is there. -/
theorem skips_end {view' : β → δ} {Q : β → List Token → Prop} {go after : Bool → Reader β}
    {closing : Symbol} (closes : IsClosing closing) (some_ : ∀ b taken, Q b taken → taken ≠ [])
    (skipped : InStep f g (k + 25) anything anything view'
      (fun b behind => Q b (.symbol closing :: behind)) (go true) (after true))
    (other : InStep f g k anything anything view' Q (go false) (after false)) :
    InStep f g k pre pre' view' Q (Reader.skip (.symbol closing) >>= go)
      (Reader.skip (.symbol closing) >>= after) := by
  rcases closes with rfl | rfl | rfl
  · exact .skip_closing some_ skipped other
  · exact .skips (by decide) skipped other
  · exact .skips (by decide) skipped other

/-- Items with commas between them, up to a closing bracket: those that are already known, and the
next one with what comes behind it. -/
theorem separated {closing : Symbol} (closes : IsClosing closing) {known known' : α} {none_ : Bool}
    {item item' : Reader α} (same : view known = view known')
    (others : InStep f g k anything anything view (fun _ => Closes) item item') :
    InStep f g k pre pre' view (fun _ => Closes) (Reader.separated closing none_ known item)
      (Reader.separated closing none_ known' item') := by
  have none_left (b : α) (taken : List Token) (closed : Closes taken) : taken ≠ [] := closed.ne_nil
  have closed {k' : Nat} : InStep f g (k' + 25) anything anything view
      (fun _ behind => Closes (.symbol closing :: behind)) (Pure.pure known) (Pure.pure known') :=
    .pure same (.only closes)
  cases none_ with
  | true =>
    rw [separated_true, separated_true]
    exact .skips_end closes none_left closed others
  | false =>
    rw [separated_false, separated_false]
    refine .skips_end closes none_left closed ?_
    refine .bind (.expect (.symbol .comma)) fun _ _ _ _ comma => ?_
    subst comma
    have behind := others.more (Nat.le_add_right k (25 * 1))
    exact (InStep.skips_end closes none_left closed behind).mono fun _ _ closing => closing.comma

end InStep

end Rules

end StagePlan.Expression.Reader
