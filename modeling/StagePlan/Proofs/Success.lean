namespace StagePlan

/-!
Taking apart computations that may fail. One that succeeds has gone through steps that all succeeded,
and one that fails does so at its first step that fails.
-/

variable {ε α β : Type} {result : Except ε α} {items : List α} {e : ε}

theorem bind_eq_ok {next : α → Except ε β} {value : β} :
    (result >>= next) = .ok value ↔ ∃ first, result = .ok first ∧ next first = .ok value := by
  cases result <;> simp [bind, Except.bind]

theorem map_eq_ok {change : α → β} {value : β} :
    result.map change = .ok value ↔ ∃ first, result = .ok first ∧ change first = value := by
  cases result <;> simp [Except.map]

theorem pure_eq_ok {first value : α} : (pure first : Except ε α) = .ok value ↔ first = value := by
  simp [pure, Except.pure]

theorem mapM_cons_eq_ok {step : α → Except ε β} {item : α} {values : List β} :
    (item :: items).mapM step = .ok values ↔
      ∃ first, step item = .ok first ∧ ∃ others, items.mapM step = .ok others ∧
        first :: others = values := by
  simp only [List.mapM_cons, bind_eq_ok, pure_eq_ok]

theorem foldlM_cons_eq_ok {step : β → α → Except ε β} {start value : β} {item : α} :
    (item :: items).foldlM step start = .ok value ↔
      ∃ next, step start item = .ok next ∧ items.foldlM step next = .ok value := by
  rw [List.foldlM_cons, bind_eq_ok]

theorem bind_eq_error {next : α → Except ε β} :
    (result >>= next) = .error e ↔
      result = .error e ∨ ∃ first, result = .ok first ∧ next first = .error e := by
  cases result <;> simp [bind, Except.bind]

theorem map_eq_error {change : α → β} : result.map change = .error e ↔ result = .error e := by
  cases result <;> simp [Except.map]

theorem mapError_eq_error {ε' : Type} {place : ε → ε'} {placed : ε'} :
    result.mapError place = .error placed ↔ ∃ e, result = .error e ∧ place e = placed := by
  constructor
  · intro failed
    cases result with
    | ok value =>
        have impossible : Except.ok value = Except.error placed := failed
        cases impossible
    | error e => exact ⟨e, rfl, Except.error.inj failed⟩
  · rintro ⟨e, rfl, rfl⟩
    rfl

theorem exists_of_mapM_eq_error {step : α → Except ε β} (failed : items.mapM step = .error e) :
    ∃ item ∈ items, step item = .error e := by
  induction items with
  | nil => simp [pure, Except.pure] at failed
  | cons item rest ih =>
      simp only [List.mapM_cons, bind_eq_error] at failed
      rcases failed with here | ⟨_, _, later | ⟨_, _, done⟩⟩
      · exact ⟨item, List.mem_cons_self, here⟩
      · obtain ⟨other, listed, fails⟩ := ih later
        exact ⟨other, List.mem_cons_of_mem _ listed, fails⟩
      · contradiction

theorem exists_of_foldlM_eq_error {step : β → α → Except ε β} {start : β}
    (failed : items.foldlM step start = .error e) :
    ∃ item ∈ items, ∃ before, step before item = .error e := by
  induction items generalizing start with
  | nil => simp [pure, Except.pure] at failed
  | cons item rest ih =>
      rw [List.foldlM_cons, bind_eq_error] at failed
      rcases failed with here | ⟨_, _, later⟩
      · exact ⟨item, List.mem_cons_self, start, here⟩
      · obtain ⟨other, listed, fails⟩ := ih later
        exact ⟨other, List.mem_cons_of_mem _ listed, fails⟩

theorem eq_ok_of_toOption {value : α} (shown : result.toOption = some value) :
    result = .ok value := by
  cases result with
  | error e => contradiction
  | ok found => exact congrArg Except.ok (Option.some.inj shown)

theorem exists_of_isOk (ok : result.isOk = true) : ∃ value, result = .ok value := by
  cases result with
  | error e => contradiction
  | ok value => exact ⟨value, rfl⟩

end StagePlan
