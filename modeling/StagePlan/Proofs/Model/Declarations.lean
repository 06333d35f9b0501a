import StagePlan.Model.Template

namespace StagePlan

/-!
The scopes of modules and partials. Every declared variable takes its argument, or its default where
there is none, and the names of all that have neither are reported. What the outer scope binds never
stands in for an argument.
-/

namespace Declaration

variable {arguments : Bindings Value} {v : Variable} {declared : List Variable}

theorem declare_of_value {value : Value} (given : v.valueIn? arguments = some value)
    (d : Declaration) :
    d.declare arguments v = { d with scope := d.scope.bind v.name value } := by
  rw [declare, given]

theorem declare_of_none (absent : v.valueIn? arguments = none) (d : Declaration) :
    d.declare arguments v = { d with missing := d.missing ++ [v.name] } := by
  rw [declare, absent]

/-- Only the variable's own name is touched. -/
theorem find?_declare_of_ne (d : Declaration) {name : String} (other : v.name ≠ name) :
    (d.declare arguments v).scope.find? name = d.scope.find? name := by
  cases given : v.valueIn? arguments with
  | none => rw [declare_of_none given]
  | some value => rw [declare_of_value given, Bindings.find?_bind, if_neg other]

theorem find?_declare_self (d : Declaration) :
    (d.declare arguments v).scope.find? v.name =
      (v.valueIn? arguments).or (d.scope.find? v.name) := by
  cases given : v.valueIn? arguments with
  | none => rw [declare_of_none given, Option.none_or]
  | some value => rw [declare_of_value given, Bindings.find?_bind, if_pos rfl, Option.some_or]

/-- Names are noted in the order of declaration, behind those noted before. -/
theorem missing_foldl_declare (d : Declaration) :
    (declared.foldl (declare arguments) d).missing =
      d.missing ++ (declared.filter fun v => (v.valueIn? arguments).isNone).map (·.name) := by
  induction declared generalizing d with
  | nil => exact (List.append_nil _).symm
  | cons v rest ih =>
      rw [List.foldl_cons, ih]
      cases given : v.valueIn? arguments with
      | none => simp [declare_of_none given, given]
      | some value => simp [declare_of_value given, given]

theorem find?_foldl_declare_of_undeclared (d : Declaration) {name : String}
    (undeclared : name ∉ declared.map (·.name)) :
    (declared.foldl (declare arguments) d).scope.find? name = d.scope.find? name := by
  induction declared generalizing d with
  | nil => rfl
  | cons v rest ih =>
      rw [List.map_cons, List.mem_cons, not_or] at undeclared
      rw [List.foldl_cons, ih _ undeclared.2, find?_declare_of_ne d (Ne.symm undeclared.1)]

/-- No later variable has the name of an earlier one. -/
theorem find?_foldl_declare (distinct : (declared.map (·.name)).Nodup) (listed : v ∈ declared)
    (d : Declaration) :
    (declared.foldl (declare arguments) d).scope.find? v.name =
      (v.valueIn? arguments).or (d.scope.find? v.name) := by
  induction declared generalizing d with
  | nil => contradiction
  | cons first rest ih =>
      obtain ⟨fresh, distinct⟩ := List.nodup_cons.mp distinct
      rw [List.foldl_cons]
      rcases List.mem_cons.mp listed with rfl | later
      · rw [find?_foldl_declare_of_undeclared _ fresh, find?_declare_self]
      · have other : first.name ≠ v.name := by
          intro same
          exact fresh (List.mem_map.mpr ⟨v, later, same.symm⟩)
        rw [ih distinct later, find?_declare_of_ne d other]

/-- Names that are new to the scope stand behind those it binds. -/
theorem names_foldl_declare (distinct : (declared.map (·.name)).Nodup)
    (valued : ∀ v ∈ declared, v.valueIn? arguments ≠ none) (d : Declaration) :
    (declared.foldl (declare arguments) d).scope.names =
      d.scope.names ++ (declared.map (·.name)).filter fun name => name ∉ d.scope.names := by
  induction declared generalizing d with
  | nil => exact (List.append_nil _).symm
  | cons v rest ih =>
      obtain ⟨fresh, distinct⟩ := List.nodup_cons.mp distinct
      obtain ⟨value, given⟩ := Option.ne_none_iff_exists'.mp (valued v List.mem_cons_self)
      have later := ih distinct (fun v listed => valued v (List.mem_cons_of_mem _ listed))
        (d.declare arguments v)
      rw [declare_of_value given] at later
      rw [List.foldl_cons, declare_of_value given, later, Bindings.names_bind]
      by_cases bound : v.name ∈ d.scope.names
      · simp [bound]
      · have others : ∀ name ∈ rest.map (·.name), name ≠ v.name := by
          rintro _ listed rfl
          exact fresh listed
        have same : (rest.map (·.name)).filter (fun name => name ∉ d.scope.names ++ [v.name]) =
            (rest.map (·.name)).filter fun name => name ∉ d.scope.names :=
          List.filter_congr fun name listed => by simp [others name listed]
        simp only [bound, if_false, same]
        simp [bound]

theorem result_eq_error {d : Declaration} {names : List String} :
    d.result = .error names ↔ d.missing = names ∧ names ≠ [] := by
  rw [result]
  cases d.missing with
  | nil =>
      constructor
      · intro failed
        cases failed
      · rintro ⟨rfl, some_left⟩
        exact (some_left rfl).elim
  | cons first rest =>
      constructor
      · intro failed
        cases failed
        exact ⟨rfl, List.cons_ne_nil _ _⟩
      · rintro ⟨rfl, -⟩
        rfl

theorem result_eq_ok {d : Declaration} {scope : Bindings Value} :
    d.result = .ok scope ↔ d.missing = [] ∧ d.scope = scope := by
  rw [result]
  cases d.missing <;> simp

end Declaration

/-- Whether a variable has neither an argument nor a default. -/
def Variable.isUnbound (arguments : Bindings Value) (v : Variable) : Bool :=
  (arguments.find? v.name).isNone && v.isRequired

theorem Variable.isUnbound_eq (arguments : Bindings Value) (v : Variable) :
    v.isUnbound arguments = (v.valueIn? arguments).isNone := by
  rw [isUnbound, isRequired, valueIn?]
  cases arguments.find? v.name <;> rfl

/-- What declared variables are bound to over an outer scope, and when they cannot be. -/
structure Binds (declared : List Variable) (arguments outer : Bindings Value)
    (result : Except (List String) (Bindings Value)) : Prop where
  fails_iff : (∃ names, result = .error names) ↔ ∃ v ∈ declared, v.isUnbound arguments = true
  /-- All that are unbound are reported, in the order of declaration. -/
  reported : ∀ names, result = .error names →
    names = (declared.filter (·.isUnbound arguments)).map (·.name) ∧ names.Nodup
  bound : ∀ scope, result = .ok scope → ∀ v ∈ declared, ∃ value,
    (arguments.find? v.name).or v.default? = some value ∧ scope.find? v.name = some value
  kept : ∀ scope, result = .ok scope → ∀ name, name ∉ declared.map (·.name) →
    scope.find? name = outer.find? name
  names : ∀ scope, result = .ok scope →
    scope.names = outer.names ++ (declared.map (·.name)).filter fun name => name ∉ outer.names

theorem binds_bindAll {declared : List Variable} (distinct : (declared.map (·.name)).Nodup)
    (arguments outer : Bindings Value) :
    Binds declared arguments outer (Variable.bindAll declared arguments outer) := by
  let unbound := declared.filter (·.isUnbound arguments)
  let last := declared.foldl (Declaration.declare arguments) { scope := outer }
  have missing : last.missing = unbound.map (·.name) := by
    refine (Declaration.missing_foldl_declare _).trans ?_
    rw [List.nil_append]
    exact congrArg (List.map _) (List.filter_congr fun v _ => (v.isUnbound_eq arguments).symm)
  have valued (none_left : last.missing = []) (v : Variable) (listed : v ∈ declared) :
      v.valueIn? arguments ≠ none := by
    intro absent
    have named : v ∈ unbound :=
      List.mem_filter.mpr ⟨listed, by rw [Variable.isUnbound_eq, absent]; rfl⟩
    rw [missing, List.map_eq_nil_iff] at none_left
    exact List.not_mem_nil (none_left ▸ named)
  constructor
  case fails_iff =>
    constructor
    · rintro ⟨names, failed⟩
      obtain ⟨reported, some_left⟩ := Declaration.result_eq_error.mp failed
      obtain ⟨v, named⟩ := List.exists_mem_of_ne_nil unbound (by
        rintro none_left
        rw [missing, none_left] at reported
        exact some_left reported.symm)
      exact ⟨v, (List.mem_filter.mp named).1, (List.mem_filter.mp named).2⟩
    · rintro ⟨v, listed, absent⟩
      have named : v.name ∈ last.missing :=
        missing ▸ List.mem_map_of_mem (List.mem_filter.mpr ⟨listed, absent⟩)
      exact ⟨last.missing, Declaration.result_eq_error.mpr ⟨rfl, List.ne_nil_of_mem named⟩⟩
  case reported =>
    intro names failed
    obtain ⟨reported, -⟩ := Declaration.result_eq_error.mp failed
    rw [← reported, show _ = _ from missing]
    exact ⟨rfl, distinct.sublist (List.filter_sublist.map _)⟩
  case bound =>
    intro scope done v listed
    obtain ⟨none_left, rfl⟩ := Declaration.result_eq_ok.mp done
    obtain ⟨value, given⟩ := Option.ne_none_iff_exists'.mp (valued none_left v listed)
    refine ⟨value, given, ?_⟩
    rw [Declaration.find?_foldl_declare distinct listed, given, Option.some_or]
  case kept =>
    intro scope done name undeclared
    obtain ⟨-, rfl⟩ := Declaration.result_eq_ok.mp done
    exact Declaration.find?_foldl_declare_of_undeclared _ undeclared
  case names =>
    intro scope done
    obtain ⟨none_left, rfl⟩ := Declaration.result_eq_ok.mp done
    exact Declaration.names_foldl_declare distinct (valued none_left) _

/-- Modules and partials bind their variables by one law. It fails for all variables without a value
together, also for those that the outer scope of a partial binds; the scope of a module has no names
but the declared ones. -/
theorem scopes_are_complete (m : Module) (p : Partial) (arguments outer : Bindings Value)
    (of_module : (m.declared.map (·.name)).Nodup) (of_partial : (p.declared.map (·.name)).Nodup) :
    Binds m.declared arguments [] (m.scopeFor arguments) ∧
      (∀ scope, m.scopeFor arguments = .ok scope → scope.names = m.declared.map (·.name)) ∧
      Binds p.declared arguments outer (p.scopeFor outer arguments) := by
  have within := binds_bindAll of_module arguments []
  refine ⟨within, ?_, binds_bindAll of_partial arguments outer⟩
  intro scope done
  rw [within.names scope done]
  exact List.filter_eq_self.mpr fun name _ => by simp

/-- Two variables without a default and one with. -/
def regional : List Variable :=
  [{ name := "region" }, { name := "replicas", default? := some (.ofInt 2) }, { name := "zone" }]

theorem scopes_are_complete_regional :
    let m : Module := { id := "m", declared := regional }
    let p : Partial := { id := "p", declared := regional }
    let outer : Bindings Value := [("zone", .string "a"), ("owner", .null), ("replicas", .ofInt 7)]
    (regional.map (·.name)).Nodup ∧
      m.scopeFor [("owner", .null)] = .error ["region", "zone"] ∧
      p.scopeFor outer [("owner", .null)] = .error ["region", "zone"] ∧
      ∃ scope, p.scopeFor outer [("zone", .string "b"), ("region", .string "eu")] = .ok scope ∧
        scope.find? "zone" = some (.string "b") ∧ scope.find? "replicas" = some (.ofInt 2) ∧
        scope.find? "owner" = some .null := by
  intro m p outer
  have distinct : (regional.map (·.name)).Nodup := by decide
  obtain ⟨of_module, -, of_partial⟩ :=
    scopes_are_complete m p [("owner", .null)] outer distinct distinct
  obtain ⟨_, without⟩ := of_module.fails_iff.mpr ⟨_, List.mem_cons_self, rfl⟩
  obtain ⟨_, within⟩ := of_partial.fails_iff.mpr ⟨_, List.mem_cons_self, rfl⟩
  refine ⟨distinct, ?_, ?_, ?_⟩
  · rw [without, (of_module.reported _ without).1]
    rfl
  · rw [within, (of_partial.reported _ within).1]
    rfl
  · obtain ⟨-, -, law⟩ := scopes_are_complete m p [("zone", .string "b"), ("region", .string "eu")]
      outer distinct distinct
    obtain ⟨_, zone, found⟩ := law.bound _ rfl { name := "zone" } (by simp [p, regional])
    cases zone
    obtain ⟨_, replicas, standard⟩ := law.bound _ rfl
      { name := "replicas", default? := some (.ofInt 2) } (by simp [p, regional])
    cases replicas
    exact ⟨_, rfl, found, standard, law.kept _ rfl "owner" (by decide)⟩

end StagePlan
