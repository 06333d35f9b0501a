import StagePlan.Proofs.Graph.PlacementRun

namespace StagePlan.Graph

open Relation

/-!
The orderings that authors write down, in dependencies and in placement rules, and that they all
hold once the merged stages have been arranged.
-/

/-- The stage has a rule, which asks for this placement and no other. -/
def InjectedAt (stage : Stage) (placement : Placement) : Prop :=
  stage.injection?.map InjectionRule.placements = some [placement]

/-- The stage has no rule that asks for a placement. -/
def Standing (stage : Stage) : Prop :=
  stage.injection? = none

/-- Which stages must come before which, by what is written in the merged stages. -/
structure WrittenOrder (merged : List Stage) (reaches : String → String → Prop) : Prop where
  dependencies : ∀ y ∈ merged, Standing y → ∀ x ∈ y.dependsOn, reaches y.id x
  before_target : ∀ s ∈ merged, ∀ targets, InjectedAt s (.before targets) →
    ∀ t ∈ targets, reaches t s.id
  /-- A stage before targets reaches all that a standing target lists. -/
  before_prerequisite : ∀ s ∈ merged, ∀ targets, InjectedAt s (.before targets) →
    ∀ t ∈ merged, Standing t → t.id ∈ targets → ∀ x ∈ t.dependsOn, reaches s.id x
  after_target : ∀ s ∈ merged, ∀ targets, InjectedAt s (.after targets) →
    ∀ t ∈ targets, reaches s.id t
  /-- A standing stage that lists a target reaches the stage after it. -/
  after_dependent : ∀ s ∈ merged, ∀ targets, InjectedAt s (.after targets) →
    ∀ y ∈ merged, Standing y → ∀ t ∈ targets, t ∈ y.dependsOn → reaches y.id s.id
  last : ∀ s ∈ merged, InjectedAt s .last → ∀ y ∈ merged, Standing y → reaches s.id y.id
  /-- Standing stages reach the first one, provided that none of them lists a stage with a rule. -/
  first : (∀ y ∈ merged, Standing y → ∀ x ∈ y.dependsOn, ∀ z ∈ merged, z.id = x → Standing z) →
    ∀ s ∈ merged, InjectedAt s .first → ∀ y ∈ merged, Standing y → reaches y.id s.id

theorem WrittenOrder.mono {merged : List Stage} {reaches others : String → String → Prop}
    (kept : ∀ a b, reaches a b → others a b) (order : WrittenOrder merged reaches) :
    WrittenOrder merged others where
  dependencies y member standing x named := kept _ _ (order.dependencies y member standing x named)
  before_target s member targets rule t isTarget :=
    kept _ _ (order.before_target s member targets rule t isTarget)
  before_prerequisite s member targets rule t listed standing isTarget x named :=
    kept _ _ (order.before_prerequisite s member targets rule t listed standing isTarget x named)
  after_target s member targets rule t isTarget :=
    kept _ _ (order.after_target s member targets rule t isTarget)
  after_dependent s member targets rule y listed standing t isTarget named :=
    kept _ _ (order.after_dependent s member targets rule y listed standing t isTarget named)
  last s member rule y listed standing := kept _ _ (order.last s member rule y listed standing)
  first apart s member rule y listed standing :=
    kept _ _ (order.first apart s member rule y listed standing)

/-- The merged stages divided into those that stand and those that wait to be placed. -/
structure Division (merged base : List Stage) (pending : Pending) : Prop where
  mem_base : ∀ s, s ∈ base ↔ ∃ stage ∈ merged, Standing stage ∧ s = { stage with inject? := none }
  mem_pending : ∀ stage placement,
    (stage, placement) ∈ pending ↔ stage ∈ merged ∧ InjectedAt stage placement
  whole : ((base ++ pending.map (·.1)).map bare).Perm (merged.map bare)

variable {merged base arranged : List Stage} {order pending : Pending} {stage : Stage}
  {placement : Placement} {roles : List Role}

theorem not_injectedAt_of_standing (standing : Standing stage) : ¬ InjectedAt stage placement := by
  rw [Standing] at standing
  simp [InjectedAt, standing]

theorem ofStage_eq_ok {role : Role} (given : Role.ofStage stage = .ok role) :
    (Standing stage ∧ role = .base { stage with inject? := none }) ∨
      ∃ placement, InjectedAt stage placement ∧ role = .injected stage placement := by
  unfold Role.ofStage at given
  cases rule : stage.injection? with
  | none =>
      simp only [rule, Option.map_none, Option.getD_none, Except.ok.injEq] at given
      exact .inl ⟨rule, given.symm⟩
  | some written =>
      have asked : written.hasAny = true := by
        simpa using (Option.filter_eq_some_iff.mp rule).2
      have some_placement : written.placements ≠ [] := by
        intro empty
        rw [InjectionRule.placements_eq_nil, asked] at empty
        contradiction
      simp only [rule, Option.map_some, Option.getD_some] at given
      split at given
      · contradiction
      · rename_i placement only
        cases given
        exact .inr ⟨placement, by simp [InjectedAt, rule, only], rfl⟩
      · contradiction

theorem Division.nil : Division [] [] [] where
  mem_base := by simp
  mem_pending := by simp
  whole := .refl _

theorem Division.cons_standing (rest : Division merged base pending) (standing : Standing stage) :
    Division (stage :: merged) ({ stage with inject? := none } :: base) pending where
  mem_base s := by
    simp only [List.mem_cons, rest.mem_base, or_and_right, exists_or, exists_eq_left, standing,
      true_and]
  mem_pending other placement := by
    rw [rest.mem_pending, List.mem_cons]
    constructor
    · exact fun ⟨member, rule⟩ => ⟨.inr member, rule⟩
    · rintro ⟨rfl | member, rule⟩
      · exact absurd rule (not_injectedAt_of_standing standing)
      · exact ⟨member, rule⟩
  whole := rest.whole.cons (bare stage)

theorem Division.cons_injected (rest : Division merged base pending)
    (rule : InjectedAt stage placement) :
    Division (stage :: merged) base ((stage, placement) :: pending) where
  mem_base s := by
    rw [rest.mem_base]
    constructor
    · exact fun ⟨other, member, facts⟩ => ⟨other, List.mem_cons_of_mem _ member, facts⟩
    · rintro ⟨other, member, standing, same⟩
      rcases List.mem_cons.mp member with rfl | member
      · exact absurd rule (not_injectedAt_of_standing standing)
      · exact ⟨other, member, standing, same⟩
  mem_pending other how := by
    rw [List.mem_cons, List.mem_cons, rest.mem_pending, Prod.mk.injEq]
    constructor
    · rintro (⟨rfl, rfl⟩ | ⟨member, given⟩)
      · exact ⟨.inl rfl, rule⟩
      · exact ⟨.inr member, given⟩
    · rintro ⟨rfl | member, given⟩
      · have same : [placement] = [how] := Option.some.inj (rule.symm.trans given)
        exact .inl ⟨rfl, (List.cons.inj same).1.symm⟩
      · exact .inr ⟨member, given⟩
  whole := by
    have front : (base ++ (stage :: pending.map (·.1))).Perm
        (stage :: (base ++ pending.map (·.1))) := List.perm_middle
    exact (front.map bare).trans (rest.whole.cons (bare stage))

theorem Division.perm (division : Division merged base pending) (same : order.Perm pending) :
    Division merged base order where
  mem_base := division.mem_base
  mem_pending stage placement := same.mem_iff.trans (division.mem_pending stage placement)
  whole := (((same.map _).append_left base).map bare).trans division.whole

theorem division_of_roles (divided : merged.mapM Role.ofStage = .ok roles) :
    Division merged (baseStages roles) (injectedStages roles) := by
  induction merged generalizing roles with
  | nil =>
      cases divided
      exact .nil
  | cons stage rest ih =>
      obtain ⟨role, given, later, others, rfl⟩ := mapM_cons_eq_ok.mp divided
      rcases ofStage_eq_ok given with ⟨standing, rfl⟩ | ⟨placement, rule, rfl⟩
      · exact (ih others).cons_standing standing
      · exact (ih others).cons_injected rule

theorem arrange_run (placed : arrange merged = .ok arranged) :
    ∃ base order, Division merged base order ∧ PlacementRun base order arranged := by
  simp only [arrange, bind_eq_ok] at placed
  obtain ⟨roles, divided, _, _, placed⟩ := placed
  obtain ⟨order, same, run⟩ := placePasses_run placed
  exact ⟨_, order, (division_of_roles divided).perm same, run⟩

theorem arrange_perm (placed : arrange merged = .ok arranged) :
    (arranged.map bare).Perm (merged.map bare) := by
  obtain ⟨base, order, division, run⟩ := arrange_run placed
  exact run.bare_perm.trans division.whole

theorem arrange_ids (placed : arrange merged = .ok arranged) :
    (arranged.map (·.id)).Perm (merged.map (·.id)) :=
  ids_of_bare (arrange_perm placed)

/-- An arranged stage is a merged one without its rule. -/
theorem arrange_origin (placed : arrange merged = .ok arranged) (listed : stage ∈ arranged) :
    ∃ z ∈ merged, stage = { z with dependsOn := stage.dependsOn, inject? := none } := by
  obtain ⟨base, order, division, run⟩ := arrange_run placed
  have unplaced : stage.inject? = none := by
    refine run.inject_none (fun s inBase => ?_) stage listed
    obtain ⟨_, _, _, rfl⟩ := (division.mem_base s).mp inBase
    rfl
  obtain ⟨z, member, same⟩ :=
    List.mem_map.mp ((arrange_perm placed).subset (List.mem_map_of_mem listed))
  have restored := congrArg (fun s : Stage => { s with dependsOn := stage.dependsOn }) same
  refine ⟨z, member, ?_⟩
  calc stage = { bare stage with dependsOn := stage.dependsOn } := by
        rw [bare, ← unplaced]
    _ = { z with dependsOn := stage.dependsOn, inject? := none } := restored.symm

namespace Division

theorem distinctIds (division : Division merged base pending)
    (distinct : (merged.map (·.id)).Nodup) : DistinctIds base pending :=
  (ids_of_bare division.whole).nodup_iff.mpr distinct

theorem standing_listed (division : Division merged base pending) (member : stage ∈ merged)
    (standing : Standing stage) : stage.id ∈ base.map (·.id) :=
  List.mem_map_of_mem (f := (·.id)) ((division.mem_base _).mpr ⟨stage, member, standing, rfl⟩)

theorem standing_depends (division : Division merged base pending) (member : stage ∈ merged)
    (standing : Standing stage) {id : String} (named : id ∈ stage.dependsOn) :
    Reaches base stage.id id :=
  .single ⟨_, (division.mem_base _).mpr ⟨stage, member, standing, rfl⟩, rfl, named⟩

end Division

/-- Everything that is written holds after arranging. What stands first needs that the result names
no stage that is not there; otherwise a stage may wait for nothing but such a name. -/
theorem arrange_writtenOrder (distinct : (merged.map (·.id)).Nodup)
    (placed : arrange merged = .ok arranged) (closed : Closed arranged) :
    WrittenOrder merged (Reaches arranged) := by
  obtain ⟨base, order, division, run⟩ := arrange_run placed
  have apart : DistinctIds base order := division.distinctIds distinct
  have milestone : ∀ s ∈ merged, ∀ placement, InjectedAt s placement →
      ∃ current, Milestone base s placement current arranged :=
    fun s member placement rule =>
      run.milestone apart ((division.mem_pending s placement).mpr ⟨member, rule⟩)
  have dependencies : ∀ y ∈ merged, Standing y → ∀ x ∈ y.dependsOn, Reaches arranged y.id x :=
    fun y member standing x named =>
      run.reaches apart (division.standing_depends member standing named)
  refine ⟨dependencies, ?before_target, ?before_prerequisite, ?after_target, ?after_dependent,
    ?last, ?first⟩
  case before_target =>
    intro s member targets rule t isTarget
    obtain ⟨current, at_stage⟩ := milestone s member _ rule
    exact at_stage.later _ _ (before_reaches_stage (at_stage.target_listed isTarget) isTarget)
  case before_prerequisite =>
    intro s member targets rule t listed standing isTarget x named
    obtain ⟨current, at_stage⟩ := milestone s member _ rule
    have written := at_stage.earlier _ _ (division.standing_depends listed standing named)
    exact at_stage.later _ _ (before_reaches_prerequisite at_stage.distinct isTarget written)
  case after_target =>
    intro s member targets rule t isTarget
    obtain ⟨current, at_stage⟩ := milestone s member _ rule
    exact at_stage.later _ _ (after_reaches_target isTarget)
  case after_dependent =>
    intro s member targets rule y listed standing t isTarget named
    obtain ⟨current, at_stage⟩ := milestone s member _ rule
    have written := at_stage.earlier _ _ (division.standing_depends listed standing named)
    exact at_stage.later _ _ (after_reached_by_dependent at_stage.distinct isTarget written)
  case last =>
    intro s member rule y listed standing
    obtain ⟨current, at_stage⟩ := milestone s member _ rule
    have there := at_stage.listed (division.standing_listed listed standing)
    exact at_stage.later _ _
      (last_reaches_listed at_stage.distinct at_stage.acyclic_current there)
  case first =>
    intro unmixed s member rule y listed standing
    obtain ⟨current, at_stage⟩ := milestone s member _ rule
    have closedBase : Closed base := by
      intro started inBase x named
      obtain ⟨z, zListed, zStanding, rfl⟩ := (division.mem_base _).mp inBase
      have known := closed.target_listed (dependencies z zListed zStanding x named)
      obtain ⟨w, wListed, rfl⟩ := List.mem_map.mp ((arrange_ids placed).mem_iff.mp known)
      exact division.standing_listed wListed (unmixed z zListed zStanding _ named w wListed rfl)
    have there := at_stage.listed (division.standing_listed listed standing)
    exact at_stage.later _ _ (first_reached_by_listed at_stage.distinct at_stage.acyclic_current
      (at_stage.closed closedBase) there)

end StagePlan.Graph
