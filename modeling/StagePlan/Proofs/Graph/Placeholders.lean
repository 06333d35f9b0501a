import StagePlan.Proofs.Graph.Failure

namespace StagePlan.Graph

/-!
What becomes of placeholders in a compiled graph. Whatever depended on a placeholder depends on all
that has come in for it, through any number of placeholders and empty groups. The ids of members
are told apart from those of all stages in the graph, but not from those of the placeholders that
have gone from it.
-/

variable {template configuration arranged stages others : List Stage} {groups : Groups}
  {c : Compilation} {id : String}

theorem SelfContained.of_ids (contained : SelfContained groups stages)
    (same : (others.map (·.id)).Perm (stages.map (·.id))) : SelfContained groups others where
  internal s listed group grouped := by
    obtain ⟨twin, twinListed, twinId⟩ :=
      List.mem_map.mp (same.subset (List.mem_map_of_mem listed))
    exact contained.internal twin twinListed group (twinId ▸ grouped)
  fresh s listed group grouped member inGroup clash := by
    obtain ⟨twin, twinListed, twinId⟩ :=
      List.mem_map.mp (same.subset (List.mem_map_of_mem listed))
    exact contained.fresh twin twinListed group (twinId ▸ grouped) member inGroup
      (same.subset clash)

theorem selfContained_iff :
    SelfContained groups stages ↔
      ∀ s ∈ stages, ∀ group ∈ groups.find? s.id,
        (∀ member ∈ group, ∀ id ∈ member.dependsOn, id ∈ group.map (·.id)) ∧
          ∀ member ∈ group, member.id ∉ stages.map (·.id) :=
  ⟨fun contained s listed group grouped =>
    ⟨contained.internal s listed group grouped, contained.fresh s listed group grouped⟩,
  fun all => ⟨fun s listed group grouped => (all s listed group grouped).1,
    fun s listed group grouped => (all s listed group grouped).2⟩⟩

instance (groups : Groups) (stages : List Stage) : Decidable (SelfContained groups stages) :=
  decidable_of_iff _ selfContained_iff.symm

theorem prepare_of_compile (compiled : compile template configuration groups = .ok c) :
    ∃ arranged, prepare template configuration = .ok arranged ∧
      Compiles template configuration groups arranged c := by
  obtain ⟨arranged, run⟩ := compile_eq_ok compiled
  rw [compile_eq_prepare] at compiled
  obtain ⟨before, prepared, _⟩ := bind_eq_ok.mp compiled
  have same : before = arranged :=
    Except.ok.inj ((prepare_eq_ok prepared).arranged_eq.symm.trans run.arranged_eq)
  exact ⟨arranged, same ▸ prepared, run⟩

/-- Where a stage of a compiled graph comes from. -/
inductive Origin (merged : List Stage) (groups : Groups) (stage : Stage) : Prop
  | own {z : Stage} : z ∈ merged → groups.find? z.id = none →
      stage = { z with dependsOn := stage.dependsOn, inject? := none } →
      Origin merged groups stage
  | member {z origin : Stage} {group : List Stage} : z ∈ merged →
      groups.find? z.id = some group → origin ∈ group →
      stage = { origin with dependsOn := stage.dependsOn } → Origin merged groups stage

theorem Compiles.origin (run : Compiles template configuration groups arranged c) {stage : Stage}
    (listed : stage ∈ c.graph.stages) :
    Origin (mergedStages template configuration) groups stage := by
  obtain ⟨s, among, part, contributes, same⟩ :=
    exists_contributed (run.graph_perm.mem_iff.mp listed)
  obtain ⟨z, member, sameMerged⟩ := arrange_origin run.arranged_eq among
  have sameId : s.id = z.id := by rw [sameMerged]
  cases grouped : groups.find? z.id with
  | none =>
      obtain rfl : part = s := by simpa [contributed, sameId, grouped] using contributes
      refine .own member grouped ?_
      rw [same, sameMerged]
  | some group =>
      have inGroup : part ∈ group := by simpa [contributed, sameId, grouped] using contributes
      exact .member member grouped inGroup same

/-- All that comes in for a stage depends on all that comes in for another one, wherever the stage
depended on the other one before placeholders were expanded. -/
theorem compile_orders_contributions
    (compiled : compile template configuration groups = .ok c)
    (contained : SelfContained groups (mergedStages template configuration)) :
    ∃ arranged, prepare template configuration = .ok arranged ∧
      ∀ y ∈ arranged, ∀ x ∈ arranged, Reaches arranged y.id x.id →
        ∀ u ∈ contributed groups y, ∀ v ∈ contributed groups x,
          Reaches c.graph.stages u.id v.id := by
  obtain ⟨arranged, prepared, run⟩ := prepare_of_compile compiled
  have arrangedContained : SelfContained groups arranged :=
    contained.of_ids (prepare_eq_ok prepared).ids
  refine ⟨arranged, prepared, ?_⟩
  intro y yListed x xListed path u uPart v vPart
  exact run.reaches_contributed arrangedContained (List.mem_map_of_mem yListed)
    (List.mem_map_of_mem xListed) path uPart vPart

/-- Placeholders one behind the other, two of them with nothing to come in for them. -/
def stackedStages : List Stage :=
  [{ id := "bake" }, { id := "copy", dependsOn := ["bake"] },
    { id := "soak", dependsOn := ["copy"] }, { id := "drain", dependsOn := ["soak"] },
    { id := "qa", dependsOn := ["drain"] }, { id := "deploy", dependsOn := ["qa"] }]

def stackedGroups : Groups :=
  [("copy", [{ id := "copy-0" }, { id := "copy-1" }]), ("soak", []), ("drain", []),
    ("qa", [{ id := "qa.lint" }, { id := "qa.unit", dependsOn := ["qa.lint"] }])]

theorem compile_orders_contributions_stacked :
    ∃ c, compile stackedStages [] stackedGroups = .ok c ∧
      SelfContained stackedGroups (mergedStages stackedStages []) ∧
      Reaches stackedStages "qa" "copy" ∧
      ∀ u ∈ ["qa.lint", "qa.unit"], ∀ v ∈ ["copy-0", "copy-1"], Reaches c.graph.stages u v := by
  have succeeds : (compile stackedStages [] stackedGroups).isOk = true := by decide +kernel
  have contained : SelfContained stackedGroups (mergedStages stackedStages []) := by
    decide +kernel
  have prepared : prepare stackedStages [] = .ok stackedStages := rfl
  have path : Reaches stackedStages "qa" "copy" := by
    have toDrain : Depends stackedStages "qa" "drain" :=
      ⟨{ id := "qa", dependsOn := ["drain"] }, by simp [stackedStages], rfl, by simp⟩
    have toSoak : Depends stackedStages "drain" "soak" :=
      ⟨{ id := "drain", dependsOn := ["soak"] }, by simp [stackedStages], rfl, by simp⟩
    have toCopy : Depends stackedStages "soak" "copy" :=
      ⟨{ id := "soak", dependsOn := ["copy"] }, by simp [stackedStages], rfl, by simp⟩
    exact ((Reaches.single toDrain).tail toSoak).tail toCopy
  obtain ⟨c, compiled⟩ := exists_of_isOk succeeds
  obtain ⟨arranged, same, ordered⟩ := compile_orders_contributions compiled contained
  obtain rfl : stackedStages = arranged := Except.ok.inj (prepared.symm.trans same)
  refine ⟨c, compiled, contained, path, ?_⟩
  intro u uListed v vListed
  have uPart : u ∈ (contributed stackedGroups { id := "qa", dependsOn := ["drain"] }).map (·.id) :=
    uListed
  have vPart : v ∈ (contributed stackedGroups { id := "copy", dependsOn := ["bake"] }).map (·.id) :=
    vListed
  obtain ⟨member, inQa, rfl⟩ := List.mem_map.mp uPart
  obtain ⟨copy, inCopy, rfl⟩ := List.mem_map.mp vPart
  exact ordered _ (by simp [stackedStages]) _ (by simp [stackedStages]) path member inQa copy inCopy

/-- The members of the groups of all placeholders in a list. -/
def membersAmong (groups : Groups) (stages : List Stage) : List Stage :=
  stages.flatMap fun s => (groups.find? s.id).getD []

/-- The stages of a list that stay when placeholders are expanded. -/
def plainAmong (groups : Groups) (stages : List Stage) : List Stage :=
  stages.filter fun s => !groups.has s.id

theorem mem_group_of_membersAmong {groups : Groups} {stages : List Stage}
    (listed : id ∈ (membersAmong groups stages).map (·.id)) :
    ∃ group ∈ groups, id ∈ group.2.map (·.id) := by
  obtain ⟨member, among, rfl⟩ := List.mem_map.mp listed
  obtain ⟨s, _, inGroup⟩ := List.mem_flatMap.mp among
  cases grouped : groups.find? s.id with
  | none => simp [grouped] at inGroup
  | some group =>
      refine ⟨(s.id, group), Bindings.mem_of_find? grouped, List.mem_map_of_mem ?_⟩
      simpa [grouped] using inGroup

theorem Prepared.ids_expand (groups : Groups)
    (prepared : Prepared template configuration arranged) :
    ((expand groups arranged).map (·.id)).Perm
      ((plainAmong groups (mergedStages template configuration)).map (·.id) ++
        (membersAmong groups (mergedStages template configuration)).map (·.id)) :=
  (ids_of_bare (bare_expand_perm groups prepared.arranged_eq)).trans (ids_contributed groups _)

/-- An id that is repeated when placeholders have been expanded is one of a member. -/
theorem Prepared.repeated_of_member (prepared : Prepared template configuration arranged)
    (found : repeatedId? [] ((expand groups arranged).map (·.id)) = some id) :
    id ∈ (membersAmong groups (mergedStages template configuration)).map (·.id) := by
  have twice := count_of_repeatedId? found
  rw [(prepared.ids_expand groups).count_eq, List.count_append, List.count_nil] at twice
  have plain : ((plainAmong groups (mergedStages template configuration)).map (·.id)).Nodup :=
    prepared.distinct_merged.sublist (List.filter_sublist.map _)
  have once := List.nodup_iff_count_le_one.mp plain id
  exact List.count_pos_iff.mp (by omega)

theorem exists_checkUnique_eq_error_iff :
    (∃ id, checkUnique stages = .error (.duplicateStage id)) ↔ ¬ (stages.map (·.id)).Nodup := by
  rw [← checkUnique_eq_ok]
  constructor
  · rintro ⟨id, failed⟩ succeeded
    rw [failed] at succeeded
    contradiction
  · intro fails
    cases checked : checkUnique stages with
    | ok _ => exact absurd checked fails
    | error e =>
        obtain ⟨id, _, rfl⟩ := checkUnique_eq_error checked
        exact ⟨id, rfl⟩

theorem compile_eq_duplicate_iff (prepared : prepare template configuration = .ok arranged) :
    compile template configuration groups = .error (.duplicateStage id) ↔
      checkUnique (expand groups arranged) = .error (.duplicateStage id) := by
  rw [compile_eq_prepare, prepared]
  constructor
  · intro failed
    rcases bind_eq_error.mp failed with early | ⟨before, same, late⟩
    · contradiction
    · cases same
      rcases bind_eq_error.mp late with unique | ⟨_, _, later⟩
      · exact unique
      · rcases bind_eq_error.mp later with edges | ⟨_, _, finished⟩
        · rcases checkEdges_eq_error edges with ⟨_, _, other⟩ | ⟨_, other⟩ <;> contradiction
        · contradiction
  · exact fun unique => bind_eq_error.mpr (.inr ⟨arranged, rfl, bind_eq_error.mpr (.inl unique)⟩)

/-- The ids of all merged stages and all members differ if no member has the id of a placeholder,
given that the ids of what stays differ. -/
theorem nodup_with_placeholders_iff (distinct : (stages.map (·.id)).Nodup)
    (apart : ((plainAmong groups stages).map (·.id) ++
      (membersAmong groups stages).map (·.id)).Nodup) :
    (stages.map (·.id) ++ (membersAmong groups stages).map (·.id)).Nodup ↔
      ∀ s ∈ stages, groups.has s.id = true → s.id ∉ (membersAmong groups stages).map (·.id) := by
  obtain ⟨_, members, plainApart⟩ := List.nodup_append.mp apart
  rw [List.nodup_append]
  constructor
  · rintro ⟨_, _, allApart⟩ s listed _ clash
    exact allApart s.id (List.mem_map_of_mem listed) s.id clash rfl
  · intro placeholdersApart
    refine ⟨distinct, members, ?_⟩
    rintro _ listed id inGroup rfl
    obtain ⟨s, among, rfl⟩ := List.mem_map.mp listed
    cases placeholder : groups.has s.id with
    | true => exact placeholdersApart s among placeholder inGroup
    | false =>
        have stays : s ∈ plainAmong groups stages :=
          List.mem_filter.mpr ⟨among, by simp [placeholder]⟩
        exact plainApart s.id (List.mem_map_of_mem stays) s.id inGroup rfl

/-- A member that has the id of a stage that stays, or of another member, makes a compilation fail.
One that has the id of a placeholder does not: of what compiles, all ids differ exactly if there is
no such member. -/
theorem compile_tells_members_apart (groups : Groups)
    (prepared : prepare template configuration = .ok arranged) :
    ((∃ id, compile template configuration groups = .error (.duplicateStage id)) ↔
      ¬ ((plainAmong groups (mergedStages template configuration)).map (·.id) ++
          (membersAmong groups (mergedStages template configuration)).map (·.id)).Nodup) ∧
    ∀ c, compile template configuration groups = .ok c →
      (((mergedStages template configuration).map (·.id) ++
          (membersAmong groups (mergedStages template configuration)).map (·.id)).Nodup ↔
        ∀ s ∈ mergedStages template configuration, groups.has s.id = true →
          s.id ∉ (membersAmong groups (mergedStages template configuration)).map (·.id)) := by
  have facts := prepare_eq_ok prepared
  refine ⟨?fails, ?succeeds⟩
  case fails =>
    rw [← (facts.ids_expand groups).nodup_iff, ← exists_checkUnique_eq_error_iff]
    exact exists_congr fun id => compile_eq_duplicate_iff prepared
  case succeeds =>
    intro c compiled
    obtain ⟨again, same, run⟩ := prepare_of_compile compiled
    obtain rfl : arranged = again := Except.ok.inj (prepared.symm.trans same)
    exact nodup_with_placeholders_iff facts.distinct_merged
      ((facts.ids_expand groups).nodup_iff.mp run.distinct_expanded)

theorem compile_tells_members_apart_stacked :
    prepare stackedStages [] = .ok stackedStages ∧
      (¬ ∃ id, compile stackedStages [] stackedGroups = .error (.duplicateStage id)) ∧
      (["bake", "copy", "soak", "drain", "qa", "deploy"] ++
        ["copy-0", "copy-1", "qa.lint", "qa.unit"]).Nodup := by
  have prepared : prepare stackedStages [] = .ok stackedStages := rfl
  have succeeds : (compile stackedStages [] stackedGroups).isOk = true := by decide +kernel
  obtain ⟨c, compiled⟩ := exists_of_isOk succeeds
  obtain ⟨fails, distinct⟩ := compile_tells_members_apart stackedGroups prepared
  refine ⟨prepared, ?_, ?_⟩
  · rw [compiled]
    simp
  · exact (distinct c compiled).mpr (by decide +kernel)

/-- A partial's member with the id of a stage that is repeated. -/
def clashingStages : List Stage :=
  [{ id := "qa" }, { id := "qa.lint" }, { id := "deploy", dependsOn := ["qa"] }]

def clashingGroups : Groups :=
  [("qa", [{ id := "qa.lint" }]), ("qa.lint", [{ id := "qa.lint-0" }])]

/-- Here what depended on one placeholder comes to depend on the group of the other one. -/
theorem compile_misses_clash :
    ∃ c, compile clashingStages [] clashingGroups = .ok c ∧
      ¬ ((mergedStages clashingStages []).map (·.id) ++
          (membersAmong clashingGroups (mergedStages clashingStages [])).map (·.id)).Nodup ∧
      c.graph.stages.map (fun s => (s.id, s.dependsOn)) =
        [("qa.lint", []), ("qa.lint-0", []), ("deploy", ["qa.lint-0"])] := by
  refine ⟨_, rfl, by decide +kernel, by decide +kernel⟩

end StagePlan.Graph
