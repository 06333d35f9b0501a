import StagePlan.Proofs.Graph.Expansion

namespace StagePlan.Graph

/-!
What an expanded list holds and what its stages depend on. Each of its stages stood in the list
before or is a member of a group, and it depends on what replacements lead to, so that expanding
leaves no dependency on a stage that is not there.
-/

variable {groups : Groups} {stages : List Stage} {s o : Stage} {a id : String}

theorem mem_opened : o ∈ opened groups stages ↔
    (o ∈ stages ∧ groups.find? o.id = none) ∨
      ∃ s ∈ stages, ∃ group, groups.find? s.id = some group ∧ o ∈ membersOf s group := by
  rw [opened, List.mem_flatMap]
  constructor
  · rintro ⟨s, listed, part⟩
    cases found : groups.find? s.id with
    | none =>
        obtain rfl : o = s := by simpa [found] using part
        exact .inl ⟨listed, found⟩
    | some group => exact .inr ⟨s, listed, group, found, by simpa [found] using part⟩
  · rintro (⟨listed, plain⟩ | ⟨s, listed, group, found, part⟩)
    · exact ⟨o, listed, by simp [plain]⟩
    · exact ⟨s, listed, by simpa [found] using part⟩

/-- A stage that stands for a group member has its id, and its dependencies or else those of the
placeholder. -/
theorem mem_membersOf {group : List Stage} (part : o ∈ membersOf s group) :
    ∃ member ∈ group, o = { member with dependsOn := o.dependsOn } ∧
      (o.dependsOn = member.dependsOn ∨ o.dependsOn = s.dependsOn) := by
  obtain ⟨member, inGroup, rfl⟩ := List.mem_map.mp part
  refine ⟨member, inGroup, ?_⟩
  split
  · exact ⟨rfl, .inr rfl⟩
  · exact ⟨rfl, .inl rfl⟩

theorem resolves_nil {start : String} : Resolves [] start id ↔ start = id := by
  constructor
  · rintro ⟨path, _⟩
    cases path.cases_head with
    | inl same => exact same
    | inr step =>
        obtain ⟨_, ⟨_, found, _⟩, _⟩ := step
        simp [Bindings.find?] at found
  · rintro rfl
    exact ⟨.refl, rfl⟩

theorem mem_expand (listed : s ∈ expand groups stages) :
    ∃ o ∈ opened groups stages, s = { o with dependsOn := s.dependsOn } ∧
      ∀ id, id ∈ s.dependsOn ↔
        ∃ start ∈ o.dependsOn, Resolves (replacements groups stages) start id := by
  unfold expand at listed
  split at listed
  · rename_i none
    obtain ⟨noneReplaced, same⟩ := opened_of_plain (by simpa using none)
    refine ⟨s, by rwa [same], rfl, fun id => ?_⟩
    simp [noneReplaced, resolves_nil]
  · obtain ⟨o, fromOpened, rfl⟩ := List.mem_map.mp listed
    exact ⟨o, fromOpened, rfl, fun id => mem_rewire⟩

theorem ids_expand : (expand groups stages).map (·.id) = (opened groups stages).map (·.id) := by
  unfold expand
  split
  · rename_i none
    rw [(opened_of_plain (by simpa using none)).2]
  · rw [List.map_map]
    rfl

/-- Every stage of an expanded list is one that a stage of the list contributes, with other
dependencies. -/
theorem exists_contributed (listed : o ∈ expand groups stages) :
    ∃ s ∈ stages, ∃ part ∈ contributed groups s, o = { part with dependsOn := o.dependsOn } := by
  obtain ⟨before, fromOpened, same, _⟩ := mem_expand listed
  rcases mem_opened.mp fromOpened with ⟨among, plain⟩ | ⟨s, among, group, grouped, inGroup⟩
  · exact ⟨before, among, before, by simp [contributed, plain], same⟩
  · obtain ⟨member, isMember, sameMember, _⟩ := mem_membersOf inGroup
    refine ⟨s, among, member, by simpa [contributed, grouped] using isMember, ?_⟩
    rw [same, sameMember]

/-- The ids that expanding may come across: those of the list and of all members. -/
def Known (groups : Groups) (stages : List Stage) (id : String) : Prop :=
  id ∈ stages.map (·.id) ∨ id ∈ (opened groups stages).map (·.id)

theorem known_of_member {group : List Stage} (listed : s ∈ stages)
    (grouped : groups.find? s.id = some group) (inGroup : id ∈ group.map (·.id)) :
    Known groups stages id := by
  obtain ⟨member, isMember, rfl⟩ := List.mem_map.mp inGroup
  refine .inr (List.mem_map.mpr ⟨_, mem_opened_of_member listed grouped isMember, ?_⟩)
  split <;> rfl

theorem known_of_opened (closed : Closed stages)
    (internal : ∀ s ∈ stages, ∀ group, groups.find? s.id = some group → Closed group)
    (listed : o ∈ opened groups stages) (named : id ∈ o.dependsOn) : Known groups stages id := by
  rcases mem_opened.mp listed with ⟨among, _⟩ | ⟨s, among, group, grouped, inGroup⟩
  · exact .inl (closed o among id named)
  · obtain ⟨member, isMember, _, own | taken⟩ := mem_membersOf inGroup
    · exact known_of_member among grouped
        (internal s among group grouped member isMember id (own ▸ named))
    · exact .inl (closed s among id (taken ▸ named))

theorem known_of_replaces (closed : Closed stages) {next : String}
    (step : Replaces (replacements groups stages) id next) : Known groups stages next := by
  obtain ⟨targets, found, target⟩ := step
  obtain ⟨s, among, entry⟩ := List.mem_filterMap.mp (Bindings.mem_of_find? found)
  obtain ⟨group, grouped, same⟩ := Option.map_eq_some_iff.mp entry
  obtain ⟨rfl, rfl⟩ := Prod.mk.inj same
  unfold standIns at target
  split at target
  · exact .inl (closed s among next target)
  · exact known_of_member among grouped (mem_leaves.mp target).1

theorem mem_opened_of_known (distinct : (stages.map (·.id)).Nodup)
    (known : Known groups stages id) (kept : (replacements groups stages).find? id = none) :
    id ∈ (opened groups stages).map (·.id) := by
  rcases known with listed | there
  · obtain ⟨s, among, rfl⟩ := List.mem_map.mp listed
    rw [find?_replacements groups distinct among, Option.map_eq_none_iff] at kept
    exact List.mem_map_of_mem (mem_opened.mpr (.inl ⟨among, kept⟩))
  · exact there

/-- Expanding leaves no dependency open, even if members have the ids of placeholders. -/
theorem closed_expand (distinct : (stages.map (·.id)).Nodup) (closed : Closed stages)
    (internal : ∀ s ∈ stages, ∀ group, groups.find? s.id = some group → Closed group) :
    Closed (expand groups stages) := by
  intro s listed id named
  obtain ⟨o, fromOpened, _, rewired⟩ := mem_expand listed
  obtain ⟨start, written, path, kept⟩ := (rewired id).mp named
  have known : Known groups stages id := by
    clear kept
    induction path with
    | refl => exact known_of_opened closed internal fromOpened written
    | tail _ step _ => exact known_of_replaces closed step
  rw [ids_expand]
  exact mem_opened_of_known distinct known kept

end StagePlan.Graph
