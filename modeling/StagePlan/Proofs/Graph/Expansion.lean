import StagePlan.Proofs.Graph.PlacementRun
import StagePlan.Proofs.Graph.Rewiring

namespace StagePlan.Graph

open Relation

/-!
What expanding placeholders does to dependence. Whatever depended on a stage depends on all members
of its group, however many empty groups lie between them.
-/

/-- The stages that a stage brings into the graph: the members of its group, or itself. -/
def contributed (groups : Groups) (stage : Stage) : List Stage :=
  (groups.find? stage.id).getD [stage]

/-- What each placeholder of a list is replaced by among dependencies. -/
def replacements (groups : Groups) (stages : List Stage) : Bindings (List String) :=
  stages.filterMap fun s => (groups.find? s.id).map fun group => (s.id, standIns s group)

/-- The list with every group in its place, and dependencies that still name placeholders. -/
def opened (groups : Groups) (stages : List Stage) : List Stage :=
  stages.flatMap fun s =>
    match groups.find? s.id with
    | some group => membersOf s group
    | none => [s]

/-- Groups that depend on nothing outside, with members whose ids no stage of the list has. -/
structure SelfContained (groups : Groups) (stages : List Stage) : Prop where
  internal : ∀ s ∈ stages, ∀ group, groups.find? s.id = some group → Closed group
  fresh : ∀ s ∈ stages, ∀ group, groups.find? s.id = some group →
    ∀ member ∈ group, member.id ∉ stages.map (·.id)

variable {groups : Groups} {stages group : List Stage} {s member : Stage} {a b id start : String}

theorem contributed_of_id {y z u : Stage} (same : z.id = y.id)
    (part : u ∈ contributed groups y) : ∃ w ∈ contributed groups z, w.id = u.id := by
  cases found : groups.find? y.id with
  | none =>
      obtain rfl : u = y := by simpa [contributed, found] using part
      exact ⟨z, by simp [contributed, same, found], same⟩
  | some group =>
      refine ⟨u, ?_, rfl⟩
      simpa [contributed, same, found] using part

theorem opened_of_plain (plain : stages.any (fun s => groups.has s.id) = false) :
    replacements groups stages = [] ∧ opened groups stages = stages := by
  have absent : ∀ s ∈ stages, groups.find? s.id = none := by
    simpa [Bindings.has_eq_isSome] using plain
  constructor
  · exact List.filterMap_eq_nil_iff.mpr fun s listed => by simp [absent s listed]
  · have alone : ∀ s ∈ stages, (match groups.find? s.id with
        | some group => membersOf s group
        | none => [s]) = [s] := fun s listed => by rw [absent s listed]
    rw [opened, List.flatMap_congr alone, List.flatMap_singleton']

theorem depends_expand (listed : s ∈ opened groups stages) (named : start ∈ s.dependsOn)
    (resolved : Resolves (replacements groups stages) start id) :
    Depends (expand groups stages) s.id id := by
  unfold expand
  split
  · rename_i none
    obtain ⟨noneReplaced, same⟩ := opened_of_plain (by simpa using none)
    rw [noneReplaced] at resolved
    have still : start = id := by
      induction resolved.1 with
      | refl => rfl
      | tail _ step _ =>
          obtain ⟨_, found, _⟩ := step
          simp [Bindings.find?] at found
    exact ⟨s, same ▸ listed, rfl, still ▸ named⟩
  · exact ⟨_, List.mem_map_of_mem listed, rfl, mem_rewire_of_resolves named resolved⟩

theorem bare_expand : (expand groups stages).map bare =
    (stages.flatMap (contributed groups)).map bare := by
  have opened_bare : (opened groups stages).map bare =
      (stages.flatMap (contributed groups)).map bare := by
    rw [opened, List.map_flatMap, List.map_flatMap]
    refine List.flatMap_congr fun s _ => ?_
    cases found : groups.find? s.id with
    | none => simp [contributed, found]
    | some group =>
        simp only [contributed, found, Option.getD_some, membersOf, List.map_map]
        refine List.map_congr_left fun member _ => ?_
        simp only [Function.comp_apply]
        split <;> rfl
  unfold expand
  split
  · rename_i none
    rw [← opened_bare, (opened_of_plain (by simpa using none)).2]
  · rw [← opened_bare, List.map_map]
    rfl

theorem find?_replacements_of_absent (groups : Groups) (absent : id ∉ stages.map (·.id)) :
    (replacements groups stages).find? id = none := by
  induction stages with
  | nil => rfl
  | cons s rest ih =>
      simp only [List.map_cons, List.mem_cons, not_or] at absent
      have others := ih absent.2
      cases found : groups.find? s.id with
      | none => simpa [replacements, found] using others
      | some group => simpa [replacements, found, Bindings.find?, Ne.symm absent.1] using others

theorem find?_replacements (groups : Groups) (distinct : (stages.map (·.id)).Nodup)
    (listed : s ∈ stages) :
    (replacements groups stages).find? s.id = (groups.find? s.id).map (standIns s) := by
  induction stages with
  | nil => simp at listed
  | cons first rest ih =>
      rw [List.map_cons, List.nodup_cons] at distinct
      rcases List.mem_cons.mp listed with rfl | later
      · cases found : groups.find? s.id with
        | none =>
            have others := find?_replacements_of_absent groups distinct.1
            simpa [replacements, found] using others
        | some group => simp [replacements, found]
      · have apart : first.id ≠ s.id := fun same =>
          distinct.1 (same ▸ List.mem_map_of_mem later)
        have others := ih distinct.2 later
        cases found : groups.find? first.id with
        | none => simpa [replacements, found] using others
        | some group => simpa [replacements, found, Bindings.find?, apart] using others

theorem mem_opened_of_plain (listed : s ∈ stages) (plain : groups.find? s.id = none) :
    s ∈ opened groups stages :=
  List.mem_flatMap.mpr ⟨s, listed, by simp [plain]⟩

theorem mem_opened_of_member (listed : s ∈ stages) (grouped : groups.find? s.id = some group)
    (inGroup : member ∈ group) :
    (if member.dependsOn.isEmpty then { member with dependsOn := s.dependsOn } else member) ∈
      opened groups stages :=
  List.mem_flatMap.mpr ⟨s, listed, by
    simp only [grouped]
    exact List.mem_map_of_mem inGroup⟩

namespace SelfContained

theorem depends_of_member (contained : SelfContained groups stages) (listed : s ∈ stages)
    (grouped : groups.find? s.id = some group) (edge : Depends group a b) :
    Depends (expand groups stages) a b := by
  obtain ⟨member, inGroup, rfl, named⟩ := edge
  have full : member.dependsOn.isEmpty = false := by
    simpa using List.ne_nil_of_mem named
  have placed := mem_opened_of_member listed grouped inGroup
  simp only [full, Bool.false_eq_true, if_false] at placed
  obtain ⟨other, otherListed, rfl⟩ :=
    List.mem_map.mp (contained.internal s listed group grouped member inGroup b named)
  refine depends_expand placed named ⟨.refl, ?_⟩
  exact find?_replacements_of_absent groups (contained.fresh s listed group grouped other otherListed)

theorem acyclic_group (contained : SelfContained groups stages)
    (acyclic : Acyclic (expand groups stages)) (listed : s ∈ stages)
    (grouped : groups.find? s.id = some group) : Acyclic group :=
  acyclic.of_lift fun _ _ edge => .single (contained.depends_of_member listed grouped edge)

theorem path_of_member (contained : SelfContained groups stages) (listed : s ∈ stages)
    (grouped : groups.find? s.id = some group) (path : ReflTransGen (Depends group) a b) :
    ReflTransGen (Depends (expand groups stages)) a b :=
  reflTransGen_lift
    (fun _ _ edge => .single (contained.depends_of_member listed grouped edge)) path

/-- From everything that a stage contributes one comes to a stage that has taken over what the
stage itself depended on. -/
theorem exit (contained : SelfContained groups stages)
    (acyclic : Acyclic (expand groups stages)) (listed : s ∈ stages)
    (part : member ∈ contributed groups s) :
    ∃ last, ReflTransGen (Depends (expand groups stages)) member.id last ∧
      ∀ start ∈ s.dependsOn, ∀ id, Resolves (replacements groups stages) start id →
        Depends (expand groups stages) last id := by
  cases grouped : groups.find? s.id with
  | none =>
      simp only [contributed, grouped, Option.getD_none, List.mem_singleton] at part
      subst part
      exact ⟨member.id, .refl, fun start named id resolved =>
        depends_expand (mem_opened_of_plain listed grouped) named resolved⟩
  | some group =>
      simp only [contributed, grouped, Option.getD_some] at part
      obtain ⟨root, rootListed, isRoot, path⟩ :=
        (contained.acyclic_group acyclic listed grouped).exists_root
          (contained.internal s listed group grouped) part
      have placed := mem_opened_of_member listed grouped rootListed
      simp only [isRoot, List.isEmpty_nil, if_true] at placed
      exact ⟨root.id, contained.path_of_member listed grouped path,
        fun start named id resolved => by
          have taken := depends_expand placed named resolved
          exact taken⟩

/-- Replacements lead from a stage to one from which one comes to what the stage contributes. -/
theorem entry (contained : SelfContained groups stages)
    (acyclic : Acyclic (expand groups stages)) (distinct : (stages.map (·.id)).Nodup)
    (listed : s ∈ stages) (part : member ∈ contributed groups s) :
    ∃ first, Resolves (replacements groups stages) s.id first ∧
      ReflTransGen (Depends (expand groups stages)) first member.id := by
  have replaced := find?_replacements groups distinct listed
  cases grouped : groups.find? s.id with
  | none =>
      simp only [contributed, grouped, Option.getD_none, List.mem_singleton] at part
      subst part
      exact ⟨member.id, ⟨.refl, by rw [replaced, grouped]; rfl⟩, .refl⟩
  | some group =>
      simp only [contributed, grouped, Option.getD_some] at part
      obtain ⟨leaf, isLeaf, path⟩ :=
        (contained.acyclic_group acyclic listed grouped).exists_leaf (List.mem_map_of_mem part)
      have full : group.isEmpty = false := by simpa using List.ne_nil_of_mem part
      have step : Replaces (replacements groups stages) s.id leaf :=
        ⟨leaves group, by simp [replaced, grouped, standIns, full], isLeaf⟩
      obtain ⟨leafStage, leafListed, rfl⟩ := List.mem_map.mp (mem_leaves.mp isLeaf).1
      have kept := find?_replacements_of_absent groups
        (contained.fresh s listed group grouped leafStage leafListed)
      exact ⟨leafStage.id, ⟨.single step, kept⟩, contained.path_of_member listed grouped path⟩

theorem entry_of_path (contained : SelfContained groups stages)
    (acyclic : Acyclic (expand groups stages)) (distinct : (stages.map (·.id)).Nodup)
    (listed : s ∈ stages) (part : member ∈ contributed groups s)
    (path : ReflTransGen (Depends stages) a s.id) :
    ∃ first, Resolves (replacements groups stages) a first ∧
      ReflTransGen (Depends (expand groups stages)) first member.id := by
  -- from the end of the path: an empty group is passed by its replacements, any other by a member
  induction path using ReflTransGen.head_induction_on with
  | refl => exact contained.entry acyclic distinct listed part
  | head edge _ ih =>
      obtain ⟨first, resolved, onward⟩ := ih
      obtain ⟨t, tListed, rfl, named⟩ := edge
      cases members : contributed groups t with
      | nil =>
          have replaced := find?_replacements groups distinct tListed
          cases grouped : groups.find? t.id with
          | none => simp [contributed, grouped] at members
          | some group =>
              have empty : group = [] := by simpa [contributed, grouped] using members
              have step : Replaces (replacements groups stages) t.id _ :=
                ⟨t.dependsOn, by simp [replaced, grouped, standIns, empty], named⟩
              exact ⟨first, ⟨resolved.1.head step, resolved.2⟩, onward⟩
      | cons through rest =>
          have inside : through ∈ contributed groups t := by simp [members]
          obtain ⟨front, toFront, across⟩ := contained.entry acyclic distinct tListed inside
          obtain ⟨last, toLast, taken⟩ := contained.exit acyclic tListed inside
          have crossing := taken _ named first resolved
          exact ⟨front, toFront, (across.trans toLast).trans (onward.head crossing)⟩

/-- All that one stage contributes depends on all that another one contributes, if the stage
depended on the other one. -/
theorem reaches_expand (contained : SelfContained groups stages)
    (acyclic : Acyclic (expand groups stages)) (distinct : (stages.map (·.id)).Nodup)
    {t other : Stage} (tListed : t ∈ stages) (listed : s ∈ stages)
    (path : Reaches stages t.id s.id) (from_t : other ∈ contributed groups t)
    (part : member ∈ contributed groups s) :
    Reaches (expand groups stages) other.id member.id := by
  obtain ⟨next, edge, onward⟩ := TransGen.head'_iff.mp path
  obtain ⟨last, toLast, taken⟩ := contained.exit acyclic tListed from_t
  obtain ⟨first, resolved, arrival⟩ := contained.entry_of_path acyclic distinct listed part onward
  have named : next ∈ t.dependsOn := (depends_iff distinct tListed).mp edge
  exact TransGen.trans_left (.tail' toLast (taken next named first resolved)) arrival

end SelfContained

end StagePlan.Graph
