import StagePlan.Proofs.Graph.Flattening
import StagePlan.Proofs.Graph.RepeatedExclusion
import StagePlan.Proofs.Graph.StandingStages

namespace StagePlan.Graph

open Relation

/-!
Placeholders with empty groups. Their dependencies are followed before the graph is put in order;
excluding a stage passes its dependencies on afterwards, stage by stage. Both write out the same ids
in the same order.
-/

variable {template configuration stages before rest : List Stage} {groups : Groups}
  {removed dependsOn : List String} {inherited replaced : Bindings (List String)} {a b id : String}

/-- What stands in for an id is what replacements write out for it, but for copies. -/
def Spelled (replaced inherited : Bindings (List String)) (id : String) : Prop :=
  ∃ out, Flattens replaced [id] out ∧ dedup (standIn inherited id) = dedup out

theorem exists_flattens (spelled : ∀ id ∈ dependsOn, Spelled replaced inherited id) :
    ∃ out, Flattens replaced dependsOn out ∧ inherit inherited dependsOn = dedup out := by
  induction dependsOn with
  | nil => exact ⟨[], .nil, rfl⟩
  | cons id rest ih =>
      obtain ⟨here, others⟩ := List.forall_mem_cons.mp spelled
      obtain ⟨front, first, sameFront⟩ := here
      obtain ⟨back, second, sameBack⟩ := ih others
      exact ⟨front ++ back, first.append second, dedup_append_congr sameFront sameBack⟩

theorem inherit_eq_rewire (unrolled : Unrolled replaced)
    (spelled : ∀ id ∈ dependsOn, Spelled replaced inherited id) :
    inherit inherited dependsOn = rewire replaced dependsOn := by
  obtain ⟨out, flattens, inherits⟩ := exists_flattens spelled
  rw [inherits, rewire_eq_dedup unrolled flattens]

theorem spelled_of_excluded (found : replaced.find? id = some dependsOn)
    (spelled : ∀ d ∈ dependsOn, Spelled replaced inherited d) :
    Spelled replaced (inherited.bind id (inherit inherited dependsOn)) id := by
  obtain ⟨out, flattens, inherits⟩ := exists_flattens spelled
  refine ⟨out, by simpa using Flattens.replaced found flattens .nil, ?_⟩
  rw [standIn_bind, if_pos rfl, dedup_inherit, inherits]

theorem spelled_of_kept (none_ : replaced.find? id = none) (new : inherited.find? id = none) :
    Spelled replaced inherited id :=
  ⟨[id], .kept none_ .nil, by rw [standIn_of_find?_eq_none new]⟩

theorem Spelled.bind {name : String} (spelled : Spelled replaced inherited id)
    (other : name ≠ id) (dependsOn : List String) :
    Spelled replaced (inherited.bind name dependsOn) id := by
  rw [Spelled, standIn_bind, if_neg other]
  exact spelled

/-- Both algorithms on a list that is in order: passing on what excluded stages depended on comes to
following their dependencies. -/
theorem keepFrom_eq_rewire (unrolled : Unrolled replaced)
    (lookup : ∀ s ∈ rest, replaced.find? s.id = if s.id ∈ removed then some s.dependsOn else none)
    (ordered : InOrder (before ++ rest)) (distinct : ((before ++ rest).map (·.id)).Nodup)
    (spelled : ∀ s ∈ before, Spelled replaced inherited s.id)
    (unseen : ∀ s ∈ rest, inherited.find? s.id = none) :
    keepFrom removed inherited rest =
      (rest.filter fun s => !removed.contains s.id).map fun s =>
        { s with dependsOn := rewire replaced s.dependsOn } := by
  -- along the list: for every id behind, both have come to the same
  induction rest generalizing before inherited with
  | nil => rfl
  | cons stage rest ih =>
      obtain ⟨found, lookupRest⟩ := List.forall_mem_cons.mp lookup
      obtain ⟨new, unseenRest⟩ := List.forall_mem_cons.mp unseen
      have named : ∀ id ∈ stage.dependsOn, Spelled replaced inherited id := by
        intro id named
        obtain ⟨s, listed, rfl⟩ := List.mem_map.mp (ordered before stage rest rfl id named)
        exact spelled s listed
      have apart : ∀ s ∈ before ++ rest, stage.id ≠ s.id := by
        rw [List.map_append, List.map_cons, List.nodup_middle, ← List.map_append] at distinct
        exact fun s listed clash =>
          (List.nodup_cons.mp distinct).1 (clash ▸ List.mem_map_of_mem listed)
      rw [List.append_cons] at ordered distinct
      by_cases gone : stage.id ∈ removed
      · rw [if_pos gone] at found
        have passedOn : ∀ s ∈ before ++ [stage], Spelled replaced
            (inherited.bind stage.id (inherit inherited stage.dependsOn)) s.id := by
          intro s listed
          rcases List.mem_append.mp listed with early | last
          · exact (spelled s early).bind (apart s (List.mem_append_left _ early)) _
          · obtain rfl := List.mem_singleton.mp last
            exact spelled_of_excluded found named
        have stillUnseen : ∀ s ∈ rest, (inherited.bind stage.id
            (inherit inherited stage.dependsOn)).find? s.id = none := by
          intro s listed
          rw [Bindings.find?_bind, if_neg (apart s (List.mem_append_right _ listed))]
          exact unseenRest s listed
        simpa [keepFrom, gone] using ih lookupRest ordered distinct passedOn stillUnseen
      · rw [if_neg gone] at found
        have written : ∀ s ∈ before ++ [stage], Spelled replaced inherited s.id := by
          intro s listed
          rcases List.mem_append.mp listed with early | last
          · exact spelled s early
          · obtain rfl := List.mem_singleton.mp last
            exact spelled_of_kept found new
        have later := ih lookupRest ordered distinct written unseenRest
        simpa [keepFrom, gone, inherit_eq_rewire unrolled named] using later

theorem group_of_empty (empty : ∀ entry ∈ groups, entry.2 = []) {group : List Stage}
    (grouped : groups.find? id = some group) : group = [] :=
  empty _ (Bindings.mem_of_find? grouped)

theorem find?_of_empty (empty : ∀ entry ∈ groups, entry.2 = []) (id : String) :
    groups.find? id = if id ∈ groups.names then some [] else none := by
  cases found : groups.find? id with
  | none => rw [if_neg (Bindings.find?_eq_none.mp found)]
  | some group => rw [if_pos (Bindings.mem_names_of_find? found), group_of_empty empty found]

theorem opened_of_empty (empty : ∀ entry ∈ groups, entry.2 = []) (stages : List Stage) :
    opened groups stages = stages.filter fun s => !groups.names.contains s.id := by
  induction stages with
  | nil => rfl
  | cons stage rest ih =>
      rw [opened, List.flatMap_cons, find?_of_empty empty, ← opened, ih]
      by_cases placeholder : stage.id ∈ groups.names <;> simp [placeholder, membersOf]

theorem find?_replacements_of_empty (empty : ∀ entry ∈ groups, entry.2 = [])
    (distinct : (stages.map (·.id)).Nodup) {s : Stage} (listed : s ∈ stages) :
    (replacements groups stages).find? s.id =
      if s.id ∈ groups.names then some s.dependsOn else none := by
  rw [find?_replacements groups distinct listed, find?_of_empty empty]
  split <;> rfl

theorem depends_of_replaces (empty : ∀ entry ∈ groups, entry.2 = [])
    (step : Replaces (replacements groups stages) a b) : Depends stages a b := by
  obtain ⟨targets, found, target⟩ := step
  obtain ⟨s, listed, entry⟩ := List.mem_filterMap.mp (Bindings.mem_of_find? found)
  obtain ⟨group, grouped, same⟩ := Option.map_eq_some_iff.mp entry
  obtain ⟨rfl, rfl⟩ := Prod.mk.inj same
  rw [group_of_empty empty grouped] at target
  exact .of_mem listed target

theorem unrolled_of_acyclic (empty : ∀ entry ∈ groups, entry.2 = []) (acyclic : Acyclic stages) :
    Unrolled (replacements groups stages) :=
  fun id ring => acyclic id (TransGen.mono (fun _ _ => depends_of_replaces empty) id id ring)

/-- Expanding empty groups adds no path. -/
theorem acyclic_expand_of_empty (empty : ∀ entry ∈ groups, entry.2 = [])
    (acyclic : Acyclic stages) : Acyclic (expand groups stages) := by
  refine acyclic.of_lift fun a b edge => ?_
  obtain ⟨s, listed, rfl, named⟩ := edge
  obtain ⟨o, fromOpened, same, rewired⟩ := mem_expand listed
  obtain ⟨start, written, path, _⟩ := (rewired b).mp named
  rw [opened_of_empty empty] at fromOpened
  have first : Depends stages o.id start := .of_mem (List.mem_filter.mp fromOpened).1 written
  have sameId : s.id = o.id := by rw [same]
  rw [sameId]
  exact .trans_left (.single first)
    (ReflTransGen.mono (fun _ _ => depends_of_replaces empty) start b path)

theorem distinct_expand_of_empty (empty : ∀ entry ∈ groups, entry.2 = [])
    (distinct : (stages.map (·.id)).Nodup) : ((expand groups stages).map (·.id)).Nodup := by
  rw [ids_expand, opened_of_empty empty]
  exact distinct.sublist (List.filter_sublist.map _)

theorem closed_expand_of_empty (empty : ∀ entry ∈ groups, entry.2 = [])
    (distinct : (stages.map (·.id)).Nodup) (closed : Closed stages) :
    Closed (expand groups stages) := by
  refine closed_expand distinct closed fun _ _ group grouped => ?_
  rw [group_of_empty empty grouped]
  exact fun _ listed => absurd listed List.not_mem_nil

theorem acyclic_of_prepare (prepared : prepare template configuration = .ok stages) :
    Acyclic stages := by
  have distinct := (prepare_eq_ok prepared).distinct
  simp only [prepare, bind_eq_ok, pure_eq_ok] at prepared
  obtain ⟨_, _, _, _, _, checked, rfl⟩ := prepared
  exact ((checkEdges_eq_ok_iff distinct).mp checked).2

/-- With empty groups, or none, only the checks before placeholders are expanded can fail. -/
theorem compile_of_empty (empty : ∀ entry ∈ groups, entry.2 = []) :
    compile template configuration groups =
      (prepare template configuration).map fun arranged =>
        ⟨⟨topologicalOrder (expand groups arranged)⟩,
          overrideWarnings template configuration⟩ := by
  rw [compile_eq_prepare]
  cases prepared : prepare template configuration with
  | error e => rfl
  | ok arranged =>
      have facts := prepare_eq_ok prepared
      have distinct := distinct_expand_of_empty empty facts.distinct
      have unique := checkUnique_eq_ok.mpr distinct
      have edges := (checkEdges_eq_ok_iff distinct).mpr
        ⟨closed_expand_of_empty empty facts.distinct facts.closed,
          acyclic_expand_of_empty empty (acyclic_of_prepare prepared)⟩
      simp only [bind, Except.bind, unique, edges]
      rfl

theorem expand_of_empty (empty : ∀ entry ∈ groups, entry.2 = [])
    (some : ∃ s ∈ stages, s.id ∈ groups.names) :
    expand groups stages = (stages.filter fun s => !groups.names.contains s.id).map fun s =>
      { s with dependsOn := rewire (replacements groups stages) s.dependsOn } := by
  have placeholder : (!stages.any fun s => groups.has s.id) = false := by
    obtain ⟨s, listed, named⟩ := some
    rw [Bool.not_eq_false', List.any_eq_true]
    exact ⟨s, listed, by simp [Bindings.has_eq_isSome, find?_of_empty empty, named]⟩
  rw [← opened_of_empty empty, expand, placeholder]
  rfl

/-- An arranged list without its empty placeholders is the graph without them, up to its order. -/
theorem expand_perm_withoutStages (empty : ∀ entry ∈ groups, entry.2 = [])
    (some : ∃ s ∈ stages, s.id ∈ groups.names) (distinct : (stages.map (·.id)).Nodup)
    (closed : Closed stages) (acyclic : Acyclic stages) :
    (expand groups stages).Perm
      (withoutStages groups.names ⟨topologicalOrder stages⟩).stages := by
  have same := topologicalOrder_perm acyclic
  have ordered : InOrder ([] ++ topologicalOrder stages) :=
    topologicalOrder_inOrder acyclic closed
  have pruned : (withoutStages groups.names ⟨topologicalOrder stages⟩).stages =
      ((topologicalOrder stages).filter fun s => !groups.names.contains s.id).map fun s =>
        { s with dependsOn := rewire (replacements groups stages) s.dependsOn } :=
    keepFrom_eq_rewire (unrolled_of_acyclic empty acyclic)
      (fun s listed => find?_replacements_of_empty empty distinct (same.mem_iff.mp listed))
      ordered ((same.map _).nodup_iff.mpr distinct)
      (fun _ listed => absurd listed List.not_mem_nil) fun _ _ => rfl
  rw [pruned, expand_of_empty empty some]
  exact (same.symm.filter _).map _

/-- Placeholders with empty groups are like stages that are excluded: compiling fails as it does
without groups, and a graph has the stages that remain of the one without groups, with the same
dependencies in the same order. -/
theorem compile_empty_groups (empty : ∀ entry ∈ groups, entry.2 = [])
    (some : ∃ s ∈ mergedStages template configuration, s.id ∈ groups.names) :
    (∀ e, compile template configuration groups = .error e ↔
      compile template configuration [] = .error e) ∧
    ((∃ c, compile template configuration groups = .ok c) ↔
      ∃ c, compile template configuration [] = .ok c) ∧
    ∀ expanded plain, compile template configuration groups = .ok expanded →
      compile template configuration [] = .ok plain →
      expanded.graph.stages.Perm (withoutStages groups.names plain.graph).stages ∧
        expanded.diagnostics = plain.diagnostics := by
  rw [compile_of_empty empty, compile_of_empty (List.forall_mem_nil _)]
  cases prepared : prepare template configuration with
  | error e => simp [Except.map]
  | ok arranged =>
      refine ⟨by simp [Except.map], by simp [Except.map], ?_⟩
      rintro expanded plain ⟨rfl⟩ ⟨rfl⟩
      have facts := prepare_eq_ok prepared
      have acyclic := acyclic_of_prepare prepared
      have placeholder : ∃ s ∈ arranged, s.id ∈ groups.names := by
        obtain ⟨s, listed, named⟩ := some
        obtain ⟨t, member, same⟩ :=
          List.mem_map.mp (facts.ids.mem_iff.mpr (List.mem_map_of_mem listed))
        exact ⟨t, member, same ▸ named⟩
      have ordered := topologicalOrder_perm (acyclic_expand_of_empty empty acyclic)
      simp only [expand_empty]
      exact ⟨ordered.trans (expand_perm_withoutStages empty placeholder facts.distinct facts.closed
        acyclic), trivial⟩

/-- Placeholders behind each other and side by side, written behind what depends on them. -/
def hollowStages : List Stage :=
  [{ id := "deploy", dependsOn := ["checks", "bake"] },
    { id := "checks", dependsOn := ["lint", "unit"] },
    { id := "lint", dependsOn := ["gate", "scan"] },
    { id := "unit", dependsOn := ["bake", "lint"] }, { id := "bake", dependsOn := ["gate"] },
    { id := "notify" }, { id := "scan", dependsOn := ["gate"] }, { id := "gate" }]

def hollowGroups : Groups :=
  [("lint", []), ("unit", []), ("checks", []), ("gate", []), ("ghost", [])]

theorem compile_empty_groups_hollow :
    (∀ entry ∈ hollowGroups, entry.2 = []) ∧
    (∃ s ∈ mergedStages hollowStages [], s.id ∈ hollowGroups.names) ∧
    ∃ expanded plain, compile hollowStages [] hollowGroups = .ok expanded ∧
      compile hollowStages [] [] = .ok plain ∧
      expanded.graph.stages.Perm (withoutStages hollowGroups.names plain.graph).stages ∧
      expanded.graph.stages.map (fun s => (s.id, s.dependsOn)) =
        [("bake", []), ("notify", []), ("scan", []), ("deploy", ["scan", "bake"])] := by
  have empty : ∀ entry ∈ hollowGroups, entry.2 = [] := by decide +kernel
  have some : ∃ s ∈ mergedStages hollowStages [], s.id ∈ hollowGroups.names := by decide +kernel
  have computed : (compile hollowStages [] hollowGroups).map
      (fun c => c.graph.stages.map fun s => (s.id, s.dependsOn)) =
        .ok [("bake", []), ("notify", []), ("scan", []), ("deploy", ["scan", "bake"])] := by
    rfl
  obtain ⟨expanded, compiled, written⟩ := map_eq_ok.mp computed
  obtain ⟨_, success, same⟩ := compile_empty_groups empty some
  obtain ⟨plain, whole⟩ := success.mp ⟨expanded, compiled⟩
  exact ⟨empty, some, expanded, plain, compiled, whole, (same _ _ compiled whole).1, written⟩

end StagePlan.Graph
