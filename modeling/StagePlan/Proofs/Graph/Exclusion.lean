import StagePlan.Graph.Exclusion
import StagePlan.Proofs.Graph.Placement

namespace StagePlan.Graph

open Relation

/-!
Excluding stages from a graph. What stays is ordered as before: a path between two stages that stay
can lead through excluded ones, and then leads through what was inherited from them.
-/

variable {removed : List String} {whole before kept rest : List Stage} {stage : Stage}
  {inherited : Bindings (List String)} {dependsOn : List String} {a b id : String}

def unlinked (stage : Stage) : Stage :=
  { stage with dependsOn := [] }

theorem map_id_unlinked (stages : List Stage) :
    (stages.map unlinked).map (·.id) = stages.map (·.id) := by
  rw [List.map_map]
  rfl

/-- A graph with some of its stages, in which these depend on each other as before. -/
structure PrunedTo (removed : List String) (whole kept : List Stage) : Prop where
  shape : kept.map unlinked = (whole.filter fun s => !removed.contains s.id).map unlinked
  ordered : InOrder kept
  reaches_iff : ∀ a ∈ kept.map (·.id), ∀ b ∈ kept.map (·.id),
    Reaches kept a b ↔ Reaches whole a b

/-- The list holds what a stage of the whole graph depends on in place of excluded stages. -/
structure StandsFor (whole kept : List Stage) (id : String) (dependsOn : List String) : Prop where
  sound : ∀ d ∈ dependsOn, d ∈ kept.map (·.id) ∧ Reaches whole id d
  complete : ∀ x ∈ kept.map (·.id), Reaches whole id x →
    ∃ d ∈ dependsOn, ReflTransGen (Depends kept) d x

/-- What is known once the stages `before` have been gone through: which were kept, and what the
others left behind. -/
structure Pruning (removed : List String) (whole before : List Stage)
    (inherited : Bindings (List String)) (kept : List Stage) : Prop where
  shape : kept.map unlinked = (before.filter fun s => !removed.contains s.id).map unlinked
  ordered : InOrder kept
  kept_stands : ∀ s ∈ kept, inherited.find? s.id = none ∧ StandsFor whole kept s.id s.dependsOn
  removed_stands : ∀ id ∈ before.map (·.id), id ∈ removed →
    ∃ dependsOn, inherited.find? id = some dependsOn ∧ StandsFor whole kept id dependsOn
  unseen : ∀ id, id ∉ before.map (·.id) → inherited.find? id = none

theorem InOrder.concat (ordered : InOrder kept)
    (known : ∀ id ∈ stage.dependsOn, id ∈ kept.map (·.id)) : InOrder (kept ++ [stage]) := by
  intro front s back split id named
  rcases List.eq_nil_or_concat back with rfl | ⟨earlier, last, rfl⟩
  · obtain ⟨rfl, same⟩ := List.append_inj' split rfl
    obtain rfl : stage = s := by simpa using same
    exact known id named
  · have regrouped : kept ++ [stage] = (front ++ s :: earlier) ++ [last] := by
      simpa using split
    obtain ⟨inside, _⟩ := List.append_inj' regrouped rfl
    exact ordered front s earlier inside id named

theorem InOrder.target_before (ordered : InOrder (before ++ rest))
    (distinct : ((before ++ rest).map (·.id)).Nodup) (front : a ∈ before.map (·.id))
    (path : Reaches (before ++ rest) a b) : b ∈ before.map (·.id) := by
  have step : ∀ {a b}, a ∈ before.map (·.id) → Depends (before ++ rest) a b →
      b ∈ before.map (·.id) := by
    rintro a b front ⟨s, member, rfl, named⟩
    obtain ⟨other, listed, same⟩ := List.mem_map.mp front
    have equal : other = s :=
      List.inj_on_of_nodup_map distinct (List.mem_append_left _ listed) member same
    obtain ⟨first, last, split⟩ := List.append_of_mem (equal ▸ listed)
    have earlier := ordered first s (last ++ rest) (by simp [split]) b named
    rw [split, List.map_append]
    exact List.mem_append_left _ earlier
  induction path with
  | single edge => exact step front edge
  | tail _ edge ih => exact step ih edge

theorem mem_inherit :
    id ∈ inherit inherited dependsOn ↔
      ∃ d ∈ dependsOn, id ∈ (inherited.find? d).getD [d] := by
  simp [inherit, mem_dedup]

theorem kept_iff (shape : kept.map unlinked =
    (before.filter fun s => !removed.contains s.id).map unlinked) :
    id ∈ kept.map (·.id) ↔ id ∈ before.map (·.id) ∧ id ∉ removed := by
  rw [← map_id_unlinked, shape, map_id_unlinked]
  simp only [List.mem_map, List.mem_filter, List.contains_eq_mem, Bool.not_eq_true',
    decide_eq_false_iff_not]
  constructor
  · rintro ⟨s, ⟨listed, stays⟩, rfl⟩
    exact ⟨⟨s, listed, rfl⟩, stays⟩
  · rintro ⟨⟨s, listed, rfl⟩, stays⟩
    exact ⟨s, ⟨listed, stays⟩, rfl⟩

theorem StandsFor.grow {new : Stage} (stands : StandsFor whole kept id dependsOn)
    (unreached : ¬ Reaches whole id new.id) : StandsFor whole (kept ++ [new]) id dependsOn where
  sound d listed := by
    rw [List.map_append]
    exact ⟨List.mem_append_left _ (stands.sound d listed).1, (stands.sound d listed).2⟩
  complete x there path := by
    have old : x ∈ kept.map (·.id) := by
      rw [List.map_append, List.mem_append] at there
      rcases there with there | fresh
      · exact there
      · obtain rfl : x = new.id := by simpa using fresh
        exact absurd path unreached
    obtain ⟨d, listed, onward⟩ := stands.complete x old path
    exact ⟨d, listed, reflTransGen_lift
      (fun _ _ edge => .single (edge.mono (List.subset_append_left _ _))) onward⟩

namespace Pruning

variable (state : Pruning removed whole before inherited kept)
include state

theorem inherit_stands (split : whole = before ++ stage :: rest) (ordered : InOrder whole)
    (distinct : (whole.map (·.id)).Nodup) :
    StandsFor whole kept stage.id (inherit inherited stage.dependsOn) where
  sound x inside := by
    obtain ⟨d, named, among⟩ := mem_inherit.mp inside
    have edge : Depends whole stage.id d := .of_mem (by simp [split]) named
    have earlier : d ∈ before.map (·.id) := ordered before stage rest split d named
    by_cases gone : d ∈ removed
    · obtain ⟨left, found, stands⟩ := state.removed_stands d earlier gone
      have listed : x ∈ left := by simpa [found] using among
      exact ⟨(stands.sound x listed).1, .head edge (stands.sound x listed).2⟩
    · have there : d ∈ kept.map (·.id) := (kept_iff state.shape).mpr ⟨earlier, gone⟩
      obtain ⟨s, member, rfl⟩ := List.mem_map.mp there
      obtain rfl : x = s.id := by simpa [(state.kept_stands s member).1] using among
      exact ⟨there, .single edge⟩
  complete x there path := by
    obtain ⟨d, edge, onward⟩ := TransGen.head'_iff.mp path
    have named : d ∈ stage.dependsOn := (depends_iff distinct (by simp [split])).mp edge
    have earlier : d ∈ before.map (·.id) := ordered before stage rest split d named
    by_cases gone : d ∈ removed
    · obtain ⟨left, found, stands⟩ := state.removed_stands d earlier gone
      have further : Reaches whole d x := by
        rcases reflTransGen_iff_eq_or_transGen.mp onward with rfl | further
        · exact absurd gone ((kept_iff state.shape).mp there).2
        · exact further
      obtain ⟨e, listed, last⟩ := stands.complete x there further
      exact ⟨e, mem_inherit.mpr ⟨d, named, by simpa [found] using listed⟩, last⟩
    · obtain ⟨s, member, rfl⟩ := List.mem_map.mp ((kept_iff state.shape).mpr ⟨earlier, gone⟩)
      obtain ⟨none, stands⟩ := state.kept_stands s member
      refine ⟨s.id, mem_inherit.mpr ⟨s.id, named, by simp [none]⟩, ?_⟩
      rcases reflTransGen_iff_eq_or_transGen.mp onward with rfl | further
      · exact .refl
      · obtain ⟨e, listed, last⟩ := stands.complete x there further
        exact .head (.of_mem member listed) last

theorem exclude (split : whole = before ++ stage :: rest) (ordered : InOrder whole)
    (distinct : (whole.map (·.id)).Nodup) (gone : stage.id ∈ removed) :
    Pruning removed whole (before ++ [stage])
      (inherited.bind stage.id (inherit inherited stage.dependsOn)) kept where
  shape := by simpa [gone] using state.shape
  ordered := state.ordered
  kept_stands s member := by
    have stays := ((kept_iff state.shape).mp (List.mem_map_of_mem member)).2
    have apart : stage.id ≠ s.id := fun same => stays (same ▸ gone)
    rw [Bindings.find?_bind, if_neg apart]
    exact state.kept_stands s member
  removed_stands id listed excluded := by
    by_cases same : stage.id = id
    · subst same
      exact ⟨_, by rw [Bindings.find?_bind, if_pos rfl],
        state.inherit_stands split ordered distinct⟩
    · rw [Bindings.find?_bind, if_neg same]
      have earlier : id ∈ before.map (·.id) := by simpa [Ne.symm same] using listed
      exact state.removed_stands id earlier excluded
  unseen id absent := by
    simp only [List.map_append, List.map_cons, List.map_nil, List.mem_append,
      List.mem_singleton, not_or] at absent
    rw [Bindings.find?_bind, if_neg (Ne.symm absent.2)]
    exact state.unseen id absent.1

theorem keep (split : whole = before ++ stage :: rest) (ordered : InOrder whole)
    (distinct : (whole.map (·.id)).Nodup) (stays : stage.id ∉ removed) :
    Pruning removed whole (before ++ [stage]) inherited
      (kept ++ [{ stage with dependsOn := inherit inherited stage.dependsOn }]) := by
  have stands := state.inherit_stands split ordered distinct
  have fresh : stage.id ∉ before.map (·.id) := by
    rw [split, List.map_append, List.map_cons] at distinct
    have apart := List.nodup_append.mp distinct
    exact fun early => apart.2.2 _ early _ List.mem_cons_self rfl
  have behind : ∀ id ∈ before.map (·.id), ¬ Reaches whole id stage.id := by
    intro id early path
    rw [split] at ordered distinct path
    exact fresh (ordered.target_before distinct early path)
  have itself : ¬ Reaches whole stage.id stage.id := by
    intro path
    obtain ⟨d, edge, onward⟩ := TransGen.head'_iff.mp path
    have named : d ∈ stage.dependsOn := (depends_iff distinct (by simp [split])).mp edge
    have early := ordered before stage rest split d named
    rcases reflTransGen_iff_eq_or_transGen.mp onward with same | further
    · exact fresh (same ▸ early)
    · exact behind d early further
  refine ⟨?shape, ?ordered, ?kept_stands, ?removed_stands, ?unseen⟩
  case shape =>
    rw [List.map_append, state.shape, List.filter_append, List.map_append]
    simp [stays, unlinked]
  case ordered => exact state.ordered.concat fun id named => (stands.sound id named).1
  case kept_stands =>
    intro s member
    rcases List.mem_append.mp member with old | new
    · obtain ⟨none, standsOld⟩ := state.kept_stands s old
      have early := ((kept_iff state.shape).mp (List.mem_map_of_mem old)).1
      exact ⟨none, standsOld.grow (behind s.id early)⟩
    · obtain rfl := List.mem_singleton.mp new
      exact ⟨state.unseen stage.id fresh, stands.grow itself⟩
  case removed_stands =>
    intro id listed gone
    have early : id ∈ before.map (·.id) := by
      rw [List.map_append, List.mem_append] at listed
      rcases listed with early | last
      · exact early
      · obtain rfl : id = stage.id := by simpa using last
        exact absurd gone stays
    obtain ⟨left, found, standsLeft⟩ := state.removed_stands id early gone
    exact ⟨left, found, standsLeft.grow (behind id early)⟩
  case unseen =>
    intro id absent
    rw [List.map_append, List.mem_append, not_or] at absent
    exact state.unseen id absent.1

end Pruning

theorem Pruning.start (removed : List String) (whole : List Stage) :
    Pruning removed whole [] [] [] where
  shape := rfl
  ordered := by
    intro front s back split
    simp at split
  kept_stands := by simp
  removed_stands := by simp
  unseen _ _ := rfl

theorem keepFrom_pruning (ordered : InOrder whole) (distinct : (whole.map (·.id)).Nodup)
    (state : Pruning removed whole before inherited kept) (split : whole = before ++ rest) :
    ∃ left, Pruning removed whole whole left (kept ++ keepFrom removed inherited rest) := by
  -- along the graph: what has been gone through is always its front
  induction rest generalizing before inherited kept with
  | nil =>
      have done : whole = before := by simpa using split
      subst done
      exact ⟨inherited, by simpa [keepFrom] using state⟩
  | cons stage rest ih =>
      have moved : whole = (before ++ [stage]) ++ rest := by simpa using split
      by_cases gone : stage.id ∈ removed
      · have next := ih (state.exclude split ordered distinct gone) moved
        simpa [keepFrom, gone] using next
      · have next := ih (state.keep split ordered distinct gone) moved
        simpa [keepFrom, gone] using next

namespace Pruning

theorem reaches_iff (state : Pruning removed whole before inherited kept)
    (source : a ∈ kept.map (·.id)) (target : b ∈ kept.map (·.id)) :
    Reaches kept a b ↔ Reaches whole a b := by
  constructor
  · refine Reaches.lift fun a b edge => ?_
    obtain ⟨s, member, rfl, named⟩ := edge
    exact ((state.kept_stands s member).2.sound b named).2
  · intro path
    obtain ⟨s, member, rfl⟩ := List.mem_map.mp source
    obtain ⟨d, named, onward⟩ := (state.kept_stands s member).2.complete b target path
    exact .head' (.of_mem member named) onward

end Pruning

/-- Excluding stages from a graph neither loses nor adds an ordering among the others. -/
theorem withoutStages_prunedTo {graph : StageGraph} (ordered : InOrder graph.stages)
    (distinct : (graph.stages.map (·.id)).Nodup) (removed : List String) :
    PrunedTo removed graph.stages (withoutStages removed graph).stages := by
  obtain ⟨left, state⟩ :=
    keepFrom_pruning ordered distinct (Pruning.start removed graph.stages) rfl
  exact ⟨state.shape, state.ordered, fun _ source _ target => state.reaches_iff source target⟩

end StagePlan.Graph
