import StagePlan.Graph.Merge
import StagePlan.Proofs.Graph.CycleSearch
import StagePlan.Proofs.Success

namespace StagePlan.Graph

/-!
What merging comes to. A stage of the configuration takes the place of the template's stage with its
id and the others follow in their order: laying them over the template's one by one gives just that
list, and a warning about every stage that has been replaced.
-/

variable {template configuration front stages : List Stage} {stage : Stage}

/-- The merged stages of two lists in each of which ids are distinct: those of the template, each
replaced by the configuration's stage with its id if there is one, and then the configuration's other
stages in their order. -/
def mergedStages (template configuration : List Stage) : List Stage :=
  template.map (fun stage => (configuration.find? fun s => s.id = stage.id).getD stage)
    ++ configuration.filter fun s => !(template.map (·.id)).contains s.id

/-- One warning for every stage of the configuration that takes the place of another. -/
def overrideWarnings (template configuration : List Stage) : List Diagnostic :=
  (configuration.filter fun s => (template.map (·.id)).contains s.id).map overrideWarning

theorem mem_mergedStages (distinct : (configuration.map (·.id)).Nodup) :
    stage ∈ mergedStages template configuration ↔
      stage ∈ configuration ∨ (stage ∈ template ∧ stage.id ∉ configuration.map (·.id)) := by
  simp only [mergedStages, List.mem_append, List.mem_map, List.mem_filter]
  constructor
  · rintro (⟨old, listed, rfl⟩ | ⟨added, _⟩)
    · cases found : configuration.find? fun s => s.id = old.id with
      | some new => exact .inl (List.mem_of_find?_eq_some found)
      | none =>
          refine .inr ⟨listed, ?_⟩
          rintro ⟨new, newListed, same⟩
          simpa [same] using List.find?_eq_none.mp found new newListed
    · exact .inl added
  · rintro (listed | ⟨listed, kept⟩)
    · by_cases known : stage.id ∈ template.map (·.id)
      · obtain ⟨old, oldListed, same⟩ := List.mem_map.mp known
        obtain ⟨new, newListed, sameNew, found⟩ := find_of_listed (List.mem_map_of_mem listed)
        have equal : new = stage := List.inj_on_of_nodup_map distinct newListed listed sameNew
        exact .inl ⟨old, oldListed, by rw [same, found, equal]; rfl⟩
      · exact .inr ⟨listed, by simpa using known⟩
    · have absent : (configuration.find? fun s => s.id = stage.id) = none :=
        List.find?_eq_none.mpr fun new newListed same =>
          kept ⟨new, newListed, by simpa using same⟩
      exact .inl ⟨stage, listed, by rw [absent]; rfl⟩

theorem mergedStages_ids (template configuration : List Stage) :
    (mergedStages template configuration).map (·.id) =
      template.map (·.id) ++
        (configuration.map (·.id)).filter fun id => !(template.map (·.id)).contains id := by
  rw [mergedStages, List.map_append, List.map_map, List.filter_map]
  congr 1
  refine List.map_congr_left fun stage _ => ?_
  cases found : configuration.find? fun s => s.id = stage.id with
  | none => simp [found]
  | some new => simpa [found] using List.find?_some found

theorem mergedStages_distinct (first : (template.map (·.id)).Nodup)
    (second : (configuration.map (·.id)).Nodup) :
    ((mergedStages template configuration).map (·.id)).Nodup := by
  rw [mergedStages_ids]
  refine first.append (second.filter _) fun id listed added => ?_
  have absent := (List.mem_filter.mp added).2
  simp [listed] at absent

/-- The list with the stage in the place of the one that has its id. -/
def replaceIn (stages : List Stage) (stage : Stage) : List Stage :=
  stages.map fun s => if s.id = stage.id then stage else s

@[simp]
theorem replaceIn_cons {first : Stage} : replaceIn (first :: stages) stage =
    (if first.id = stage.id then stage else first) :: replaceIn stages stage := by
  rfl

theorem replaceIn_append :
    replaceIn (front ++ stages) stage = replaceIn front stage ++ replaceIn stages stage :=
  List.map_append

theorem replaceIn_of_absent (absent : stage.id ∉ stages.map (·.id)) :
    replaceIn stages stage = stages := by
  have kept : ∀ s ∈ stages, (if s.id = stage.id then stage else s) = s := by
    intro s member
    apply if_neg
    exact fun same => absent (List.mem_map.mpr ⟨s, member, same⟩)
  rw [replaceIn, List.map_congr_left kept, List.map_id']

theorem position?_eq_none {id : String} :
    position? stages id = none ↔ id ∉ stages.map (·.id) := by
  simp [position?, List.findIdx?_eq_none_iff]

theorem set_position? {index : Nat} (distinct : (stages.map (·.id)).Nodup)
    (found : position? stages stage.id = some index) :
    stages.set index stage = replaceIn stages stage := by
  induction stages generalizing index with
  | nil => simp [position?] at found
  | cons first rest ih =>
      rw [List.map_cons, List.nodup_cons] at distinct
      obtain ⟨fresh, others⟩ := distinct
      rw [position?, List.findIdx?_cons] at found
      by_cases here : first.id = stage.id
      · obtain rfl : 0 = index := by simpa [here] using found
        rw [here] at fresh
        simp [here, replaceIn_of_absent fresh]
      · obtain ⟨place, later, rfl⟩ : ∃ place, position? rest stage.id = some place ∧
            place + 1 = index := by
          simpa [here, position?] using found
        simp [here, ih others later]

theorem mergedStages_replace (known : stage.id ∈ template.map (·.id))
    (fresh : stage.id ∉ front.map (·.id)) :
    mergedStages template (front ++ [stage]) = replaceIn (mergedStages template front) stage := by
  have added : (front ++ [stage]).filter (fun s => !(template.map (·.id)).contains s.id) =
      front.filter fun s => !(template.map (·.id)).contains s.id := by
    rw [List.filter_append]
    simpa using known
  have apart : stage.id ∉
      (front.filter fun s => !(template.map (·.id)).contains s.id).map (·.id) :=
    fun listed => fresh ((List.filter_sublist.map _).subset listed)
  rw [mergedStages, mergedStages, added, replaceIn_append, replaceIn_of_absent apart, replaceIn,
    List.map_map]
  congr 1
  refine List.map_congr_left fun old _ => ?_
  cases found : front.find? fun s => s.id = old.id with
  | none =>
      by_cases same : stage.id = old.id
      · simp [found, same]
      · have other : old.id ≠ stage.id := Ne.symm same
        simp [found, same, other]
  | some new =>
      have other : new.id ≠ stage.id := fun same =>
        fresh (same ▸ List.mem_map_of_mem (List.mem_of_find?_eq_some found))
      simp [found, other]

theorem mergedStages_append (unknown : stage.id ∉ template.map (·.id)) :
    mergedStages template (front ++ [stage]) = mergedStages template front ++ [stage] := by
  have same : template.map (fun old => ((front ++ [stage]).find? fun s => s.id = old.id).getD old) =
      template.map fun old => (front.find? fun s => s.id = old.id).getD old := by
    refine List.map_congr_left fun old listed => ?_
    have other : stage.id ≠ old.id := fun same => unknown (same ▸ List.mem_map_of_mem listed)
    simp [List.find?_append, other]
  rw [mergedStages, mergedStages, same, List.filter_append, List.append_assoc]
  simpa using unknown

theorem overrideWarnings_append : overrideWarnings template (front ++ [stage]) =
    overrideWarnings template front ++
      if stage.id ∈ template.map (·.id) then [overrideWarning stage] else [] := by
  rw [overrideWarnings, overrideWarnings, List.filter_append, List.map_append]
  by_cases known : stage.id ∈ template.map (·.id) <;>
    simp only [List.filter_cons, List.contains_eq_mem, known, decide_true, decide_false] <;> rfl

theorem lay_merged (distinct : (template.map (·.id)).Nodup)
    (distinctFront : (front.map (·.id)).Nodup) (fresh : stage.id ∉ front.map (·.id)) :
    Overlay.lay ⟨mergedStages template front, overrideWarnings template front⟩ stage =
      ⟨mergedStages template (front ++ [stage]), overrideWarnings template (front ++ [stage])⟩ := by
  have listed : stage.id ∈ (mergedStages template front).map (·.id) ↔
      stage.id ∈ template.map (·.id) := by
    rw [mergedStages_ids, List.mem_append, List.mem_filter]
    simp only [fresh, false_and, or_false]
  unfold Overlay.lay
  rw [overrideWarnings_append]
  cases found : position? (mergedStages template front) stage.id with
  | none =>
      have unknown := mt listed.mpr (position?_eq_none.mp found)
      rw [mergedStages_append unknown, if_neg unknown, List.append_nil]
  | some index =>
      have known : stage.id ∈ template.map (·.id) := by
        by_contra unknown
        rw [position?_eq_none.mpr (mt listed.mp unknown)] at found
        contradiction
      have placed := set_position? (mergedStages_distinct distinct distinctFront) found
      rw [mergedStages_replace known fresh, if_pos known, ← placed]

theorem foldl_lay (distinct : (template.map (·.id)).Nodup)
    (distinctConfiguration : (configuration.map (·.id)).Nodup) :
    configuration.foldl Overlay.lay ⟨template, []⟩ =
      ⟨mergedStages template configuration, overrideWarnings template configuration⟩ := by
  -- from the other end: each stage is laid over what all those before it have come to
  induction configuration using List.reverseRecOn with
  | nil => simp [mergedStages, overrideWarnings]
  | append_singleton front stage ih =>
      rw [List.map_append, List.nodup_append] at distinctConfiguration
      obtain ⟨distinctFront, _, apart⟩ := distinctConfiguration
      have fresh : stage.id ∉ front.map (·.id) := fun listed => apart _ listed _ (by simp) rfl
      rw [List.foldl_append, ih distinctFront]
      exact lay_merged distinct distinctFront fresh

/-- What merging comes to, in the order in which it checks. -/
theorem merge_eq (template configuration : List Stage) :
    merge template configuration = (do
      checkUnique template
      checkUnique configuration
      pure ⟨mergedStages template configuration, overrideWarnings template configuration⟩) := by
  rw [merge]
  cases first : checkUnique template with
  | error e => rfl
  | ok _ =>
      cases second : checkUnique configuration with
      | error e => rfl
      | ok _ =>
          rw [foldl_lay (checkUnique_eq_ok.mp first) (checkUnique_eq_ok.mp second)]

theorem merge_eq_ok {merged : Overlay} (joined : merge template configuration = .ok merged) :
    (template.map (·.id)).Nodup ∧ (configuration.map (·.id)).Nodup ∧
      merged = ⟨mergedStages template configuration, overrideWarnings template configuration⟩ := by
  simp only [merge_eq, bind_eq_ok, pure_eq_ok] at joined
  obtain ⟨_, first, _, second, rfl⟩ := joined
  exact ⟨checkUnique_eq_ok.mp first, checkUnique_eq_ok.mp second, rfl⟩

end StagePlan.Graph
