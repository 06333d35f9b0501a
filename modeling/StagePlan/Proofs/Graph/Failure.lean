import StagePlan.Proofs.Graph.Compilation
import StagePlan.Proofs.Graph.ExpandedList

namespace StagePlan.Graph

/-!
Where a compilation fails. Every check has an error of its own kind, so that an error tells which of
them has found it; two checks run both before placeholders are expanded and after, and these are
told apart here.
-/

variable {template configuration merged arranged stages : List Stage} {groups : Groups}
  {pending : Pending} {stage : Stage} {e : CompileError} {id : String}

/-- The merged stages in their places and with their edges checked, before placeholders are
expanded. -/
def prepare (template configuration : List Stage) : Except CompileError (List Stage) := do
  let merged ← merge template configuration
  let arranged ← arrange merged.stages
  checkEdges arranged
  pure arranged

theorem compile_eq_prepare (template configuration : List Stage) (groups : Groups) :
    compile template configuration groups = (do
      let arranged ← prepare template configuration
      checkUnique (expand groups arranged)
      checkEdges (expand groups arranged)
      pure ⟨⟨topologicalOrder (expand groups arranged)⟩,
        overrideWarnings template configuration⟩) := by
  cases joined : merge template configuration with
  | error e => simp only [compile, prepare, joined, bind, Except.bind]
  | ok merged =>
      obtain ⟨_, _, rfl⟩ := merge_eq_ok joined
      simp only [compile, prepare, LawfulMonad.bind_assoc, LawfulMonad.pure_bind, joined]
      rfl

structure Prepared (template configuration arranged : List Stage) : Prop where
  distinct_merged : ((mergedStages template configuration).map (·.id)).Nodup
  arranged_eq : arrange (mergedStages template configuration) = .ok arranged
  closed : Closed arranged

theorem prepare_eq_ok (done : prepare template configuration = .ok arranged) :
    Prepared template configuration arranged := by
  simp only [prepare, bind_eq_ok, pure_eq_ok] at done
  obtain ⟨merged, joined, _, placed, _, checked, rfl⟩ := done
  obtain ⟨first, second, rfl⟩ := merge_eq_ok joined
  exact ⟨mergedStages_distinct first second, placed,
    checkDependencies_closed (checkEdges_eq_ok checked).1⟩

theorem Prepared.ids (prepared : Prepared template configuration arranged) :
    (arranged.map (·.id)).Perm ((mergedStages template configuration).map (·.id)) :=
  arrange_ids prepared.arranged_eq

theorem Prepared.distinct (prepared : Prepared template configuration arranged) :
    (arranged.map (·.id)).Nodup :=
  prepared.ids.nodup_iff.mpr prepared.distinct_merged

theorem count_of_repeatedId? {seen ids : List String} (found : repeatedId? seen ids = some id) :
    2 ≤ seen.count id + ids.count id := by
  induction ids generalizing seen with
  | nil => contradiction
  | cons next rest ih =>
      unfold repeatedId? at found
      split at found
      · rename_i known
        cases found
        have before : 0 < seen.count id := List.count_pos_iff.mpr (by simpa using known)
        rw [List.count_cons_self]
        omega
      · have later := ih found
        rw [List.count_cons] at later ⊢
        omega

theorem checkUnique_eq_error (failed : checkUnique stages = .error e) :
    ∃ id, repeatedId? [] (stages.map (·.id)) = some id ∧ e = .duplicateStage id := by
  unfold checkUnique at failed
  split at failed
  · rename_i id found
    cases failed
    exact ⟨id, found, rfl⟩
  · contradiction

theorem checkDependencies_eq_error (failed : checkDependencies stages = .error e) :
    ∃ stage dependency, e = .unknownDependency stage dependency := by
  unfold checkDependencies at failed
  split at failed
  · rename_i stage dependency _
    cases failed
    exact ⟨stage, dependency, rfl⟩
  · contradiction

theorem checkCycles_eq_error (failed : checkCycles stages = .error e) : ∃ ids, e = .cycle ids := by
  unfold checkCycles at failed
  split at failed
  · rename_i ring _
    cases failed
    exact ⟨ring, rfl⟩
  · contradiction

theorem checkEdges_eq_error (failed : checkEdges stages = .error e) :
    (∃ stage dependency, e = .unknownDependency stage dependency) ∨ ∃ ids, e = .cycle ids := by
  rcases bind_eq_error.mp failed with missing | ⟨_, _, cyclic⟩
  · exact .inl (checkDependencies_eq_error missing)
  · exact .inr (checkCycles_eq_error cyclic)

theorem checkTargets_eq_error {known : List String}
    (failed : checkTargets known pending = .error e) :
    ∃ stage target, e = .unknownTarget stage target := by
  unfold checkTargets at failed
  dsimp only at failed
  split at failed
  · rename_i stage target _
    cases failed
    exact ⟨stage, target, rfl⟩
  · contradiction

theorem unplaceable_eq_cycle (pending : Pending) : ∃ ids, unplaceable pending = .cycle ids := by
  unfold unplaceable
  dsimp only
  split
  · exact ⟨_, rfl⟩
  · exact ⟨_, rfl⟩

theorem placePass_eq_error (failed : placePass stages pending = .error e) :
    ∃ ids, e = .cycle ids := by
  induction pending generalizing stages with
  | nil => contradiction
  | cons entry rest ih =>
      obtain ⟨stage, placement⟩ := entry
      unfold placePass at failed
      split at failed
      · rcases bind_eq_error.mp failed with ring | ⟨_, _, later⟩
        · exact checkCycles_eq_error ring
        · exact ih later
      · rcases bind_eq_error.mp failed with later | ⟨_, _, done⟩
        · exact ih later
        · contradiction

theorem placePasses_eq_error {passes : Nat}
    (failed : placePasses passes stages pending = .error e) : ∃ ids, e = .cycle ids := by
  induction passes generalizing stages pending with
  | zero =>
      cases pending with
      | nil => contradiction
      | cons entry rest =>
          cases failed
          exact unplaceable_eq_cycle _
  | succ passes ih =>
      cases pending with
      | nil => contradiction
      | cons entry rest =>
          simp only [placePasses, bind_eq_error] at failed
          rcases failed with within | ⟨_, _, later⟩
          · exact placePass_eq_error within
          · split at later
            · cases later
              exact unplaceable_eq_cycle _
            · exact ih later

/-- How many placements the rule of a stage asks for. -/
def placementCount (stage : Stage) : Nat :=
  ((stage.injection?.map InjectionRule.placements).getD []).length

theorem ofStage_eq_error (failed : Role.ofStage stage = .error e) :
    1 < placementCount stage ∧ e = .ambiguousInjection stage.id := by
  unfold Role.ofStage at failed
  split at failed
  · contradiction
  · contradiction
  · rename_i none single
    cases failed
    refine ⟨?_, rfl⟩
    unfold placementCount
    match asked : (stage.injection?.map InjectionRule.placements).getD [] with
    | [] => exact absurd asked none
    | [placement] => exact absurd asked (single placement)
    | _ :: _ :: _ => simp

theorem arrange_eq_error (failed : arrange merged = .error e) :
    (∃ stage ∈ merged, 1 < placementCount stage ∧ e = .ambiguousInjection stage.id) ∨
      (∃ stage target, e = .unknownTarget stage target) ∨ ∃ ids, e = .cycle ids := by
  simp only [arrange, bind_eq_error] at failed
  rcases failed with divided | ⟨_, _, targets | ⟨_, _, placed⟩⟩
  · obtain ⟨stage, listed, asks⟩ := exists_of_mapM_eq_error divided
    exact .inl ⟨stage, listed, ofStage_eq_error asks⟩
  · exact .inr (.inl (checkTargets_eq_error targets))
  · exact .inr (.inr (placePasses_eq_error placed))

/-- The ways in which a compilation fails, with what has been found. -/
inductive Fails (template configuration : List Stage) (groups : Groups) : CompileError → Prop
  | repeated {stages : List Stage} {id : String} : stages = template ∨ stages = configuration →
      repeatedId? [] (stages.map (·.id)) = some id →
      Fails template configuration groups (.duplicateStage id)
  | ambiguous {stage : Stage} : stage ∈ mergedStages template configuration →
      1 < placementCount stage → Fails template configuration groups (.ambiguousInjection stage.id)
  | target (stage target : String) :
      Fails template configuration groups (.unknownTarget stage target)
  | ring (ids : List String) : Fails template configuration groups (.cycle ids)
  | dangling {arranged : List Stage} {stage dependency : String} :
      arrange (mergedStages template configuration) = .ok arranged →
      checkDependencies arranged = .error (.unknownDependency stage dependency) →
      Fails template configuration groups (.unknownDependency stage dependency)
  | repeatedMember {arranged : List Stage} {id : String} :
      Prepared template configuration arranged →
      repeatedId? [] ((expand groups arranged).map (·.id)) = some id →
      Fails template configuration groups (.duplicateStage id)
  | danglingMember {arranged : List Stage} {stage dependency : String} :
      Prepared template configuration arranged →
      checkDependencies (expand groups arranged) = .error (.unknownDependency stage dependency) →
      Fails template configuration groups (.unknownDependency stage dependency)

theorem merge_eq_error (failed : merge template configuration = .error e) :
    Fails template configuration groups e := by
  simp only [merge_eq, bind_eq_error] at failed
  rcases failed with first | ⟨_, _, second | ⟨_, _, done⟩⟩
  · obtain ⟨_, found, rfl⟩ := checkUnique_eq_error first
    exact .repeated (.inl rfl) found
  · obtain ⟨_, found, rfl⟩ := checkUnique_eq_error second
    exact .repeated (.inr rfl) found
  · contradiction

theorem prepare_eq_error (failed : prepare template configuration = .error e) :
    Fails template configuration groups e := by
  simp only [prepare, bind_eq_error] at failed
  rcases failed with joined | ⟨merged, joined, placed | ⟨arranged, placed, edges⟩⟩
  · exact merge_eq_error joined
  · obtain ⟨_, _, rfl⟩ := merge_eq_ok joined
    rcases arrange_eq_error placed with ⟨_, listed, several, rfl⟩ | ⟨s, t, rfl⟩ | ⟨ids, rfl⟩
    · exact .ambiguous listed several
    · exact .target s t
    · exact .ring ids
  · obtain ⟨_, _, rfl⟩ := merge_eq_ok joined
    rcases edges with checked | ⟨_, _, done⟩
    · rcases bind_eq_error.mp checked with missing | ⟨_, _, cyclic⟩
      · obtain ⟨_, _, rfl⟩ := checkDependencies_eq_error missing
        exact .dangling placed missing
      · obtain ⟨ids, rfl⟩ := checkCycles_eq_error cyclic
        exact .ring ids
    · contradiction

theorem compile_eq_error (failed : compile template configuration groups = .error e) :
    Fails template configuration groups e := by
  simp only [compile_eq_prepare, bind_eq_error] at failed
  rcases failed with early | ⟨arranged, done, unique | ⟨_, _, edges | ⟨_, _, finished⟩⟩⟩
  · exact prepare_eq_error early
  · obtain ⟨_, found, rfl⟩ := checkUnique_eq_error unique
    exact .repeatedMember (prepare_eq_ok done) found
  · rcases bind_eq_error.mp edges with missing | ⟨_, _, cyclic⟩
    · obtain ⟨_, _, rfl⟩ := checkDependencies_eq_error missing
      exact .danglingMember (prepare_eq_ok done) missing
    · obtain ⟨ids, rfl⟩ := checkCycles_eq_error cyclic
      exact .ring ids
  · contradiction

end StagePlan.Graph
