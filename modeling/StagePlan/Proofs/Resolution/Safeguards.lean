import StagePlan.Proofs.Graph.Placeholders
import StagePlan.Proofs.Resolution.Steps

namespace StagePlan

open StagePlan.Graph StagePlan.Validation

/-!
What validation keeps a resolution from. A template and a configuration without errors may still
fail to be resolved, but some of the ways in which rendering and compiling fail are closed to them.
-/

variable {engine : Engine} {template : Template} {configuration : Configuration}
  {own added : List RenderedStage} {arranged : List Stage} {stage : Stage} {id : String}

/-- Why what has been rendered does not compile. -/
abbrev CompileFails (own added : List RenderedStage) : CompileError → Prop :=
  Fails (own.map RenderedStage.stage) (added.map RenderedStage.stage)
    (RenderedStage.groups (own ++ added))

namespace RenderedInput

theorem exists_written (input : RenderedInput template configuration own added)
    (valid : ValidInput template configuration)
    (merged : stage ∈ mergedStages (own.map RenderedStage.stage) (added.map RenderedStage.stage)) :
    ∃ written ∈ template.stages ++ configuration.stages, SamePlace written stage := by
  rcases (mem_mergedStages (input.distinct_added valid)).mp merged with listed | ⟨listed, _⟩
  · obtain ⟨written, member, place⟩ := exists_left input.addedPlaces listed
    exact ⟨written, List.mem_append_right _ member, place⟩
  · obtain ⟨written, member, place⟩ := exists_left input.ownPlaces listed
    exact ⟨written, List.mem_append_left _ member, place⟩

theorem placementCount_le (input : RenderedInput template configuration own added)
    (valid : ValidInput template configuration)
    (merged : stage ∈ mergedStages (own.map RenderedStage.stage) (added.map RenderedStage.stage)) :
    placementCount stage ≤ 1 := by
  obtain ⟨written, listed, place⟩ := input.exists_written valid merged
  have sameRule : stage.injection? = written.injection? := by
    rw [Stage.injection?, place.inject_eq, Stage.injection?]
  rw [placementCount, sameRule]
  cases placed : written.injection? with
  | none => exact Nat.zero_le 1
  | some rule => exact placements_of_faultless (valid.faultless written listed) placed

theorem checkDependencies_expand (input : RenderedInput template configuration own added)
    (prepared : Prepared (own.map RenderedStage.stage) (added.map RenderedStage.stage) arranged) :
    checkDependencies (expand (RenderedStage.groups (own ++ added)) arranged) = .ok () := by
  refine checkDependencies_of_closed (closed_expand prepared.distinct prepared.closed ?_)
  exact fun s _ group grouped => input.closedGroups s.id group grouped

theorem not_ambiguous (input : RenderedInput template configuration own added)
    (valid : ValidInput template configuration) :
    ¬ CompileFails own added (.ambiguousInjection id) := by
  intro fails
  cases fails with
  | ambiguous merged several =>
      have atMost := input.placementCount_le valid merged
      omega

theorem dangling_arranged (input : RenderedInput template configuration own added)
    {dependency : String} (fails : CompileFails own added (.unknownDependency id dependency)) :
    ∃ arranged,
      arrange (mergedStages (own.map RenderedStage.stage) (added.map RenderedStage.stage)) =
        .ok arranged ∧
      checkDependencies arranged = .error (.unknownDependency id dependency) := by
  cases fails with
  | dangling placed missing => exact ⟨_, placed, missing⟩
  | danglingMember prepared missing =>
      rw [input.checkDependencies_expand prepared] at missing
      contradiction

theorem repeated_member (input : RenderedInput template configuration own added)
    (valid : ValidInput template configuration)
    (fails : CompileFails own added (.duplicateStage id)) :
    ∃ group ∈ RenderedStage.groups (own ++ added), id ∈ group.2.map (·.id) := by
  cases fails with
  | @repeated stages _ side found =>
      -- both lists are as distinct as the written ones, so that merging has not failed
      have distinct : (stages.map (·.id)).Nodup := by
        rcases side with rfl | rfl
        · exact input.distinct_own valid
        · exact input.distinct_added valid
      have unrepeated : repeatedId? [] (stages.map (·.id)) = none :=
        repeatedId?_eq_none.mpr ⟨distinct, fun _ _ => List.not_mem_nil⟩
      rw [unrepeated] at found
      contradiction
  | repeatedMember prepared found =>
      exact mem_group_of_membersAmong (prepared.repeated_of_member found)

end RenderedInput

/-- The ways in which a resolution does not fail once validation has found no error, and what is
known of it where it fails all the same. -/
structure Safeguards (engine : Engine) (template : Template) (configuration : Configuration) :
    Prop where
  unambiguous : ∀ id,
    engine.resolve template configuration ≠ .error (.compile (.ambiguousInjection id))
  partials_found : ∀ s : StageRenderer, s.partials = template.partials →
    ∀ stage ∈ template.stages ++ configuration.stages, ∀ id, stage.partialId? = some id →
      ∃ p, (s.partials.find? fun p => p.id = id) = some p
  distinct_members : ∀ own added,
    engine.renderStages template configuration = .ok (own, added) →
      ∀ one ∈ own ++ added, ∀ id members, one.group? = some (id, members) →
        (members.map (·.id)).Nodup
  closed_expanded : ∀ own added,
    engine.renderStages template configuration = .ok (own, added) →
      ∀ arranged, prepare (own.map RenderedStage.stage) (added.map RenderedStage.stage) =
          .ok arranged →
        checkDependencies (expand (RenderedStage.groups (own ++ added)) arranged) = .ok ()
  dangling_arranged : ∀ stage dependency,
    engine.resolve template configuration =
        .error (.compile (.unknownDependency stage dependency)) →
      ∃ own added arranged, engine.renderStages template configuration = .ok (own, added) ∧
        arrange (mergedStages (own.map RenderedStage.stage) (added.map RenderedStage.stage)) =
          .ok arranged ∧
        checkDependencies arranged = .error (.unknownDependency stage dependency)
  repeated_member : ∀ id,
    engine.resolve template configuration = .error (.compile (.duplicateStage id)) →
      ∃ group ∈ engine.stageGroups template configuration, id ∈ group.2.map (·.id)

theorem safeguards_of_valid
    (accepted : Diagnostics.hasErrors (engine.validate template configuration) = false) :
    Safeguards engine template configuration := by
  have valid := engine.validInput accepted
  refine ⟨?unambiguous, ?partials, ?members, ?closed, ?dangling, ?repeated⟩
  case unambiguous =>
    intro id failed
    obtain ⟨own, added, rendered, fails⟩ := resolve_eq_compile_error failed
    exact (renderedInput valid rendered).not_ambiguous valid (compile_eq_error fails)
  case partials =>
    intro s same stage listed id named
    rw [same]
    exact valid.known stage listed id named
  case members =>
    intro own added rendered one listed id members grouped
    obtain ⟨written, _, _, renders⟩ := exists_rendersTo rendered listed
    exact renders.distinct_members (fun p member => (valid.partials p member).stages.distinct)
      grouped
  case closed =>
    intro own added rendered arranged prepared
    exact (renderedInput valid rendered).checkDependencies_expand (prepare_eq_ok prepared)
  case dangling =>
    intro stage dependency failed
    obtain ⟨own, added, rendered, fails⟩ := resolve_eq_compile_error failed
    obtain ⟨arranged, placed, missing⟩ :=
      (renderedInput valid rendered).dangling_arranged (compile_eq_error fails)
    exact ⟨own, added, arranged, rendered, placed, missing⟩
  case repeated =>
    intro id failed
    obtain ⟨own, added, rendered, fails⟩ := resolve_eq_compile_error failed
    rw [stageGroups_eq rendered]
    exact (renderedInput valid rendered).repeated_member valid (compile_eq_error fails)

/-- A rollout over two regions, with a stage that has the id of the second copy. -/
def regions : Template where
  schemaVersion := "1"
  id := "regions"
  stages := [
    { id := "deploy", type := "deploy", config? := some (.map []),
      loopWith? := some (.list [.string "eu", .string "us"]) },
    { id := "deploy-1", type := "deploy", config? := some (.map []) }]

def regionsConfiguration : Configuration where
  schemaVersion := "1"
  pipeline := { application? := some "orders" }

theorem safeguards_of_valid_regions :
    Diagnostics.hasErrors (({} : Engine).validate regions regionsConfiguration) = false ∧
      ({} : Engine).resolve regions regionsConfiguration =
        .error (.compile (.duplicateStage "deploy-1")) ∧
      ∃ group ∈ ({} : Engine).stageGroups regions regionsConfiguration,
        "deploy-1" ∈ group.2.map (·.id) := by
  have accepted : Diagnostics.hasErrors (({} : Engine).validate regions regionsConfiguration) =
      false := by
    decide +kernel
  have failed : ({} : Engine).resolve regions regionsConfiguration =
      .error (.compile (.duplicateStage "deploy-1")) := by
    rfl
  exact ⟨accepted, failed, (safeguards_of_valid accepted).repeated_member "deploy-1" failed⟩

end StagePlan
