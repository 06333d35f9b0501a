import StagePlan.Proofs.Graph.Placeholders
import StagePlan.Proofs.Resolution.WrittenOrder

namespace StagePlan

open StagePlan.Graph StagePlan.Validation

/-!
What a resolution does with directives. Conditions, loops, placeholders and placements are all
carried out and dropped from the stages that they were written on. A rule that asks for no placement
is dropped from the stages that are merged, but not from those of a partial.
-/

variable {engine : Engine} {template : Template} {configuration : Configuration}
  {resolution : Resolution} {own added : List RenderedStage} {partials : List Partial}
  {written stage : Stage}

theorem Stage.partialId?_eq_none :
    stage.partialId? = none ↔ ¬ Stage.placeholderMark.toList <+: stage.type.toList := by
  rw [Stage.partialId?, Option.map_eq_none_iff, Option.eq_none_iff_forall_ne_some]
  constructor
  · rintro none ⟨rest, whole⟩
    exact none rest (Text.dropPiece?_eq_some.mpr whole.symm)
  · intro unmarked rest found
    exact unmarked ⟨rest, (Text.dropPiece?_eq_some.mp found).symm⟩

/-- Nothing comes in for the stage any more. -/
structure Unfolded (stage : Stage) : Prop where
  once : stage.loopWith? = none
  unmarked : ¬ Stage.placeholderMark.toList <+: stage.type.toList

theorem SameOutline.unfolded {rendered : Stage} (same : SameOutline written rendered)
    (unfolded : Unfolded written) : Unfolded rendered := by
  rw [SameOutline] at same
  rw [same]
  exact ⟨unfolded.once, unfolded.unmarked⟩

namespace StageRenderer

theorem RendersTo.unfolded_single {replaced : List String} {rendered : Stage}
    (renders : RendersTo partials replaced written (.single rendered))
    (rewritten : written.id ∉ replaced) : Unfolded rendered := by
  cases renders with
  | kept named => exact absurd named rewritten
  | plain once own same => exact same.unfolded ⟨once, Stage.partialId?_eq_none.mp own⟩

/-- A stage of a partial, as it comes in for a placeholder. -/
def ComesFrom (partials : List Partial) (written stage : Stage) : Prop :=
  ∃ p ∈ partials, written.partialId? = some p.id ∧
    ∃ member ∈ p.stages, SameOutline (memberOf written member) stage

theorem RendersTo.mem_group {replaced : List String} {one : RenderedStage} {id : String}
    {members : List Stage} (renders : RendersTo partials replaced written one)
    (grouped : one.group? = some (id, members)) (listed : stage ∈ members) :
    (written.loopWith? ≠ none ∧ ∃ position, SameOutline (loopCopy written position) stage) ∨
      ComesFrom partials written stage := by
  cases renders with
  | kept | plain => contradiction
  | copies looped outlines =>
      cases grouped
      obtain ⟨copy, isCopy, same⟩ := exists_left outlines listed
      obtain ⟨position, _, rfl⟩ := List.mem_map.mp isCopy
      exact .inl ⟨looped, position, same⟩
  | members _ named inPartials outlines =>
      cases grouped
      obtain ⟨renamed, isMember, same⟩ := exists_left outlines listed
      obtain ⟨member, inPartial, rfl⟩ := List.mem_map.mp isMember
      exact .inr ⟨_, inPartials, named, member, inPartial, same⟩

end StageRenderer

theorem unfolded_of_merged (valid : ValidInput template configuration)
    (rendered : engine.renderStages template configuration = .ok (own, added))
    (merged : stage ∈ mergedStages (own.map RenderedStage.stage) (added.map RenderedStage.stage))
    (plain : (RenderedStage.groups (own ++ added)).find? stage.id = none) : Unfolded stage := by
  obtain ⟨written, comes⟩ := exists_renderedFor_of_merged valid rendered merged plain
  obtain ⟨replaced, rewritten, done⟩ := comes.rendered
  exact (StageRenderer.renderOne_rendersTo done).unfolded_single rewritten

/-- The stage has the rule that a stage of a partial has there. -/
def KeepsPartialRule (template : Template) (configuration : Configuration) (stage : Stage) : Prop :=
  ∃ written ∈ template.stages ++ configuration.stages, ∃ p ∈ template.partials,
    written.partialId? = some p.id ∧ ∃ member ∈ p.stages,
      stage.id = (StageRenderer.memberOf written member).id ∧ stage.inject? = member.inject?

/-- A stage without directives. Only a rule that asks for no placement may be left, where the stage
comes from a partial in which it has that rule. -/
structure Cleared (template : Template) (configuration : Configuration) (stage : Stage) : Prop
    extends Unfolded stage where
  unplaced : stage.injection? = none
  rule : stage.inject? = none ∨ KeepsPartialRule template configuration stage

theorem Cleared.of_same (cleared : Cleared template configuration written)
    (same : stage = { written with
      dependsOn := stage.dependsOn, conditions := stage.conditions }) :
    Cleared template configuration stage := by
  rw [same]
  exact ⟨⟨cleared.once, cleared.unmarked⟩, cleared.unplaced, cleared.rule⟩

theorem cleared_of_unruled (unfolded : Unfolded stage) (unruled : stage.inject? = none) :
    Cleared template configuration stage :=
  ⟨unfolded, by rw [Stage.injection?, unruled, Option.filter_none], .inl unruled⟩

theorem cleared_of_copy (valid : ValidInput template configuration)
    (listed : written ∈ template.stages ++ configuration.stages)
    (looped : written.loopWith? ≠ none) {position : Nat}
    (same : SameOutline (StageRenderer.loopCopy written position) stage) :
    Cleared template configuration stage := by
  have own : written.partialId? = none :=
    (loop_or_partial_of_faultless (valid.faultless written listed)).resolve_left looped
  refine cleared_of_unruled (same.unfolded ⟨rfl, Stage.partialId?_eq_none.mp own⟩) ?_
  rw [same.samePlace.inject_eq]
  rfl

theorem cleared_of_member (valid : ValidInput template configuration)
    (listed : written ∈ template.stages ++ configuration.stages)
    (comes : StageRenderer.ComesFrom template.partials written stage) :
    Cleared template configuration stage := by
  obtain ⟨p, inPartials, named, member, inPartial, same⟩ := comes
  obtain ⟨unplaced, once, own, _⟩ :=
    memberFaults_eq_nil.mp ((valid.partials p inPartials).members member inPartial)
  refine ⟨same.unfolded ⟨once, Stage.partialId?_eq_none.mp own⟩, ?_, .inr ?_⟩
  · rw [Stage.injection?, same.samePlace.inject_eq]
    exact unplaced
  · exact ⟨written, listed, p, inPartials, named, member, inPartial, same.samePlace.id_eq,
      same.samePlace.inject_eq⟩

theorem cleared_of_grouped (valid : ValidInput template configuration)
    (rendered : engine.renderStages template configuration = .ok (own, added)) {id : String}
    {members : List Stage}
    (grouped : (RenderedStage.groups (own ++ added)).find? id = some members)
    (listed : stage ∈ members) : Cleared template configuration stage := by
  obtain ⟨one, among, group⟩ := mem_of_find?_groups grouped
  obtain ⟨written, isWritten, _, renders⟩ := exists_rendersTo rendered among
  rcases renders.mem_group group listed with ⟨looped, position, same⟩ | comes
  · exact cleared_of_copy valid isWritten looped same
  · exact cleared_of_member valid isWritten comes

/-- No directive is left on a stage of a resolved graph, wherever the stage comes from. A rule is
left only if it asks for no placement and is one that a stage of a partial was written with. -/
theorem resolve_clears_directives
    (resolved : engine.resolve template configuration = .ok resolution) :
    ∀ stage ∈ resolution.graph.stages,
      stage.conditions = [] ∧ Cleared template configuration stage := by
  obtain ⟨own, added, c, accepted, rendered, compiled, graph⟩ := resolve_eq_ok resolved
  obtain ⟨arranged, run⟩ := compile_eq_ok compiled
  have valid := engine.validInput accepted
  intro stage listed
  rw [graph] at listed
  obtain ⟨before, inGraph, same⟩ :=
    StageGraph.exists_of_applyConditions run.graph_inOrder run.graph_distinct listed
  have unconditional : stage.conditions = [] := by rw [same]
  refine ⟨unconditional, Cleared.of_same ?_ (unconditional ▸ same)⟩
  cases run.origin inGraph with
  | own merged plain twin =>
      have unfolded := unfolded_of_merged valid rendered merged plain
      rw [twin]
      exact cleared_of_unruled ⟨unfolded.once, unfolded.unmarked⟩ rfl
  | member _ grouped inGroup twin =>
      refine (cleared_of_grouped valid rendered grouped inGroup).of_same ?_
      rw [twin]

theorem resolve_clears_directives_release :
    ∃ resolution, ({} : Engine).resolve release releaseConfiguration = .ok resolution ∧
      resolution.graph.stages.map (·.id) =
        ["bake", "copy-0", "copy-1", "scan", "qa.lint", "qa.unit", "deploy"] ∧
      ∀ stage ∈ resolution.graph.stages,
        stage.conditions = [] ∧ Cleared release releaseConfiguration stage := by
  have shown : ((({} : Engine).resolve release releaseConfiguration).map fun resolution =>
      resolution.graph.stages.map (·.id)).toOption =
        some ["bake", "copy-0", "copy-1", "scan", "qa.lint", "qa.unit", "deploy"] := by
    decide +kernel
  obtain ⟨resolution, resolved, ids⟩ := map_eq_ok.mp (eq_ok_of_toOption shown)
  exact ⟨resolution, resolved, ids, resolve_clears_directives resolved⟩

/-- An audit with an empty rule on a stage of its own and on one of a partial. -/
def audit : Template where
  schemaVersion := "1"
  id := "audit"
  partials := [{
    id := "checks"
    stages := [{ id := "lint", type := "lint", config? := some (.map []), inject? := some {} }] }]
  stages := [
    { id := "bake", type := "bake", config? := some (.map []), inject? := some {} },
    { id := "qa", type := "partial.checks", dependsOn := ["bake"] }]

def auditConfiguration : Configuration where
  schemaVersion := "1"
  pipeline := { application? := some "orders" }

/-- The rule of the partial's stage is still there. -/
theorem resolve_leaves_empty_rule :
    ∃ resolution, ({} : Engine).resolve audit auditConfiguration = .ok resolution ∧
      resolution.graph.stages.map (fun s => (s.id, s.inject?)) =
        [("bake", none), ("qa.lint", some {})] := by
  have shown : ((({} : Engine).resolve audit auditConfiguration).map fun resolution =>
      resolution.graph.stages.map fun s => (s.id, s.inject?)).toOption =
        some [("bake", none), ("qa.lint", some {})] := by
    decide +kernel
  obtain ⟨resolution, resolved, rules⟩ := map_eq_ok.mp (eq_ok_of_toOption shown)
  exact ⟨resolution, resolved, rules⟩

end StagePlan
