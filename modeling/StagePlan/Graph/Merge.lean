import StagePlan.Diagnostic
import StagePlan.Graph.Placement

namespace StagePlan.Graph

/-!
Merging the stages of a template and of a configuration. A stage of the configuration takes the
place of the template's stage with its id; the others follow in their order.
-/

/-- The first id that an earlier stage has already. -/
def repeatedId? : List String → List String → Option String
  | _, [] => none
  | seen, id :: rest => if seen.contains id then some id else repeatedId? (id :: seen) rest

def checkUnique (stages : List Stage) : Except CompileError Unit :=
  match repeatedId? [] (stages.map (·.id)) with
  | some id => .error (.duplicateStage id)
  | none => .ok ()

theorem repeatedId?_eq_none {seen ids : List String} :
    repeatedId? seen ids = none ↔ ids.Nodup ∧ ∀ id ∈ ids, id ∉ seen := by
  induction ids generalizing seen with
  | nil => simp [repeatedId?]
  | cons id rest ih =>
      by_cases known : id ∈ seen
      · simp [repeatedId?, known]
      · simp only [repeatedId?, List.contains_eq_mem, known, decide_false, Bool.false_eq_true,
          if_false, ih, List.nodup_cons, List.mem_cons, forall_eq_or_imp, not_or]
        constructor
        · rintro ⟨distinct, apart⟩
          exact ⟨⟨fun again => (apart id again).1 rfl, distinct⟩, not_false,
            fun other listed => (apart other listed).2⟩
        · rintro ⟨⟨fresh, distinct⟩, -, apart⟩
          exact ⟨distinct, fun other listed =>
            ⟨fun same => fresh (same ▸ listed), apart other listed⟩⟩

theorem checkUnique_eq_ok {stages : List Stage} :
    checkUnique stages = .ok () ↔ (stages.map (·.id)).Nodup := by
  have facts : repeatedId? [] (stages.map (·.id)) = none ↔ _ := repeatedId?_eq_none
  unfold checkUnique
  cases found : repeatedId? [] (stages.map (·.id)) <;> simp_all

def overrideWarning (stage : Stage) : Diagnostic :=
  ⟨"Stage '" ++ stage.id ++ "' overrides the template stage",
    "configuration:stages." ++ stage.id, .warn⟩

/-- The stages so far, and the warnings about those that have lost their place to another. -/
structure Overlay where
  stages : List Stage
  warnings : List Diagnostic := []

/-- The stage takes the place of the stage with its id, or else stands behind all others. -/
def Overlay.lay (overlay : Overlay) (stage : Stage) : Overlay :=
  match position? overlay.stages stage.id with
  | some index =>
      { stages := overlay.stages.set index stage
        warnings := overlay.warnings ++ [overrideWarning stage] }
  | none => { overlay with stages := overlay.stages ++ [stage] }

/-- The stages of the configuration laid over those of the template, one after the other, provided
that neither list repeats an id. -/
def merge (template configuration : List Stage) : Except CompileError Overlay := do
  checkUnique template
  checkUnique configuration
  pure (configuration.foldl Overlay.lay ⟨template, []⟩)

end StagePlan.Graph
