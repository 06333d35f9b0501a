import StagePlan.Graph.Expansion
import StagePlan.Rendering.Renderer

namespace StagePlan

open StagePlan.Graph

/-!
Rendering the stages of a template or configuration. A stage that is repeated over a list, or that
stands for a partial, becomes a placeholder with a group of rendered stages.
-/

/-- A rendered stage, or a placeholder with the stages that take its place. -/
inductive RenderedStage where
  | single (stage : Stage)
  | group (placeholder : Stage) (members : List Stage)

namespace RenderedStage

/-- The stage that is merged and placed. -/
def stage : RenderedStage → Stage
  | .single stage => stage
  | .group placeholder _ => placeholder

def group? : RenderedStage → Option (String × List Stage)
  | .single _ => none
  | .group placeholder members => some (placeholder.id, members)

/-- The groups of the placeholders in a list. -/
def groups (rendered : List RenderedStage) : Groups :=
  Bindings.ofPairs (rendered.filterMap group?)

end RenderedStage

/-- What is left of a stage whose group takes its place. -/
def Stage.placeholder (stage : Stage) : Stage :=
  { stage with config? := none, conditions := [], loopWith? := none }

structure StageRenderer where
  renderer : Renderer
  partials : List Partial
  ctx : RenderContext

namespace StageRenderer

/-- The place of a part of a stage. -/
def placeOf (stage : Stage) (part : String) : List String :=
  pathOfText ("stages." ++ stage.id ++ "." ++ part)

/-- The failure of a part of a stage as a whole. -/
def failure (stage : Stage) (part : String) (cause : RenderCause) : RenderError :=
  ⟨cause, ["stages", stage.id, part]⟩

/-- The conditions of a stage from a position on. -/
def renderConditions (r : Renderer) (ctx : RenderContext) (stage : Stage) :
    Nat → List Value → Except RenderError (List Value)
  | _, [] => .ok []
  | position, condition :: rest =>
      match r.renderAt ctx (placeOf stage ("when." ++ toString position)) condition with
      | .error e => .error e
      | .ok v =>
          match renderConditions r ctx stage (position + 1) rest with
          | .error e => .error e
          | .ok others => .ok (v :: others)

def renderConfig (r : Renderer) (ctx : RenderContext) (stage : Stage) :
    Except RenderError (Option Value) :=
  match stage.config? with
  | none => .ok none
  | some config =>
      match r.renderAt ctx (placeOf stage "config") config with
      | .ok v => .ok (some v)
      | .error e => .error e

/-- A stage with its configuration and conditions rendered. -/
def renderStage (r : Renderer) (ctx : RenderContext) (stage : Stage) :
    Except RenderError Stage :=
  match renderConfig r ctx stage with
  | .error e => .error e
  | .ok config? =>
      match renderConditions r ctx stage 0 stage.conditions with
      | .error e => .error e
      | .ok conditions => .ok { stage with config?, conditions }

/-- The name under which a repeated stage sees the element for which it stands. -/
def loopVariable : String := "templateLoop"

/-- The copy of a stage for the element at a position. -/
def loopCopy (stage : Stage) (position : Nat) : Stage :=
  { stage with
    id := stage.id ++ "-" ++ toString position
    dependsOn := []
    inject? := none
    loopWith? := none }

/-- The context that a copy sees. -/
def loopContext (ctx : RenderContext) (position : Nat) (element : Value) : RenderContext :=
  { ctx with
    scope := ctx.scope.bind loopVariable
      (.map [("index", .ofInt position), ("value", element)]) }

/-- One rendered copy for every element from a position on. -/
def renderCopies (r : Renderer) (ctx : RenderContext) (stage : Stage) :
    Nat → List Value → Except RenderError (List Stage)
  | _, [] => .ok []
  | position, element :: rest =>
      match renderStage r (loopContext ctx position element) (loopCopy stage position) with
      | .error e => .error e
      | .ok copy =>
          match renderCopies r ctx stage (position + 1) rest with
          | .error e => .error e
          | .ok others => .ok (copy :: others)

/-- The copies of a stage that is repeated over a list. -/
def renderLoop (s : StageRenderer) (stage : Stage) (elements : Value) :
    Except RenderError (List Stage) :=
  match s.renderer.renderAt s.ctx (placeOf stage "loopWith") elements with
  | .error e => .error e
  | .ok (.list elements) => renderCopies s.renderer s.ctx stage 0 elements
  | .ok v => .error (failure stage "loopWith" (.evaluation (.notList v.typeName)))

/-- A stage of a partial, named after the placeholder that it belongs to. -/
def memberOf (placeholder member : Stage) : Stage :=
  { member with
    id := placeholder.id ++ "." ++ member.id
    dependsOn := member.dependsOn.map fun id => placeholder.id ++ "." ++ id }

/-- The values that a placeholder gives to the variables of its partial. -/
def renderBindings (s : StageRenderer) (stage : Stage) : Except RenderError (Bindings Value) :=
  match renderConfig s.renderer s.ctx stage with
  | .error e => .error e
  | .ok none | .ok (some .null) => .ok []
  | .ok (some (.map entries)) => .ok entries
  | .ok (some v) => .error (failure stage "config" (.evaluation (.notBindings v.typeName)))

/-- The stages of a partial, each with the placeholder's conditions behind its own. -/
def renderMembers (r : Renderer) (ctx : RenderContext) (placeholder : Stage)
    (conditions : List Value) : List Stage → Except RenderError (List Stage)
  | [] => .ok []
  | member :: rest =>
      match renderStage r ctx (memberOf placeholder member) with
      | .error e => .error e
      | .ok rendered =>
          match renderMembers r ctx placeholder conditions rest with
          | .error e => .error e
          | .ok others =>
              .ok ({ rendered with conditions := rendered.conditions ++ conditions } :: others)

/-- The stages of the partial for which a stage stands. -/
def renderPartial (s : StageRenderer) (stage : Stage) (id : String) :
    Except RenderError (List Stage) :=
  match s.partials.find? fun p => p.id = id with
  | none => .error (failure stage "type" (.unknownReference id))
  | some p =>
      match s.renderBindings stage with
      | .error e => .error e
      | .ok given =>
          match p.scopeFor s.ctx.scope given with
          | .error names => .error (failure stage "config" (.missingPartialVariables p.id names))
          | .ok scope =>
              match renderConditions s.renderer s.ctx stage 0 stage.conditions with
              | .error e => .error e
              | .ok conditions =>
                  renderMembers s.renderer (s.ctx.child scope) stage conditions p.stages

/-- Renders a stage, unless a configuration replaces it: then it is kept as it is. -/
def renderOne (s : StageRenderer) (replaced : List String) (stage : Stage) :
    Except RenderError RenderedStage :=
  if replaced.contains stage.id then .ok (.single stage)
  else
    match stage.loopWith?, stage.partialId? with
    | some elements, _ => (s.renderLoop stage elements).map (.group stage.placeholder)
    | none, some id => (s.renderPartial stage id).map (.group stage.placeholder)
    | none, none => (renderStage s.renderer s.ctx stage).map .single

def renderAll (s : StageRenderer) (replaced : List String) :
    List Stage → Except RenderError (List RenderedStage)
  | [] => .ok []
  | stage :: rest =>
      match s.renderOne replaced stage with
      | .error e => .error e
      | .ok rendered =>
          match s.renderAll replaced rest with
          | .error e => .error e
          | .ok others => .ok (rendered :: others)

end StageRenderer

end StagePlan
