import StagePlan.Graph.Compile
import StagePlan.Registry.Filters
import StagePlan.Registry.Predicates
import StagePlan.Resolution.Conditions
import StagePlan.Resolution.Failure
import StagePlan.Resolution.Stages
import StagePlan.Validation.Schema

namespace StagePlan

/-!
Resolving a template and a configuration into a graph of stages.
-/

structure Engine where
  settings : Settings := {}
  filters : FilterRegistry := Filters.builtins
  predicates : PredicateRegistry := Predicates.builtins

structure Resolution where
  graph : StageGraph
  /-- The warnings of validation, and then those of compilation. -/
  diagnostics : List Diagnostic

/-- What stages see: the defaults of the template's variables, with the values of the configuration
laid over them. -/
def resolveContext (template : Template) (configuration : Configuration) : RenderContext :=
  { application := configuration.application
    templateRef := template.id
    scope := configuration.variableValues.foldl
      (fun scope entry => scope.bind entry.1 entry.2) template.defaultScope }

namespace Engine

def renderer (engine : Engine) (template : Template) : Renderer :=
  { modules := template.modules
    library := { filters := engine.filters, predicates := engine.predicates }
    maxModuleDepth := engine.settings.maxModuleDepth }

def validate (engine : Engine) (template : Template) (configuration : Configuration) :
    List Diagnostic :=
  let version := engine.settings.schemaVersion
  Validation.validateTemplate version template
    ++ Validation.validateConfiguration version configuration template

/-- The rendered stages of the template and of the configuration. A stage of the template that the
configuration replaces is not rendered. -/
def renderStages (engine : Engine) (template : Template) (configuration : Configuration) :
    Except RenderError (List RenderedStage × List RenderedStage) :=
  let s : StageRenderer :=
    { renderer := engine.renderer template
      partials := template.partials
      ctx := resolveContext template configuration }
  match s.renderAll (configuration.stages.map (·.id)) template.stages with
  | .error e => .error e
  | .ok own =>
      match s.renderAll [] configuration.stages with
      | .error e => .error e
      | .ok added => .ok (own, added)

/-- The graph that the stages of a template and a configuration come to. -/
def resolve (engine : Engine) (template : Template) (configuration : Configuration) :
    Except ResolveError Resolution :=
  let found := engine.validate template configuration
  if Diagnostics.hasErrors found then .error (.invalid found)
  else
    match engine.renderStages template configuration with
    | .error e => .error (.render e)
    | .ok (own, added) =>
        match Graph.compile (own.map RenderedStage.stage) (added.map RenderedStage.stage)
            (RenderedStage.groups (own ++ added)) with
        | .error e => .error (.compile e)
        | .ok compilation =>
            .ok { graph := compilation.graph.applyConditions
                  diagnostics := found ++ compilation.diagnostics }

end Engine

end StagePlan
