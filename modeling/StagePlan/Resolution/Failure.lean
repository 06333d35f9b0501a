import StagePlan.Diagnostic
import StagePlan.Graph.Failure
import StagePlan.Rendering.Failure

namespace StagePlan

/-!
Why a template and a configuration do not come to a graph.
-/

inductive ResolveError where
  /-- Validation found errors; its warnings are among the diagnostics. -/
  | invalid (diagnostics : List Diagnostic)
  | render (e : RenderError)
  | compile (e : CompileError)

def ResolveError.message : ResolveError → String
  | .invalid diagnostics =>
      "template configuration is invalid (" ++ toString (Diagnostics.errorCount diagnostics)
        ++ " error(s))"
  | .render e => "render failed: " ++ e.message
  | .compile e => "compile failed: " ++ e.message

end StagePlan
