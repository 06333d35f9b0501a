import StagePlan.Model.Stage
import StagePlan.Model.Variable

namespace StagePlan

/-!
Templates with their modules and partials, the configurations laid over them, and the graphs that
come of both.
-/

/-- A named piece of a value tree with declared inputs. -/
structure Module where
  id : String
  declared : List Variable := []
  definition : Value := .null
  deriving Inhabited

/-- The scope of a module's definition: its own variables and nothing else. -/
def Module.scopeFor (m : Module) (arguments : Bindings Value) :
    Except (List String) (Bindings Value) :=
  Variable.bindAll m.declared arguments []

/-- A named group of stages, put in for every stage whose type is `partial.` and its id. -/
structure Partial where
  id : String
  usage? : Option String := none
  declared : List Variable := []
  stages : List Stage := []
  deriving Inhabited

/-- The scope of a partial's stages: the outer one with its variables over it. -/
def Partial.scopeFor (p : Partial) (outer arguments : Bindings Value) :
    Except (List String) (Bindings Value) :=
  Variable.bindAll p.declared arguments outer

structure Template where
  schemaVersion : String := ""
  id : String := ""
  declared : List Variable := []
  stages : List Stage := []
  modules : List Module := []
  partials : List Partial := []
  deriving Inhabited

/-- Who a pipeline belongs to and what it is called. -/
structure Pipeline where
  application? : Option String := none
  name? : Option String := none
  configId? : Option String := none
  deriving DecidableEq, Inhabited

/-- Values for a template's variables, and stages that replace its stages or are added to them. -/
structure Configuration where
  schemaVersion : String := ""
  pipeline : Pipeline := {}
  variableValues : Bindings Value := []
  stages : List Stage := []
  deriving Inhabited

/-- Stages in an order in which every stage comes after those on which it depends. -/
structure StageGraph where
  stages : List Stage := []
  deriving Inhabited

namespace Template

def module? (t : Template) (id : String) : Option Module :=
  t.modules.find? fun m => m.id = id

def partial? (t : Template) (id : String) : Option Partial :=
  t.partials.find? fun p => p.id = id

def stageIds (t : Template) : List String :=
  t.stages.map (·.id)

/-- The default values of the declared variables. -/
def defaultScope (t : Template) : Bindings Value :=
  Bindings.ofPairs (t.declared.filterMap fun v => v.default?.map fun value => (v.name, value))

end Template

/-- The application of a configuration, empty where none is given. -/
def Configuration.application (c : Configuration) : String :=
  c.pipeline.application?.getD ""

namespace StageGraph

def stage? (g : StageGraph) (id : String) : Option Stage :=
  g.stages.find? fun s => s.id = id

def ids (g : StageGraph) : List String :=
  g.stages.map (·.id)

def summary (g : StageGraph) : String :=
  "StageGraph: " ++ toString g.stages.length ++ " stages"

end StageGraph

/-- What validation and rendering may be told from outside. -/
structure Settings where
  /-- The schema version that templates and configurations must state. -/
  schemaVersion : String := "1"
  /-- How deep module invocations may nest. -/
  maxModuleDepth : Nat := 50
  deriving DecidableEq, Inhabited

end StagePlan
