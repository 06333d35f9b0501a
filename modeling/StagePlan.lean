import StagePlan.Bindings
import StagePlan.Diagnostic
import StagePlan.Document
import StagePlan.Expression.Arguments
import StagePlan.Expression.Comparison
import StagePlan.Expression.Condition
import StagePlan.Expression.Conversion
import StagePlan.Expression.Dynamic
import StagePlan.Expression.Evaluation
import StagePlan.Expression.Execution
import StagePlan.Expression.Fault
import StagePlan.Expression.Format
import StagePlan.Expression.Function
import StagePlan.Expression.Lexer
import StagePlan.Expression.Library
import StagePlan.Expression.ListFilter
import StagePlan.Expression.Literal
import StagePlan.Expression.Names
import StagePlan.Expression.Operation
import StagePlan.Expression.Place
import StagePlan.Expression.Reader
import StagePlan.Expression.Script
import StagePlan.Expression.Shown
import StagePlan.Expression.StatementReader
import StagePlan.Expression.Store
import StagePlan.Expression.TextFilter
import StagePlan.Expression.Token
import StagePlan.Expression.Tree
import StagePlan.Graph.Compile
import StagePlan.Graph.Countdown
import StagePlan.Graph.Cycle
import StagePlan.Graph.Deferral
import StagePlan.Graph.Exclusion
import StagePlan.Graph.Expansion
import StagePlan.Graph.Failure
import StagePlan.Graph.Merge
import StagePlan.Graph.Order
import StagePlan.Graph.Placement
import StagePlan.Graph.Search
import StagePlan.Graph.Worklist
import StagePlan.Json.Number
import StagePlan.Json.Reader
import StagePlan.Markup.Marker
import StagePlan.Markup.ModuleTag
import StagePlan.Model.Reading
import StagePlan.Model.Stage
import StagePlan.Model.Template
import StagePlan.Model.Variable
import StagePlan.Model.VariableType
import StagePlan.Model.Writing
import StagePlan.Number.Basic
import StagePlan.Number.Binary64
import StagePlan.Number.Decimal
import StagePlan.Number.Places
import StagePlan.Proofs.Expression.Brackets
import StagePlan.Proofs.Expression.Carried
import StagePlan.Proofs.Expression.Crossing
import StagePlan.Proofs.Expression.Evaluations
import StagePlan.Proofs.Expression.Inside
import StagePlan.Proofs.Expression.Lexing
import StagePlan.Proofs.Expression.Lockstep
import StagePlan.Proofs.Expression.LockstepReaders
import StagePlan.Proofs.Expression.LockstepRules
import StagePlan.Proofs.Expression.Marks
import StagePlan.Proofs.Expression.Parentheses
import StagePlan.Proofs.Expression.Readers
import StagePlan.Proofs.Expression.TokenEnds
import StagePlan.Proofs.Expression.Tokens
import StagePlan.Proofs.Graph.Arrangement
import StagePlan.Proofs.Graph.Blame
import StagePlan.Proofs.Graph.Compilation
import StagePlan.Proofs.Graph.Countdown
import StagePlan.Proofs.Graph.CycleSearch
import StagePlan.Proofs.Graph.Deferral
import StagePlan.Proofs.Graph.EmptyGroups
import StagePlan.Proofs.Graph.Exclusion
import StagePlan.Proofs.Graph.ExpandedList
import StagePlan.Proofs.Graph.Expansion
import StagePlan.Proofs.Graph.Failure
import StagePlan.Proofs.Graph.Flattening
import StagePlan.Proofs.Graph.LeastOrder
import StagePlan.Proofs.Graph.Merging
import StagePlan.Proofs.Graph.Ordering
import StagePlan.Proofs.Graph.Placeholders
import StagePlan.Proofs.Graph.Placement
import StagePlan.Proofs.Graph.PlacementRun
import StagePlan.Proofs.Graph.Reachability
import StagePlan.Proofs.Graph.RepeatedExclusion
import StagePlan.Proofs.Graph.Repetition
import StagePlan.Proofs.Graph.Rewiring
import StagePlan.Proofs.Graph.RingClosing
import StagePlan.Proofs.Graph.Rings
import StagePlan.Proofs.Graph.StackSearch
import StagePlan.Proofs.Graph.StandingStages
import StagePlan.Proofs.Graph.Worklist
import StagePlan.Proofs.Json.Canonical
import StagePlan.Proofs.Json.DistinctKeys
import StagePlan.Proofs.Json.Faithful
import StagePlan.Proofs.Json.Kinds
import StagePlan.Proofs.Json.Numbers
import StagePlan.Proofs.Json.Strings
import StagePlan.Proofs.Json.Values
import StagePlan.Proofs.Markup.ArgumentCuts
import StagePlan.Proofs.Markup.ArgumentTexts
import StagePlan.Proofs.Markup.ArgumentValues
import StagePlan.Proofs.Markup.ModuleTags
import StagePlan.Proofs.Matching
import StagePlan.Proofs.Model.Declarations
import StagePlan.Proofs.Model.Fields
import StagePlan.Proofs.Model.ReadBack
import StagePlan.Proofs.Number.WholeDoubles
import StagePlan.Proofs.Registry.Extremum
import StagePlan.Proofs.Rendering.Calls
import StagePlan.Proofs.Rendering.DepthLimit
import StagePlan.Proofs.Rendering.DottedPlaces
import StagePlan.Proofs.Rendering.Expansion
import StagePlan.Proofs.Rendering.FailurePlaces
import StagePlan.Proofs.Rendering.Failures
import StagePlan.Proofs.Rendering.Isolation
import StagePlan.Proofs.Rendering.LiteralTrees
import StagePlan.Proofs.Rendering.MarkerReading
import StagePlan.Proofs.Rendering.MarkerValue
import StagePlan.Proofs.Rendering.NameMarker
import StagePlan.Proofs.Rendering.Nesting
import StagePlan.Proofs.Rendering.Spots
import StagePlan.Proofs.Rendering.TextMarker
import StagePlan.Proofs.Rendering.TreeCalls
import StagePlan.Proofs.Rendering.TypedMarker
import StagePlan.Proofs.Rendering.WholeExpression
import StagePlan.Proofs.Rendering.WholeValue
import StagePlan.Proofs.Resolution.Conditions
import StagePlan.Proofs.Resolution.Configurations
import StagePlan.Proofs.Resolution.Directives
import StagePlan.Proofs.Resolution.Override
import StagePlan.Proofs.Resolution.RenderedStages
import StagePlan.Proofs.Resolution.Safeguards
import StagePlan.Proofs.Resolution.Scope
import StagePlan.Proofs.Resolution.Steps
import StagePlan.Proofs.Resolution.WrittenOrder
import StagePlan.Proofs.Success
import StagePlan.Proofs.Validation.Findings
import StagePlan.Proofs.Validation.Locations
import StagePlan.Proofs.Validation.OnlyErrors
import StagePlan.Proofs.Validation.Places
import StagePlan.Proofs.Validation.ValidInput
import StagePlan.Proofs.Validation.ValidVariables
import StagePlan.Proofs.Value.Equality
import StagePlan.Proofs.Value.Parts
import StagePlan.Proofs.Value.Reordering
import StagePlan.Registry.Basic
import StagePlan.Registry.Filters
import StagePlan.Registry.Predicates
import StagePlan.Rendering.Context
import StagePlan.Rendering.Failure
import StagePlan.Rendering.Marker
import StagePlan.Rendering.Renderer
import StagePlan.Rendering.Tree
import StagePlan.Resolution.Conditions
import StagePlan.Resolution.Engine
import StagePlan.Resolution.Failure
import StagePlan.Resolution.Stages
import StagePlan.Text.Base64
import StagePlan.Text.Blank
import StagePlan.Text.Letters
import StagePlan.Text.Printable
import StagePlan.Text.Quoted
import StagePlan.Text.Search
import StagePlan.Validation.Context
import StagePlan.Validation.Rules
import StagePlan.Validation.Schema
import StagePlan.Value.Basic
import StagePlan.Value.Equality
import StagePlan.Value.Written
import StagePlan.Yaml.Cursor
import StagePlan.Yaml.Node
import StagePlan.Yaml.Reader
import StagePlan.Yaml.Scalar
import StagePlan.Yaml.Text
import StagePlan.Yaml.Token
import StagePlan.Yaml.TokenStream
