import StagePlan.Value.Basic
import StagePlan.Text.Search

namespace StagePlan

/-!
Stages and the rules that place one stage relative to others.
-/

/-- A placement rule as it is written. Its four parts are kept apart so that a rule with more than
one of them can be reported. -/
structure InjectionRule where
  first : Bool := false
  last : Bool := false
  before : List String := []
  after : List String := []
  deriving DecidableEq, Inhabited

/-- Where a stage is placed. -/
inductive Placement where
  /-- Ahead of every stage that depends on none. -/
  | first
  /-- After every stage on which none depends. -/
  | last
  | before (targets : List String)
  | after (targets : List String)
  deriving DecidableEq, Inhabited

def Placement.targets : Placement → List String
  | .first => []
  | .last => []
  | .before targets => targets
  | .after targets => targets

namespace InjectionRule

def atFirst : InjectionRule := { first := true }

def atLast : InjectionRule := { last := true }

def beforeAll (targets : List String) : InjectionRule := { before := targets }

def afterAll (targets : List String) : InjectionRule := { after := targets }

/-- Every placement that the rule asks for: first, last, before, after. -/
def placements (rule : InjectionRule) : List Placement :=
  (if rule.first then [.first] else []) ++ (if rule.last then [.last] else [])
    ++ (if rule.before.isEmpty then [] else [.before rule.before])
    ++ (if rule.after.isEmpty then [] else [.after rule.after])

def hasAny (rule : InjectionRule) : Bool :=
  rule.first || rule.last || !rule.before.isEmpty || !rule.after.isEmpty

theorem placements_eq_nil {rule : InjectionRule} :
    rule.placements = [] ↔ rule.hasAny = false := by
  obtain ⟨first, last, before, after⟩ := rule
  cases first <;> cases last <;> cases before <;> cases after <;> simp [placements, hasAny]

end InjectionRule

/-- A stage of a template, a configuration or a graph. -/
structure Stage where
  id : String := ""
  type : String := ""
  name? : Option String := none
  config? : Option Value := none
  /-- Ids of the stages that come before this one. -/
  dependsOn : List String := []
  inject? : Option InjectionRule := none
  /-- Conditions that all have to hold for the stage to be kept. -/
  conditions : List Value := []
  /-- The list over which the stage is repeated. -/
  loopWith? : Option Value := none
  deriving Inhabited

namespace Stage

/-- A stage with an empty configuration. -/
def make (id type : String) : Stage :=
  { id, type, config? := some Value.emptyMap }

/-- The rule of a stage, where it asks for at least one placement. -/
def injection? (stage : Stage) : Option InjectionRule :=
  stage.inject?.filter InjectionRule.hasAny

/-- How the type of a stage begins that stands for a partial. -/
def placeholderMark : String := "partial."

/-- The partial for which the stage stands. -/
def partialId? (stage : Stage) : Option String :=
  (Text.dropPiece? placeholderMark.toList stage.type.toList).map String.ofList

end Stage

end StagePlan
