import StagePlan.Expression.StatementReader

namespace StagePlan.Expression

/-!
Places that failures name. Evaluation takes the nodes of a template in a fixed order, and a current
line follows along. A node fails at the span of the innermost node around it that has a span of its
own, as long as that span begins on the current line; elsewhere only the line is known.
-/

structure Place where
  line : Nat
  span? : Option Span
  deriving DecidableEq, Inhabited, Repr

/-- The current line. -/
abbrev Line := StateM Nat

namespace Place

/-- The place of a node that is reached now, inside the given span. -/
def here (inside : Option Span) : Line Place := do
  let line ← get
  pure ⟨line, inside.filter fun span => span.line = line⟩

def moveTo (span : Span) : Line Unit :=
  set span.line

/-- Runs an action, after which the current line is the one before if `still` holds. -/
def keeping {α : Type} (still : Bool) (action : Line α) : Line α := do
  let line ← get
  let result ← action
  if still then set line
  pure result

end Place

namespace Expr

def isLiteral {μ : Type} : Expr μ → Bool
  | .literal .. => true
  | _ => false

/-- Whether no named argument needs evaluation. -/
def namedAreLiteral {μ : Type} (arguments : List (ArgumentKind × Expr μ)) : Bool :=
  arguments.all fun argument =>
    match argument.1 with
    | .named _ => argument.2.isLiteral
    | .namedSpread => false
    | _ => true

mutual

/-- Puts places on the nodes of an expression, given the span around it. Lists and maps of literals
are made beforehand and do not move the current line. -/
def placed (inside : Option Span) : Expr Span → Line (Expr Place)
  | .variable span name => do
      Place.moveTo span
      pure (.variable (← Place.here inside) name)
  | .literal span value => do
      Place.moveTo span
      pure (.literal (← Place.here inside) value)
  | .blockText _ => do
      pure (.blockText (← Place.here inside))
  | .negate span operand => do
      Place.moveTo span
      let inner ← placed inside operand
      pure (.negate ⟨span.line, some span⟩ inner)
  | .not span operand => do
      Place.moveTo span
      let inner ← placed inside operand
      pure (.not (← Place.here inside) inner)
  | .binary span operator left right => do
      Place.moveTo span
      let first ← placed (some span) left
      let between ← Place.here (some span)
      let second ← placed (some span) right
      let after ← Place.here (some span)
      pure (.binary (if operator.isLazy then between else after) operator first second)
  | .compared span first links => do
      Place.moveTo span
      let left ← placed (some span) first
      let others ← placedLinks (some span) links
      pure (.compared (← Place.here (some span)) left others)
  | .choice span condition yes no => do
      Place.moveTo span
      let decided ← placed inside condition
      let place ← Place.here inside
      let first ← placed inside yes
      let second ← placed inside no
      pure (.choice place decided first second)
  | .field span base name => do
      Place.moveTo span
      let inner ← placed (some span) base
      pure (.field (← Place.here (some span)) inner name)
  | .item span base index => do
      Place.moveTo span
      let inner ← placed (some span) base
      let key ← placed (some span) index
      pure (.item (← Place.here (some span)) inner key)
  | .slice span base start stop step => do
      Place.moveTo span
      let inner ← placed (some span) base
      let low ← placed (some span) start
      let high ← placed (some span) stop
      let stride ← placed (some span) step
      pure (.slice (← Place.here (some span)) inner low high stride)
  | .call span callee arguments => do
      Place.moveTo span
      let called ← placedCallee (some span) callee
      let given ← placedArguments (namedAreLiteral arguments) (some span) arguments
      pure (.call (← Place.here (some span)) called given)
  | .filter span name input arguments => do
      Place.moveTo span
      let inner ← placed (some span) input
      let given ← placedArguments (namedAreLiteral arguments) (some span) arguments
      pure (.filter (← Place.here (some span)) name inner given)
  | .test span name input arguments => do
      Place.moveTo span
      let inner ← placed (some span) input
      let given ← placedArguments (namedAreLiteral arguments) (some span) arguments
      pure (.test (← Place.here (some span)) name inner given)
  | .list span items => do
      let static := items.all isLiteral
      if !static then Place.moveTo span
      let inner ← Place.keeping static (placedItems inside items)
      pure (.list (← Place.here inside) inner)
  | .map span entries => do
      let static := entries.all fun entry => entry.1.isLiteral && entry.2.isLiteral
      if !static then Place.moveTo span
      let inner ← Place.keeping static (placedEntries inside entries)
      pure (.map (← Place.here inside) inner)

def placedLinks (inside : Option Span) :
    List (Span × Operator × Expr Span) → Line (List (Place × Operator × Expr Place))
  | [] => pure []
  | (_, operator, right) :: rest => do
      let right ← placed inside right
      let place ← Place.here inside
      pure ((place, operator, right) :: (← placedLinks inside rest))

def placedCallee (inside : Option Span) : Callee (Expr Span) → Line (Callee (Expr Place))
  | .function name => pure (.function name)
  | .block name => pure (.block name)
  | .method base name => do
      let inner ← placed inside base
      pure (.method inner name)
  | .value callee => do
      let inner ← placed inside callee
      pure (.value inner)

def placedItems (inside : Option Span) : List (Expr Span) → Line (List (Expr Place))
  | [] => pure []
  | first :: rest => do
      let first ← placed inside first
      pure (first :: (← placedItems inside rest))

def placedEntries (inside : Option Span) :
    List (Expr Span × Expr Span) → Line (List (Expr Place × Expr Place))
  | [] => pure []
  | (key, value) :: rest => do
      let key ← placed inside key
      let value ← placed inside value
      pure ((key, value) :: (← placedEntries inside rest))

/-- Arguments; `static` says that the named ones are made beforehand. -/
def placedArguments (static : Bool) (inside : Option Span) :
    List (ArgumentKind × Expr Span) → Line (List (ArgumentKind × Expr Place))
  | [] => pure []
  | (kind, value) :: rest => do
      let named :=
        match kind with
        | .named _ => true
        | _ => false
      let value ← Place.keeping (static && named) (placed inside value)
      pure ((kind, value) :: (← placedArguments static inside rest))

end

/-- Whether an output of the expression fails without a span: calls of the loop or of a block write
their text themselves. -/
def writesItself {μ : Type} : Expr μ → Bool
  | .call _ (.function name) arguments => name = "loop" && arguments.length = 1
  | .call _ (.block _) _ => true
  | _ => false

end Expr

namespace Target

mutual

def placed : Target Span → Line (Target Place)
  | .name text => pure (.name text)
  | .unpack span targets => do
      Place.moveTo span
      let place ← Place.here (some span)
      pure (.unpack place (← placedAll targets))
  | .field span base key => do
      Place.moveTo span
      let inner ← base.placed (some span)
      pure (.field (← Place.here (some span)) inner key)

def placedAll : List (Target Span) → Line (List (Target Place))
  | [] => pure []
  | first :: rest => do
      let first ← placed first
      pure (first :: (← placedAll rest))

end

end Target

/-- Defaults of parameters, from the last to the first, in which order they are evaluated. -/
def placedParameters (inside : Option Span) :
    List (String × Option (Expr Span)) → Line (List (String × Option (Expr Place)))
  | [] => pure []
  | (name, default?) :: rest => do
      let others ← placedParameters inside rest
      match default? with
      | none => pure ((name, none) :: others)
      | some value => pure ((name, some (← value.placed inside)) :: others)

namespace Statement

mutual

/-- Puts places on the nodes of a statement, given the span around it. -/
def placed (inside : Option Span) : Statement Span → Line (Statement Place)
  | .text chars => pure (.text chars)
  | .emit _ value =>
      if value.writesItself then do
        let inner ← value.placed inside
        pure (.emit (← Place.here inside) inner)
      else do
        let span := value.mark
        Place.moveTo span
        let inner ← value.placed (some span)
        pure (.emit (← Place.here (some span)) inner)
  | .set target value => do
      let inner ← value.placed inside
      pure (.set (← target.placed) inner)
  | .setBlock target filter? body => do
      let inner ← placedAll inside body
      let chain? ←
        match filter? with
        | none => pure none
        | some chain => some <$> chain.placed inside
      pure (.setBlock (← target.placed) chain? inner)
  | .scoped assignments body => do
      let bound ← placedAssignments inside assignments
      pure (.scoped bound (← placedAll inside body))
  | .loop _ _ target source filter? recursive body otherwise => do
      match filter? with
      | none =>
          let span := source.mark
          Place.moveTo span
          let items ← source.placed (some span)
          let place ← Place.here (some span)
          let bound ← target.placed
          let inner ← placedAll inside body
          pure (.loop place place bound items none recursive inner (← placedAll inside otherwise))
      | some condition =>
          let span := condition.mark
          Place.moveTo span
          let items ← source.placed (some span)
          let place ← Place.here (some span)
          let bound ← target.placed
          let decided ← condition.placed (some span)
          let filterPlace ← Place.here (some span)
          let inner ← placedAll inside body
          pure (.loop place filterPlace bound items (some decided) recursive inner
            (← placedAll inside otherwise))
  | .branch _ condition yes no => do
      let span := condition.mark
      Place.moveTo span
      let decided ← condition.placed (some span)
      let place ← Place.here (some span)
      let first ← placedAll inside yes
      pure (.branch place decided first (← placedAll inside no))
  | .filterBlock _ chain body => do
      let inner ← placedAll inside body
      let applied ← chain.placed inside
      pure (.filterBlock (← Place.here inside) applied inner)
  | .autoescape _ setting body => do
      let value ← setting.placed inside
      let place ← Place.here inside
      pure (.autoescape place value (← placedAll inside body))
  | .block _ name body => do
      let place ← Place.here inside
      pure (.block place name (← Place.keeping true (placedAll inside body)))
  | .missingBlock _ name => do
      pure (.missingBlock (← Place.here inside) name)
  | .define name parameters body => do
      let given ← placedParameters inside parameters
      pure (.define name given (← placedAll inside body))
  | .callBlock _ call parameters body =>
      match call with
      | .call span callee arguments => do
          Place.moveTo span
          let called ← Expr.placedCallee (some span) callee
          let given ← Expr.placedArguments false (some span) arguments
          let declared ← placedParameters (some span) parameters
          let inner ← placedAll (some span) body
          let place ← Place.here (some span)
          pure (.callBlock (← Place.here inside) (.call place called given) declared inner)
      | other => do
          let value ← other.placed inside
          pure (.callBlock (← Place.here inside) value [] [])
  | .run call => do
      pure (.run (← call.placed inside))
  | .extendTemplate _ name => do
      let value ← name.placed inside
      pure (.extendTemplate (← Place.here inside) value)
  | .insertTemplate _ name ignoreMissing => do
      let value ← name.placed inside
      pure (.insertTemplate (← Place.here inside) value ignoreMissing)
  | .importAs _ name target => do
      let value ← name.placed inside
      pure (.importAs (← Place.here inside) value (← target.placed))
  | .importNames _ name names => do
      let value ← name.placed inside
      pure (.importNames (← Place.here inside) value names)

def placedAll (inside : Option Span) : List (Statement Span) → Line (List (Statement Place))
  | [] => pure []
  | first :: rest => do
      let first ← placed inside first
      pure (first :: (← placedAll inside rest))

def placedAssignments (inside : Option Span) :
    List (Target Span × Expr Span) → Line (List (Target Place × Expr Place))
  | [] => pure []
  | (target, value) :: rest => do
      let value ← value.placed inside
      let target ← target.placed
      pure ((target, value) :: (← placedAssignments inside rest))

end

end Statement

/-- A template that is ready for evaluation. -/
abbrev Body := List (Statement Place)

/-- Reads a template and puts places on its nodes. -/
def readBody (source : List Char) : Except SourceFault Body :=
  match readStatements source with
  | .ok statements => .ok ((Statement.placedAll none statements).run 1).1
  | .error fault => .error fault

end StagePlan.Expression
