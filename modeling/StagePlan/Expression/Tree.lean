import StagePlan.Expression.Token
import StagePlan.Text.Blank

namespace StagePlan.Expression

/-!
Expressions and statements of templates. Every node that can fail when it is evaluated carries a
mark: the span from which it was read at first, and later the place that failures name.
-/

inductive Literal where
  /-- What a choice without an alternative leaves: nothing at all. -/
  | nothing
  | none
  | bool (b : Bool)
  | whole (n : Nat)
  | decimal (x : Binary64)
  | string (text : String)
  deriving DecidableEq, Inhabited

inductive Operator where
  | or | and
  | equal | notEqual | less | lessEqual | greater | greaterEqual
  | member | notMember
  | plus | minus | concat
  | times | divide | floorDivide | modulo
  | power
  deriving DecidableEq, Inhabited, Repr

/-- Whether the right operand is evaluated only when the left one does not decide. -/
def Operator.isLazy : Operator → Bool
  | .or | .and => true
  | _ => false

inductive ArgumentKind where
  | positional
  /-- The items of a list as positional arguments. -/
  | spread
  | named (name : String)
  /-- The entries of a map as named arguments. -/
  | namedSpread
  deriving DecidableEq, Inhabited

def ArgumentKind.isNamed : ArgumentKind → Bool
  | .positional | .spread => false
  | .named _ | .namedSpread => true

/-- What is called: a name, a block of the template, the method of a value, or a value. -/
inductive Callee (ε : Type) where
  | function (name : String)
  | block (name : String)
  | method (base : ε) (name : String)
  | value (callee : ε)
  deriving Inhabited

inductive Expr (μ : Type) where
  | variable (mark : μ) (name : String)
  | literal (mark : μ) (value : Literal)
  | negate (mark : μ) (operand : Expr μ)
  | not (mark : μ) (operand : Expr μ)
  | binary (mark : μ) (operator : Operator) (left right : Expr μ)
  /-- Comparisons of neighbours, each with the operator before its right side. All have to hold. -/
  | compared (mark : μ) (first : Expr μ) (links : List (μ × Operator × Expr μ))
  /-- `yes if test else no`. -/
  | choice (mark : μ) (test yes no : Expr μ)
  | field (mark : μ) (base : Expr μ) (name : String)
  | item (mark : μ) (base index : Expr μ)
  | slice (mark : μ) (base start stop step : Expr μ)
  | call (mark : μ) (callee : Callee (Expr μ)) (arguments : List (ArgumentKind × Expr μ))
  | filter (mark : μ) (name : String) (input : Expr μ) (arguments : List (ArgumentKind × Expr μ))
  | test (mark : μ) (name : String) (input : Expr μ) (arguments : List (ArgumentKind × Expr μ))
  | list (mark : μ) (items : List (Expr μ))
  | map (mark : μ) (entries : List (Expr μ × Expr μ))
  /-- The text of the block to which a chain of filters is applied. -/
  | blockText (mark : μ)
  deriving Inhabited

def Expr.mark {μ : Type} : Expr μ → μ
  | .variable m _ | .literal m _ | .negate m _ | .not m _ | .binary m .. => m
  | .compared m .. | .choice m .. => m
  | .field m .. | .item m .. | .slice m .. | .call m .. | .filter m .. | .test m .. => m
  | .list m _ | .map m _ | .blockText m => m

/-- What an assignment binds. -/
inductive Target (μ : Type) where
  | name (name : String)
  | unpack (mark : μ) (targets : List (Target μ))
  | field (mark : μ) (base : Expr μ) (name : String)
  deriving Inhabited

inductive Statement (μ : Type) where
  | text (chars : List Char)
  /-- Writes the value of an expression. -/
  | emit (mark : μ) (value : Expr μ)
  | set (target : Target μ) (value : Expr μ)
  /-- Binds the text of a body, passed through filters. -/
  | setBlock (target : Target μ) (filter? : Option (Expr μ)) (body : List (Statement μ))
  | scoped (assignments : List (Target μ × Expr μ)) (body : List (Statement μ))
  /-- `mark` names a source that has no items, `filterMark` a condition that cannot be decided. -/
  | loop (mark filterMark : μ) (target : Target μ) (source : Expr μ) (filter? : Option (Expr μ))
      (recursive : Bool) (body otherwise : List (Statement μ))
  | branch (mark : μ) (test : Expr μ) (yes no : List (Statement μ))
  | filterBlock (mark : μ) (filter : Expr μ) (body : List (Statement μ))
  | autoescape (mark : μ) (setting : Expr μ) (body : List (Statement μ))
  | block (mark : μ) (name : String) (body : List (Statement μ))
  /-- A block that some other template has to fill. -/
  | missingBlock (mark : μ) (name : String)
  | define (name : String) (parameters : List (String × Option (Expr μ)))
      (body : List (Statement μ))
  /-- A call that gets its body as the argument `caller`. -/
  | callBlock (mark : μ) (call : Expr μ) (parameters : List (String × Option (Expr μ)))
      (body : List (Statement μ))
  | run (call : Expr μ)
  | extendTemplate (mark : μ) (name : Expr μ)
  | insertTemplate (mark : μ) (name : Expr μ) (ignoreMissing : Bool)
  | importAs (mark : μ) (name : Expr μ) (target : Target μ)
  | importNames (mark : μ) (name : Expr μ) (names : List (String × String))
  deriving Inhabited

def Target.isUnpack {μ : Type} : Target μ → Bool
  | .unpack .. => true
  | _ => false

/-- Whether a statement writes nothing but blanks. -/
def Statement.isBlank {μ : Type} : Statement μ → Bool
  | .text chars => chars.all Text.isBlank
  | _ => false

/-- An expression as the callee of a call. -/
def Expr.asCallee {μ : Type} : Expr μ → Callee (Expr μ)
  | .variable _ name => .function name
  | .field _ (.variable _ "self") name => .block name
  | .field _ base name => .method base name
  | callee => .value callee

end StagePlan.Expression
