import StagePlan.Expression.Place

namespace StagePlan.Expression

/-!
The names that a template mentions as variables or functions. A macro takes the values of the names
in it along from where it is defined.
-/

namespace Expr

variable {μ : Type}

mutual

def names : Expr μ → List String
  | .variable _ name => [name]
  | .literal .. | .blockText _ => []
  | .negate _ operand | .not _ operand => names operand
  | .binary _ _ left right => names left ++ names right
  | .compared _ first links => names first ++ linkNames links
  | .choice _ condition yes no => names condition ++ names yes ++ names no
  | .field _ base _ => names base
  | .item _ base index => names base ++ names index
  | .slice _ base start stop step => names base ++ names start ++ names stop ++ names step
  | .call _ callee arguments => calleeNames callee ++ argumentNames arguments
  | .filter _ _ input arguments | .test _ _ input arguments =>
      names input ++ argumentNames arguments
  | .list _ items => itemNames items
  | .map _ entries => entryNames entries

def calleeNames : Callee (Expr μ) → List String
  | .function name => [name]
  | .block _ => []
  | .method base _ => names base
  | .value callee => names callee

def argumentNames : List (ArgumentKind × Expr μ) → List String
  | [] => []
  | (_, value) :: rest => names value ++ argumentNames rest

def linkNames : List (μ × Operator × Expr μ) → List String
  | [] => []
  | (_, _, right) :: rest => names right ++ linkNames rest

def itemNames : List (Expr μ) → List String
  | [] => []
  | first :: rest => names first ++ itemNames rest

def entryNames : List (Expr μ × Expr μ) → List String
  | [] => []
  | (key, value) :: rest => names key ++ names value ++ entryNames rest

end

end Expr

namespace Target

variable {μ : Type}

mutual

def names : Target μ → List String
  | .name _ => []
  | .unpack _ targets => allNames targets
  | .field _ base _ => base.names

def allNames : List (Target μ) → List String
  | [] => []
  | first :: rest => names first ++ allNames rest

end

end Target

def parameterNames {μ : Type} (parameters : List (String × Option (Expr μ))) : List String :=
  parameters.flatMap fun parameter => (parameter.2.map Expr.names).getD []

namespace Statement

variable {μ : Type}

mutual

def names : Statement μ → List String
  | .text _ => []
  | .emit _ value | .run value => value.names
  | .set target value => target.names ++ value.names
  | .setBlock target filter? body =>
      target.names ++ (filter?.map Expr.names).getD [] ++ allNames body
  | .scoped assignments body =>
      (assignments.flatMap fun (target, value) => target.names ++ value.names) ++ allNames body
  | .loop _ _ target source filter? _ body otherwise =>
      target.names ++ source.names ++ (filter?.map Expr.names).getD [] ++ allNames body
        ++ allNames otherwise
  | .branch _ condition yes no => condition.names ++ allNames yes ++ allNames no
  | .filterBlock _ chain body => chain.names ++ allNames body
  | .autoescape _ setting body => setting.names ++ allNames body
  | .block _ _ body => allNames body
  | .missingBlock .. => []
  | .define _ parameters body => parameterNames parameters ++ allNames body
  | .callBlock _ call parameters body =>
      call.names ++ parameterNames parameters ++ allNames body
  | .extendTemplate _ name | .insertTemplate _ name _ | .importAs _ name _
  | .importNames _ name _ => name.names

def allNames : List (Statement μ) → List String
  | [] => []
  | first :: rest => names first ++ allNames rest

end

mutual

/-- The blocks of a statement with their bodies. -/
def blocks : Statement μ → List (String × List (Statement μ))
  | .block _ name body => (name, body) :: allBlocks body
  | .setBlock _ _ body | .scoped _ body | .filterBlock _ _ body | .autoescape _ _ body =>
      allBlocks body
  | .loop _ _ _ _ _ _ yes no | .branch _ _ yes no => allBlocks yes ++ allBlocks no
  | _ => []

def allBlocks : List (Statement μ) → List (String × List (Statement μ))
  | [] => []
  | first :: rest => blocks first ++ allBlocks rest

end

end Statement

end StagePlan.Expression
