import StagePlan.Expression.Arguments
import StagePlan.Text.Letters

namespace StagePlan.Expression.Condition

/-!
Tests: questions about a value, written with `is`.
-/

open Arguments

/-- A test as expressions apply it: to a value, with arguments. -/
abbrev Applied := Dynamic → List Dynamic → Except Fault Bool

/-- A test that takes nothing but its input. -/
def plain (answer : Dynamic → Bool) : Applied := fun input given =>
  take (do pure (answer (← required asAny))) (input :: given)

/-- A test of a value that has to be a text. -/
def onText (answer : List Char → Bool) : Applied := fun input given =>
  take (do pure (answer (← required asString).toList)) (input :: given)

def against (answer : Dynamic → Dynamic → Bool) : Applied := fun input given =>
  take (do
    let v ← required asAny
    let other ← required asAny
    pure (answer v other))
    (input :: given)

def againstText (answer : List Char → List Char → Bool) : Applied := fun input given =>
  take (do
    let text ← required asText
    let other ← required asText
    pure (answer text.toList other.toList))
    (input :: given)

/-- Whether a value stands for a whole number with the given remainder by two. -/
def hasParity (rest : Int) (v : Dynamic) : Bool :=
  match v.whole? with
  | some n => n % 2 = rest
  | none => false

def isDivisibleBy (v divisor : Dynamic) : Bool :=
  match Dynamic.operands? v divisor with
  | some (.whole m n) => decide (n ≠ 0) && decide (m % n = 0)
  | some (.double x y) => (x.remainder y).equals Binary64.zero
  | _ => false

/-- Whether a value is known by where it was found. -/
def hasIdentity : Dynamic → Bool
  | .sequence .. | .map .. | .object _ => true
  | _ => false

/-- Whether two values are the same: lists and maps if they were found in one place, other values if
they are of one kind and equal, whole numbers and decimals kept apart. -/
def isSame (v other : Dynamic) : Bool :=
  if hasIdentity v || hasIdentity other then Dynamic.foundTogether v.identity other.identity
  else decide (v.kind = other.kind) && v.isFloat == other.isFloat && v.equals other

/-- Whether a value is in another one. Nothing is in what cannot contain anything. -/
def isIn : Applied := fun input given =>
  take (do
    let v ← required asAny
    let container ← required present
    match Dynamic.contains container v with
    | .ok answer => pure answer
    | .error _ => pure false)
    (input :: given)

/-- Whether a text names something that is known. -/
def isKnown (known : String → Bool) : Applied := fun input given =>
  take (do pure (known (← required asString))) (input :: given)

def isInt : Dynamic → Bool
  | .int _ => true
  | _ => false

/-- The tests that do not ask for names, by name. -/
def plain? (name : String) : Option Applied :=
  match name with
  | "defined" => some (plain fun v => !v.isUndefined)
  | "undefined" => some (plain Dynamic.isUndefined)
  | "none" => some (plain Dynamic.isNone)
  | "safe" | "escaped" => some (plain Dynamic.isSafe)
  | "boolean" => some (plain fun v => decide (v.kind = .bool))
  | "odd" => some (plain (hasParity 1))
  | "even" => some (plain (hasParity 0))
  | "number" => some (plain fun v => decide (v.kind = .number))
  | "integer" | "int" => some (plain isInt)
  | "float" => some (plain Dynamic.isFloat)
  | "string" => some (plain fun v => decide (v.kind = .string))
  | "sequence" => some (plain fun v => decide (v.kind = .list))
  | "iterable" => some (plain fun v => v.items?.isSome)
  | "mapping" => some (plain fun v => decide (v.kind = .map))
  | "true" => some (plain fun v => decide (v.kind = .bool) && v.isTruthy)
  | "false" => some (plain fun v => decide (v.kind = .bool) && !v.isTruthy)
  | "lower" => some (onText fun text => text.all Text.isLowercase)
  | "upper" => some (onText fun text => text.all Text.isUppercase)
  | "startingwith" => some (againstText fun text piece => Text.startsWith piece text)
  | "endingwith" => some (againstText fun text piece => Text.endsWith piece text)
  | "eq" | "equalto" | "==" => some (against Dynamic.equals)
  | "ne" | "!=" => some (against fun a b => !a.equals b)
  | "lt" | "lessthan" | "<" => some (against fun a b => a.compare b == .lt)
  | "le" | "<=" => some (against fun a b => a.compare b != .gt)
  | "gt" | "greaterthan" | ">" => some (against fun a b => a.compare b == .gt)
  | "ge" | ">=" => some (against fun a b => a.compare b != .lt)
  | "in" => some isIn
  | "divisibleby" => some (against isDivisibleBy)
  | "sameas" => some (against isSame)
  | _ => none

/-- The tests by name, given which filters there are. -/
def find? (filterKnown : String → Bool) (name : String) : Option Applied :=
  match name with
  | "filter" => some (isKnown filterKnown)
  | "test" =>
      some (isKnown fun other => other = "filter" || other = "test" || (plain? other).isSome)
  | name => plain? name

end StagePlan.Expression.Condition
