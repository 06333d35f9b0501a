import StagePlan.Number.Binary64

namespace StagePlan.Expression

/-!
Why an evaluation fails.
-/

/-- What can be called by a name that nobody knows. -/
inductive Named where
  | filter
  | test
  | function
  deriving DecidableEq, Repr

inductive Fault where
  | malformed
  /-- A value is needed where there is none. -/
  | undefined
  | unknown (what : Named) (name : String)
  /-- A filter or test that another filter is to apply to the items of a list. -/
  | unknownForItems (what : Named)
  | filter (name message : String)
  | predicate (name message : String)
  /-- A number that no text can hold. -/
  | noText (x : Binary64)
  /-- A module is called by something other than a string. -/
  | moduleName
  /-- A value of the given kind has no counterpart outside of expressions. -/
  | unusable (kind : String)
  /-- An operation on values for which it is not meant. -/
  | operation
  deriving DecidableEq

end StagePlan.Expression
