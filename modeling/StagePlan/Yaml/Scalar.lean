import StagePlan.Document
import StagePlan.Number.Decimal
import StagePlan.Yaml.Node

namespace StagePlan.Yaml

/-!
What scalars can be read as. A plain scalar without a tag may be null, a boolean or a number by its
text; a tag decides, and a quoted scalar is a string.
-/

def nullWords : List String :=
  ["null", "Null", "NULL", "~"]

def bool? (text : String) : Option Bool :=
  if ["true", "True", "TRUE"].contains text then some true
  else if ["false", "False", "FALSE"].contains text then some false
  else none

/-- The value of a digit in a base of at most sixteen. -/
def digitValue? (base : Nat) (c : Char) : Option Nat :=
  (hexValue? c).filter (· < base)

/-- The number that digits of a base stand for; there must be at least one. -/
def numberInBase? (base : Nat) (digits : List Char) : Option Nat :=
  if digits.isEmpty then none
  else
    digits.foldlM (fun (n : Nat) (c : Char) => (digitValue? base c).map fun d => n * base + d) 0

/-- Whether a text is made of digits with a zero in front, which is no number. -/
def hasLeadingZero (text : List Char) : Bool :=
  match (splitSign text).2 with
  | '0' :: c :: rest => (c :: rest).all Char.isDigit
  | _ => false

/-- The magnitude of a whole number behind its sign: decimal digits, or digits of another base
behind the mark of the base. -/
def magnitude? (text : List Char) : Option Nat :=
  match text with
  | '0' :: 'x' :: digits => numberInBase? 16 digits
  | '0' :: 'o' :: digits => numberInBase? 8 digits
  | '0' :: 'b' :: digits => numberInBase? 2 digits
  | digits => if hasLeadingZero digits then none else numberInBase? 10 digits

/-- A whole number without a minus sign, up to a bound. -/
def unsigned? (bound : Nat) (text : List Char) : Option Nat :=
  let digits :=
    match text with
    | '+' :: rest => rest
    | _ => text
  (magnitude? digits).filter (· ≤ bound)

/-- The magnitude of a whole number with a minus sign, up to a bound. -/
def negative? (bound : Nat) (text : List Char) : Option Nat :=
  match text with
  | '-' :: digits => (magnitude? digits).filter (· ≤ bound)
  | _ => none

/-- A whole number that is held by 64 bits, with or without a sign. -/
def word? (text : List Char) : Option Int :=
  match unsigned? (Nat.pow 2 64 - 1) text with
  | some n => some n
  | none => (negative? (Nat.pow 2 63) text).map fun n => -(n : Int)

/-- Whether a text is a whole number that is held by 128 bits, with or without a sign. -/
def isDoubleWord (text : List Char) : Bool :=
  (unsigned? (Nat.pow 2 128 - 1) text).isSome || (negative? (Nat.pow 2 127) text).isSome

/-- A decimal number, or one of the words for infinity and for what is no number. -/
def float? (text : List Char) : Option Binary64 :=
  let word := String.ofList text
  let unsigned :=
    match text with
    | '+' :: rest => rest
    | _ => text
  if [".inf", ".Inf", ".INF"].contains (String.ofList unsigned) then some (Binary64.infinity false)
  else if ["-.inf", "-.Inf", "-.INF"].contains word then some (Binary64.infinity true)
  else if [".nan", ".NaN", ".NAN"].contains word then some Binary64.nan
  else if text.take 2 == ['+', '+'] || text.take 2 == ['+', '-'] then none
  else (Binary64.ofChars? unsigned).filter Binary64.isFinite

/-- The value of a plain scalar without a tag. A whole number beyond 64 bits has none as long as
128 bits hold it; beyond those it is a decimal. -/
def plainValue? (text : List Char) : Option Value :=
  let word := String.ofList text
  if text.isEmpty || nullWords.contains word then some .null
  else
    match bool? word with
    | some b => some (.bool b)
    | none =>
        match word? text with
        | some n => some (.ofInt n)
        | none =>
            if isDoubleWord text then none
            else
              match if hasLeadingZero text then none else float? text with
              | some x => some (.float x)
              | none => some (.string word)

/-- The tags that decide what a scalar is. -/
def coreTag (name : String) : List Char :=
  ("tag:yaml.org,2002:" ++ name).toList

/-- Whether a tag is one of the writer's own. -/
def isLocalTag (tag : List Char) : Bool :=
  tag.head? = some '!'

/-- The value of a scalar. -/
def scalarValue? (tag? : Option (List Char)) (style : Style) (text : List Char) : Option Value :=
  let word := String.ofList text
  match tag? with
  | none => if style = .plain then plainValue? text else some (.string word)
  | some tag =>
      if isLocalTag tag then none
      else if tag = coreTag "bool" then (bool? word).map .bool
      else if tag = coreTag "int" then (word? text).map .ofInt
      else if tag = coreTag "float" then (float? text).map .float
      else if tag = coreTag "null" then if nullWords.contains word then some .null else none
      else some (.string word)

/-- Everything that a scalar can be read as. -/
def scalarContent (tag? : Option (List Char)) (style : Style) (text : List Char) : Scalar :=
  let word := String.ofList text
  let openTo (name : String) : Bool :=
    style = .plain || (style = .literal && tag? = some (coreTag name))
  { text? := some word
    bool? := if openTo "bool" then bool? word else none
    count? := if openTo "int" then unsigned? (Nat.pow 2 64 - 1) text else none
    value? := scalarValue? tag? style text
    absent := style = .plain
      && (nullWords.contains word && (tag?.isNone || tag? = some (coreTag "null"))
        || text.isEmpty && tag?.isNone)
    contradicts := style = .plain && tag? = some (coreTag "null") && !nullWords.contains word
    empty := style = .plain && text.isEmpty }

end StagePlan.Yaml
