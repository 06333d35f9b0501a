import StagePlan.Expression.Comparison
import StagePlan.Expression.Tree

namespace StagePlan.Expression

/-!
Operators on values. Whole numbers are computed exactly and must stay within 128 bits; with a
decimal on either side the operation is one on doubles. Division of whole numbers leaves a
remainder that is never negative.
-/

/-- A whole number within 128 bits. -/
def fitsInt128 (n : Int) : Bool :=
  decide (-(Nat.pow 2 127 : Int) ≤ n) && decide (n < (Nat.pow 2 127 : Int))

/-- The operands of an arithmetic operator, brought to one kind. -/
inductive Operands where
  | whole (m n : Int)
  | double (x y : Binary64)
  | text (s t : String)

namespace Dynamic

/-- The double nearest to a number. -/
def double? : Dynamic → Option Binary64
  | .bool b => some (Binary64.ofInt (if b then 1 else 0))
  | .int n => some (Binary64.ofInt n)
  | .float x => some x
  | _ => Option.none

def int128? : Dynamic → Option Int
  | .bool b => some (if b then 1 else 0)
  | .int n => if fitsInt128 n then some n else Option.none
  | _ => Option.none

def isFloat : Dynamic → Bool
  | .float _ => true
  | _ => false

def operands? (a b : Dynamic) : Option Operands :=
  match a, b with
  | .string s _, .string t _ => some (.text s t)
  | a, b =>
      if a.isFloat || b.isFloat then
        match a.double?, b.double? with
        | some x, some y => some (.double x y)
        | _, _ => Option.none
      else
        match a.int128?, b.int128? with
        | some m, some n => some (.whole m n)
        | _, _ => Option.none

/-- A whole result, where it fits. -/
def whole (n : Int) : Except Fault Dynamic :=
  if fitsInt128 n then .ok (.int n) else .error .operation

def sequence? : Dynamic → Option (List Dynamic)
  | .sequence _ items _ => some items
  | _ => Option.none

def add (a b : Dynamic) : Except Fault Dynamic :=
  match operands? a b with
  | some (.whole m n) => whole (m + n)
  | some (.double x y) => .ok (.float (x.add y))
  | some (.text s t) => .ok (text (s ++ t))
  | Option.none =>
      match a.sequence?, b.sequence? with
      | some items, some others =>
          .ok (.sequence (.stream (a.length?.isSome && b.length?.isSome)) (items ++ others) .fresh)
      | _, _ => .error .operation

/-- An operator with a meaning for whole numbers and one for doubles. -/
def arithmetic (exact : Int → Int → Except Fault Dynamic) (rounded : Binary64 → Binary64 → Binary64)
    (a b : Dynamic) : Except Fault Dynamic :=
  match operands? a b with
  | some (.whole m n) => exact m n
  | some (.double x y) => .ok (.float (rounded x y))
  | _ => .error .operation

def subtract : Dynamic → Dynamic → Except Fault Dynamic :=
  arithmetic (fun m n => whole (m - n)) Binary64.sub

/-- The remainder of whole numbers has to come with a quotient that fits. -/
def modulo : Dynamic → Dynamic → Except Fault Dynamic :=
  arithmetic
    (fun m n => if n = 0 || !fitsInt128 (m / n) then .error .operation else whole (m % n))
    Binary64.remainder

def floorDivide : Dynamic → Dynamic → Except Fault Dynamic :=
  arithmetic (fun m n => if n = 0 then .error .operation else whole (m / n))
    Binary64.euclideanQuotient

/-- A whole power. Exponents that would leave 128 bits for any base but the smallest are not
computed. -/
def wholePower (m n : Int) : Except Fault Dynamic :=
  if n < 0 then .error .operation
  else if m = 0 then .ok (.int (if n = 0 then 1 else 0))
  else if m = 1 then .ok (.int 1)
  else if m = -1 then .ok (.int (if n % 2 = 0 then 1 else -1))
  else if n ≤ 127 then whole (Int.pow m n.toNat)
  else .error .operation

def power : Dynamic → Dynamic → Except Fault Dynamic :=
  arithmetic (fun m n => if n < (Nat.pow 2 32 : Int) then wholePower m n else .error .operation) Binary64.power

def divide (a b : Dynamic) : Except Fault Dynamic :=
  match a.double?, b.double? with
  | some x, some y => .ok (.float (x.div y))
  | _, _ => .error .operation

/-- A count of repetitions. -/
def count? (v : Dynamic) : Option Nat :=
  (v.wholeIn? 0 (Nat.pow 2 64 - 1 : Int)).map Int.toNat

/-- How long a repetition may become, in bytes or items. -/
def repetitionLimit : Nat := 100000000

/-- Something of a given size several times over, unless that becomes too long. -/
def repeated (size : Nat) (times : Dynamic) (make : Nat → Dynamic) : Except Fault Dynamic :=
  match times.count? with
  | some n =>
      if size = 0 then .ok (make 0)
      else if repetitionLimit < size * n then .error .operation
      else .ok (make n)
  | Option.none => .error .operation

/-- A text `n` times over, put together from halves. -/
def textTimes (s : String) (n : Nat) : String :=
  if n = 0 then ""
  else
    let half := textTimes s (n / 2)
    if n % 2 = 0 then half ++ half else half ++ half ++ s
termination_by n
decreasing_by omega

def repeatText (s : String) (times : Dynamic) : Except Fault Dynamic :=
  repeated s.utf8ByteSize times fun n => text (textTimes s n)

def repeatItems (items : List Dynamic) (times : Dynamic) : Except Fault Dynamic :=
  repeated items.length times fun n => stream (List.replicate n items).flatten

/-- Products of numbers, and repetitions of texts and sequences. -/
def multiply (a b : Dynamic) : Except Fault Dynamic :=
  match a, b with
  | .string s _, n => repeatText s n
  | n, .string s _ => repeatText s n
  | .sequence (.stream false) .., _ => .error .operation
  | .sequence _ items _, n => repeatItems items n
  | _, .sequence (.stream false) .. => .error .operation
  | n, .sequence _ items _ => repeatItems items n
  | a, b =>
      arithmetic (fun m n => whole (m * n)) Binary64.mul a b

/-- The opposite of a number. The one whole number just above 128 bits stays as it is. -/
def negated : Dynamic → Except Fault Dynamic
  | .int n => if n = (Nat.pow 2 127 : Int) then .ok (.int n) else whole (-n)
  | .float x => .ok (.float x.neg)
  | _ => .error .operation

/-- Whether a value is in another: a text in a text, an item in a sequence, a key in a map. Nothing
is in the undefined value. -/
def contains (container v : Dynamic) : Except Fault Bool :=
  match container with
  | .undefined _ => .ok false
  | .string text _ => .ok (Text.occurs v.shown.toList text.toList)
  | .sequence _ items _ => .ok (items.any fun item => item.equals v)
  | .map _ entries _ => .ok (lookup? v entries).isSome
  | .function _ => .ok false
  | _ => .error .operation

/-- The item at a position, counted from the end when it is negative. -/
def itemAt? {α : Type} (items : List α) (position : Int) : Option α :=
  if 0 ≤ position then items[position.toNat]?
  else if (-position).toNat ≤ items.length then items[items.length - (-position).toNat]?
  else Option.none

/-- A position that a value names. -/
def position? (v : Dynamic) : Option Int :=
  v.wholeIn? (-(Nat.pow 2 63 : Int)) (Nat.pow 2 63 - 1 : Int)

/-- The position of an item of which the end is unknown: it can only be counted from the start. -/
def forwardPosition? (v : Dynamic) : Option Int :=
  v.position?.filter fun position => decide (0 ≤ position)

/-- What a value holds under a key. -/
def item? (base key : Dynamic) : Option Dynamic :=
  match base with
  | .map _ entries _ => lookup? key entries
  | .sequence shape items _ =>
      match key, shape with
      | .string "grouper" _, .grouped => items[0]?
      | .string "list" _, .grouped => items[1]?
      | _, .stream false => key.forwardPosition?.bind (itemAt? items)
      | _, _ => key.position?.bind (itemAt? items)
  | .string text _ =>
      (key.position?.bind (itemAt? text.toList)).map fun c => Dynamic.chars [c]
  | _ => Option.none

/-- What a value holds under a key. What is not there is undefined, and nothing can be taken from
the undefined value. -/
def item (base key : Dynamic) : Except Fault Dynamic :=
  if base.isUndefined then .error .undefined
  else ((base.item? key).getD (.undefined false)).valid

def field (base : Dynamic) (name : String) : Except Fault Dynamic :=
  base.item (text name)

/-- Follows a path of names and positions with points between them. -/
def follow (path : String) (v : Dynamic) : Except Fault Dynamic :=
  (Text.splitOn ['.'] path.toList).foldlM
    (fun (v : Dynamic) (part : List Char) =>
      let plain := if part.head? = some '+' then part.drop 1 else part
      if !plain.isEmpty && plain.all Char.isDigit then
        v.item (.int (Decimal.digitsValue plain))
      else v.item (chars part))
    v

/-- A bound of a slice counted from the end becomes one counted from the start. One from before the
start becomes the start. -/
def sliceBound (length : Nat) (bound : Int) : Nat :=
  if 0 ≤ bound then bound.toNat else ((length : Int) + bound).toNat

/-- Every item whose position is a multiple of the step. -/
def everyNth {α : Type} (step : Nat) : Nat → List α → List α
  | _, [] => []
  | 0, x :: rest => x :: everyNth step (step - 1) rest
  | wait + 1, _ :: rest => everyNth step wait rest

/-- The bound of a backward slice. -/
def backwardBound (length : Nat) (bound : Int) : Int :=
  if 0 ≤ bound then min bound (length - 1)
  else max (-1) (length + bound)

/-- The items between two bounds, every `step`-th of them; backwards for a negative step. -/
def slicedItems {α : Type} (items : List α) (start? stop? : Option Int) (step : Int) : List α :=
  if 0 < step then
    let low := sliceBound items.length (start?.getD 0)
    let high := sliceBound items.length (stop?.getD items.length)
    everyNth step.toNat 0 ((items.drop low).take (high - low))
  else
    let high := backwardBound items.length (start?.getD (items.length - 1))
    let low :=
      match stop? with
      | some stop => backwardBound items.length stop
      | Option.none => -1
    let kept := (items.take (high + 1).toNat).drop (low + 1).toNat
    everyNth (-step).toNat 0 kept.reverse

/-- A bound or step of a slice; none stands for one that is left out. -/
def bound? (v : Dynamic) : Except Fault (Option Int) :=
  if v.isNone then .ok Option.none
  else
    match v.position? with
    | some n => .ok (some n)
    | Option.none => .error .operation

def sliced (base start stop step : Dynamic) : Except Fault Dynamic := do
  if base.isMissing then .error .undefined
  else
    let start? ← bound? start
    let stop? ← bound? stop
    let step := (← bound? step).getD 1
    if step = 0 then .error .operation
    else
      match base with
      | .string text _ => .ok (chars (slicedItems text.toList start? stop? step))
      | .undefined _ | .none => .ok (list [])
      | .sequence (.stream false) items _ => .ok (unsized (slicedItems items start? stop? step))
      | .sequence _ items _ => .ok (stream (slicedItems items start? stop? step))
      | _ => .error .operation

/-- The value of an operator that evaluates both sides. Only arithmetic takes a missing operand as
a failed operation; everywhere else it is a failure of its own. -/
def operate (operator : Operator) (a b : Dynamic) : Except Fault Dynamic :=
  let present (result : Dynamic) : Except Fault Dynamic :=
    if a.isMissing || b.isMissing then .error .undefined else .ok result
  match operator with
  | .plus => add a b
  | .minus => subtract a b
  | .times => multiply a b
  | .divide => divide a b
  | .floorDivide => floorDivide a b
  | .modulo => modulo a b
  | .power => power a b
  | .concat => present (text (a.shown ++ b.shown))
  | .equal => present (.bool (equals a b))
  | .notEqual => present (.bool (!equals a b))
  | .less => present (.bool (compare a b == .lt))
  | .lessEqual => present (.bool (compare a b != .gt))
  | .greater => present (.bool (compare a b == .gt))
  | .greaterEqual => present (.bool (compare a b != .lt))
  | .member =>
      if a.isMissing || b.isMissing then .error .undefined
      else (contains b a).map .bool
  | .notMember =>
      if a.isMissing || b.isMissing then .error .undefined
      else (contains b a).map fun found => .bool (!found)
  | .and | .or => .ok b

end Dynamic

end StagePlan.Expression
