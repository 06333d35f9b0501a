import StagePlan.Expression.Format
import StagePlan.Text.Blank
import StagePlan.Text.Letters

namespace StagePlan.Expression.TextFilter

/-!
Filters that make texts and numbers of single values.
-/

open Arguments

/-- A filter as expressions apply it: to a value, with arguments. -/
abbrev Applied := Dynamic → List Dynamic → Except Fault Dynamic

/-- A filter that takes nothing but its input. -/
def single {α : Type} (accept : Dynamic → Except Fault α) (make : α → Except Fault Dynamic) :
    Applied := fun input given =>
  take (do make (← required accept)) (input :: given)

/-- A text made from a value, safe if the value is. -/
def textFrom (v : Dynamic) (text : List Char) : Dynamic :=
  .string (String.ofList text) v.isSafe

def onText (make : List Char → List Char) : Applied :=
  single asAny fun v =>
    match asText v with
    | .ok text => .ok (textFrom v (make text.toList))
    | .error fault => .error fault

/-- Whether a character is an ASCII punctuation mark. -/
def isPunctuation (c : Char) : Bool :=
  let n := c.toNat
  (33 ≤ n && n ≤ 47) || (58 ≤ n && n ≤ 64) || (91 ≤ n && n ≤ 96) || (123 ≤ n && n ≤ 126)

/-- Capital letters at the start and behind blanks and punctuation, small ones elsewhere. -/
def titleFrom (capital : Bool) : List Char → List Char
  | [] => []
  | c :: rest =>
      if isPunctuation c || Text.isBlank c then c :: titleFrom true rest
      else (if capital then Text.upperChar c else Text.lowerChar c) ++ titleFrom false rest

/-- A capital letter first and small letters behind it. -/
def capitalized : List Char → List Char
  | [] => []
  | c :: rest => Text.upperChar c ++ Text.lower rest

/-- The characters that are written otherwise where a text stands in markup. -/
def escapedChar (c : Char) : List Char :=
  match c with
  | '<' => "&lt;".toList
  | '>' => "&gt;".toList
  | '&' => "&amp;".toList
  | '"' => "&quot;".toList
  | '\x27' => "&#x27;".toList
  | '/' => "&#x2f;".toList
  | c => [c]

/-- The text of a value for markup. Numbers, booleans and nothing need no escaping, and neither does
a text that is safe already. -/
def escape (v : Dynamic) : Dynamic :=
  match v with
  | .string _ true => v
  | .string text false => .string (String.ofList (text.toList.flatMap escapedChar)) true
  | v => .string (String.ofList (v.shown.toList.flatMap escapedChar)) true

def replace : Applied := fun input given =>
  take (do
    let v ← required present
    let piece ← required asText
    let replacement ← required asText
    pure (textFrom v (Text.replace piece.toList replacement.toList v.shown.toList)))
    (input :: given)

def trim : Applied := fun input given =>
  take (do
    let v ← required present
    let dropped? ← optional asText
    let text := v.shown.toList
    pure <| textFrom v <|
      match dropped? with
      | some dropped => Text.trimBy (fun c => dropped.toList.contains c) text
      | none => Text.trim text)
    (input :: given)

/-- Joins all parts behind the first `count` into one. -/
def limitParts (separator : List Char) (count : Nat) (parts : List (List Char)) :
    List (List Char) :=
  if parts.length ≤ count then parts
  else parts.take count ++ [Text.join separator (parts.drop count)]

/-- Cuts up to `count` parts off a text at stretches of blanks. Blanks before a part are dropped. -/
def splitBlanks (count : Nat) (text : List Char) : List (List Char) :=
  match Text.trimStart text with
  | [] => []
  | c :: rest =>
      match count with
      | 0 => [c :: rest]
      | count + 1 =>
          let (part, behind) := (c :: rest).span fun c => !Text.isBlank c
          part :: splitBlanks count behind

def split : Applied := fun input given =>
  take (do
    let text ← required asString
    let separator? ← optional asString
    let limit? ← optional (asWhole (-(Nat.pow 2 63 : Int)) (Nat.pow 2 63 - 1 : Int))
    let limit? := (limit?.filter fun n => decide (0 ≤ n)).map Int.toNat
    let parts :=
      match separator?, limit? with
      | none, none => splitBlanks text.length text.toList
      | none, some n => splitBlanks n text.toList
      | some separator, none => Text.splitOn separator.toList text.toList
      | some separator, some n =>
          limitParts separator.toList n (Text.splitOn separator.toList text.toList)
    pure (.list (parts.map Dynamic.chars)))
    (input :: given)

/-- Drops one carriage return at the end. -/
def dropReturn (line : List Char) : List Char :=
  if line.getLast? = some '\r' then line.dropLast else line

/-- The lines of a text. A line break at the end begins no further line. -/
def lines (text : List Char) : List (List Char) :=
  let parts := Text.splitBy (· = '\n') text
  parts.dropLast.map dropReturn ++ parts.getLast?.toList.filter (!·.isEmpty)

/-- Drops a line break at the end. -/
def dropLineBreak (text : List Char) : List Char :=
  dropReturn (if text.getLast? = some '\n' then text.dropLast else text)

/-- Puts blanks before the lines of a text: before the first one and before empty ones only when
asked to. -/
def indented (width : Nat) (first blank : Bool) (text : List Char) : List Char :=
  let pad := List.replicate width ' '
  let indent (line : List Char) : List Char :=
    if line.isEmpty then if blank then pad else [] else pad ++ line
  let all := Text.splitBy (· = '\n') (dropLineBreak text)
  let all :=
    match all with
    | [] => []
    | head :: tail => (if first then indent head else head) :: tail.map indent
  dropLineBreak (all.flatMap fun line => line ++ ['\n'])

def indent : Applied := fun input given =>
  take (do
    let v ← required present
    let width ← required asCount
    let first? ← optional asBool
    let blank? ← optional asBool
    pure (textFrom v (indented width (first?.getD false) (blank?.getD false) v.shown.toList)))
    (input :: given)

/-- The default in place of what is undefined, or with a second argument of what counts as false. -/
def orDefault : Applied := fun input given => do
  let (plain, named) := splitNamed given
  let (v, other?, lax?) ← take (do
    let v ← required asAny
    let other? ← next?
    let lax? ← optional asBool
    pure (v, other?, lax?)) (input :: plain)
  let other := (other?.or (Arguments.named? "default_value" named)).getD (.text "")
  let lax := (lax?.or (← Arguments.named "boolean" asBool named)).getD false
  let () ← onlyNamed ["default_value", "boolean"] named
  .ok (if v.isUndefined || (lax && !v.isTruthy) then other else v)

/-- A number without its sign. The least whole number has no counterpart within 128 bits. -/
def absolute (v : Dynamic) : Except Fault Dynamic :=
  match v with
  | .int n => if n = -(Nat.pow 2 127 : Int) then .error .operation else .ok (.int n.natAbs)
  | .float x => .ok (.float x.abs)
  | _ => .error .operation

/-- The whole number next to a double in the direction of zero, the ends of 128 bits for what lies
beyond them. -/
def clampedWhole (x : Binary64) : Int :=
  if x.isNaN then 0
  else if x.isInfinite then if x.isNegative then -(Nat.pow 2 127 : Int) else (Nat.pow 2 127 - 1 : Int)
  else max (-(Nat.pow 2 127 : Int)) (min (Nat.pow 2 127 - 1 : Int) x.truncate)

def toWhole (v : Dynamic) : Except Fault Dynamic :=
  match v with
  | .undefined _ | .none => .ok (.int 0)
  | .bool b => .ok (.int (if b then 1 else 0))
  | .int n => .ok (.int n)
  | .float x => .ok (.int (clampedWhole x))
  | .string text _ =>
      match (wholeOfChars? text.toList).filter fitsInt128, Binary64.ofChars? text.toList with
      | some n, _ => .ok (.int n)
      | none, some x => .ok (.int (clampedWhole x))
      | none, none => .error .operation
  | _ => .error .operation

def toDouble (v : Dynamic) : Except Fault Dynamic :=
  match v with
  | .undefined _ | .none => .ok (.float Binary64.zero)
  | .string text _ =>
      match Binary64.ofChars? text.toList with
      | some x => .ok (.float x)
      | none => .error .operation
  | v =>
      match v.double? with
      | some x => .ok (.float x)
      | none => .error .operation

/-- Rounds to a number of decimal places, a half going away from zero. -/
def round : Applied := fun input given =>
  take (do
    let v ← required asAny
    let places? ← optional (asWhole (-(Nat.pow 2 31 : Int)) (Nat.pow 2 31 - 1 : Int))
    match v with
    | .int n => pure (.int n)
    | .float x =>
        let scale := Binary64.powerInt (Binary64.ofInt 10) (places?.getD 0)
        pure (.float (((scale.mul x).roundedHalfAway).div scale))
    | _ => throw .operation)
    (input :: given)

def toText (v : Dynamic) : Except Fault Dynamic :=
  match v with
  | .string .. => .ok v
  | v => (asText v).map .text

/-- The input as a format string, filled in with the arguments. -/
def format : Applied := fun input given => do
  let (plain, named) := splitNamed given
  let text ← asString input
  .ok (.text (← Format.format text plain named))

/-- The filters of this family by name. -/
def find? (name : String) : Option Applied :=
  match name with
  | "safe" => some (single asText fun s => .ok (.string s true))
  | "escape" | "e" => some (single asAny fun v => .ok (escape v))
  | "upper" => some (onText Text.upper)
  | "lower" => some (onText Text.lower)
  | "title" => some (onText (titleFrom true))
  | "capitalize" => some (onText capitalized)
  | "replace" => some replace
  | "trim" => some trim
  | "split" => some split
  | "lines" => some (single asString fun s => .ok (.list ((lines s.toList).map Dynamic.chars)))
  | "indent" => some indent
  | "default" | "d" => some orDefault
  | "abs" => some (single asAny absolute)
  | "int" => some (single asAny toWhole)
  | "float" => some (single asAny toDouble)
  | "round" => some round
  | "string" => some (single asAny toText)
  | "format" => some format
  | "bool" => some (single asAny fun v => .ok (.bool v.isTruthy))
  | "pprint" => some (single asAny fun v => .ok (.text v.spreadText))
  | _ => none

end StagePlan.Expression.TextFilter
