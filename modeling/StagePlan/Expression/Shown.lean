import StagePlan.Expression.Dynamic

namespace StagePlan.Expression

/-!
The text of a value inside expressions, as joining and text conversion give it. On its own a text
is shown as it is and inside a list or map with quotation marks.
-/

namespace Dynamic

def boolText (b : Bool) : String :=
  if b then "True" else "False"

/-- The text of items of which nobody knows how many there are: they are not gone through for it. -/
def unsizedText : String := "<iterator>"

mutual

/-- A value inside a list or map. -/
def nestedText : Dynamic → String
  | .undefined _ => "undefined"
  | .none => "None"
  | .bool b => boolText b
  | .int n => toString n
  | .float x => Decimal.inspectionLayout.anyText x
  | .string text _ => Text.quoted text
  | .sequence (.stream false) .. => unsizedText
  | .sequence _ items _ => "[" ++ ", ".intercalate (nestedTexts items) ++ "]"
  | .map (.view text) .. => text
  | .map _ entries _ => "\x7b" ++ ", ".intercalate (nestedEntries entries) ++ "\x7d"
  | .function name => name
  | .object _ => "object"
  | .invalid => "invalid"

def nestedTexts : List Dynamic → List String
  | [] => []
  | item :: rest => nestedText item :: nestedTexts rest

def nestedEntries : List (Dynamic × Dynamic) → List String
  | [] => []
  | (key, value) :: rest => (nestedText key ++ ": " ++ nestedText value) :: nestedEntries rest

end

/-- A value on its own. -/
def shown : Dynamic → String
  | .undefined _ => ""
  | .float x => Decimal.plainLayout.anyText x
  | .string text _ => text
  | v => v.nestedText

/-- Puts blanks before every line of a text but the first. -/
def indentBehind (width : Nat) (text : List Char) : List Char :=
  text.flatMap fun c => if c = '\n' then '\n' :: List.replicate width ' ' else [c]

/-- The parts of a list or map, each on lines of its own between the brackets. -/
def spread (opening closing : String) (parts : List String) : String :=
  if parts.isEmpty then opening ++ closing
  else
    let line (part : String) : String :=
      "    " ++ String.ofList (indentBehind 4 part.toList) ++ ",\n"
    opening ++ "\n" ++ String.join (parts.map line) ++ closing

mutual

/-- A value with every item and entry on a line of its own. -/
def spreadText : Dynamic → String
  | .sequence (.stream false) .. => unsizedText
  | .sequence _ items _ => spread "[" "]" (spreadTexts items)
  | .map (.view text) .. => text
  | .map _ entries _ => spread "\x7b" "\x7d" (spreadEntries entries)
  | v => v.nestedText

def spreadTexts : List Dynamic → List String
  | [] => []
  | item :: rest => spreadText item :: spreadTexts rest

def spreadEntries : List (Dynamic × Dynamic) → List String
  | [] => []
  | (key, value) :: rest => (spreadText key ++ ": " ++ spreadText value) :: spreadEntries rest

end

end Dynamic

end StagePlan.Expression
