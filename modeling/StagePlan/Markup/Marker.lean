import StagePlan.Text.Blank
import StagePlan.Text.Search
import StagePlan.Value.Basic

namespace StagePlan.Markup

/-!
Markers in strings. A string that carries an opening marker is rendered; a string that is one output
marker and nothing else stands for the value of its expression and not for a text.
-/

def openOutput : List Char := ['\x7b', '\x7b']

def closeOutput : List Char := ['\x7d', '\x7d']

def openStatement : List Char := ['\x7b', '%']

def closeStatement : List Char := ['%', '\x7d']

/-- Whether a text carries an opening marker. -/
def hasMarkers (text : String) : Bool :=
  Text.occurs openOutput text.toList || Text.occurs openStatement text.toList

/-- The text in front of a piece that ends it. -/
def dropEnd? (piece text : List Char) : Option (List Char) :=
  (Text.dropPiece? piece.reverse text.reverse).map List.reverse

/-- Drops one minus sign at the start. -/
def dropMinus : List Char → List Char
  | '-' :: rest => rest
  | text => text

/-- The expression of a text that is one output marker, blanks around it left out. -/
def wholeExpression? (text : List Char) : Option (List Char) := do
  let behind ← Text.dropPiece? openOutput (Text.trim text)
  let inner ← dropEnd? closeOutput behind
  if [openOutput, closeOutput, openStatement, closeStatement].any fun piece =>
      Text.occurs piece inner then
    none
  else
    let bare := Text.trim (dropMinus (dropMinus inner).reverse).reverse
    if bare.isEmpty then none else some bare

end StagePlan.Markup

namespace StagePlan.Value

mutual

/-- Whether no string of the tree, keys included, carries an opening marker. -/
def isLiteral : Value → Bool
  | .string text => !Markup.hasMarkers text
  | .list items => literalItems items
  | .map entries => literalEntries entries
  | _ => true

def literalItems : List Value → Bool
  | [] => true
  | item :: rest => isLiteral item && literalItems rest

def literalEntries : List (String × Value) → Bool
  | [] => true
  | (key, value) :: rest => !Markup.hasMarkers key && isLiteral value && literalEntries rest

end

end StagePlan.Value
