import StagePlan.Value.Basic
import StagePlan.Text.Quoted

namespace StagePlan

/-!
Written forms of values: compact documents, the canonical document with sorted keys, the text that
stands for a value inside a longer text, and the form that shows how a value is built.
-/

/-- The character behind a backslash, for those that a document writes so. -/
def documentEscape? (c : Char) : Option Char :=
  if c = '"' then some '"'
  else if c = '\\' then some '\\'
  else if c.toNat = 8 then some 'b'
  else if c.toNat = 12 then some 'f'
  else if c = '\n' then some 'n'
  else if c = '\r' then some 'r'
  else if c = '\t' then some 't'
  else none

/-- A character inside a document string: other controls by their number in four digits, all else
as it is. -/
def documentChar (c : Char) : List Char :=
  match documentEscape? c with
  | some letter => ['\\', letter]
  | none =>
      if c.toNat < 0x20 then
        ['\\', 'u', '0', '0', Nat.digitChar (c.toNat / 16), Nat.digitChar (c.toNat % 16)]
      else [c]

/-- A document string with its quotation marks. -/
def documentString (text : String) : List Char :=
  '"' :: text.toList.flatMap documentChar ++ ['"']

/-- A document number. What is not finite is written as null. -/
def Number.documentChars : Number → List Char
  | .integer n => (toString n.toInt).toList
  | .float x => if x.isFinite then (Decimal.documentLayout.text x).toList else "null".toList

/-- The number as a document holds it. -/
def Number.text (n : Number) : String :=
  String.ofList n.documentChars

namespace Value

mutual

/-- The compact document of a value, keys in the order of the map. -/
def documentChars : Value → List Char
  | .null => "null".toList
  | .bool b => (if b then "true" else "false").toList
  | .number n => n.documentChars
  | .string text => documentString text
  | .list items => '[' :: itemsChars items
  | .map entries => '\x7b' :: entriesChars entries

/-- The items of a list and its closing bracket. -/
def itemsChars : List Value → List Char
  | [] => [']']
  | [item] => documentChars item ++ [']']
  | item :: rest => documentChars item ++ ',' :: itemsChars rest

/-- The entries of a map and its closing brace. -/
def entriesChars : List (String × Value) → List Char
  | [] => ['\x7d']
  | [(key, value)] => documentString key ++ ':' :: documentChars value ++ ['\x7d']
  | (key, value) :: rest =>
      documentString key ++ ':' :: documentChars value ++ ',' :: entriesChars rest

end

/-- The compact document of a value as a text. -/
def document (v : Value) : String :=
  String.ofList v.documentChars

/-- Puts an entry before the first one with a larger key. -/
def insertSorted (entry : String × Value) : List (String × Value) → List (String × Value)
  | [] => [entry]
  | other :: rest =>
      if entry.1 ≤ other.1 then entry :: other :: rest else other :: insertSorted entry rest

mutual

/-- The value with the entries of every map in the order of their keys. -/
def sorted : Value → Value
  | .list items => .list (sortedItems items)
  | .map entries => .map (sortedEntries entries)
  | v => v

def sortedItems : List Value → List Value
  | [] => []
  | item :: rest => sorted item :: sortedItems rest

def sortedEntries : List (String × Value) → List (String × Value)
  | [] => []
  | (key, value) :: rest => insertSorted (key, sorted value) (sortedEntries rest)

end

mutual

/-- The first number of the tree that is not finite. -/
def nonFinite? : Value → Option Binary64
  | .number (.float x) => if x.isFinite then none else some x
  | .list items => nonFiniteItem? items
  | .map entries => nonFiniteAmong? entries
  | _ => none

def nonFiniteItem? : List Value → Option Binary64
  | [] => none
  | item :: rest => (nonFinite? item).or (nonFiniteItem? rest)

def nonFiniteAmong? : List (String × Value) → Option Binary64
  | [] => none
  | (_, value) :: rest => (nonFinite? value).or (nonFiniteAmong? rest)

end

/-- The document of a value with sorted keys, or the number that keeps it from having one. -/
def canonical (v : Value) : Except Binary64 String :=
  match v.sorted.nonFinite? with
  | some x => .error x
  | none => .ok v.sorted.document

/-- Why a value with this number in it has no document. -/
def nonFiniteMessage (x : Binary64) : String :=
  "non-finite number " ++ x.specialText ++ " cannot be encoded"

/-- The text that a value puts into a longer text: a string is inserted as it is, null leaves
nothing, and a list or map stands as its canonical document. -/
def text : Value → Except Binary64 String
  | .null => .ok ""
  | .string s => .ok s
  | .bool b => .ok (if b then "true" else "false")
  | .number (.integer n) => .ok (Number.integer n).text
  | .number (.float x) => if x.isFinite then .ok (Number.float x).text else .error x
  | v => v.canonical

end Value

def Number.inspected : Number → String
  | .integer n => "Number(Integer(" ++ toString n.toInt ++ "))"
  | .float x => "Number(Float(" ++ Decimal.inspectionLayout.anyText x ++ "))"

namespace Value

mutual

/-- A value with the name of the kind at every node. -/
def inspected : Value → String
  | .null => "Null"
  | .bool b => if b then "Bool(true)" else "Bool(false)"
  | .number n => n.inspected
  | .string s => "String(" ++ Text.quoted s ++ ")"
  | .list items => "List([" ++ ", ".intercalate (inspectedItems items) ++ "])"
  | .map entries => "Map(\x7b" ++ ", ".intercalate (inspectedEntries entries) ++ "\x7d)"

def inspectedItems : List Value → List String
  | [] => []
  | item :: rest => inspected item :: inspectedItems rest

def inspectedEntries : List (String × Value) → List String
  | [] => []
  | (key, value) :: rest => (Text.quoted key ++ ": " ++ inspected value) :: inspectedEntries rest

end

end Value

end StagePlan
