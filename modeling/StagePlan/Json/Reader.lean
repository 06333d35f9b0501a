import StagePlan.Json.Number

namespace StagePlan.Json

/-!
The JSON notation. `document?` reads a text whole. What is well formed but cannot be represented (a
number beyond the doubles, half a surrogate pair, nesting beyond the limit) is read as unreadable,
so that it only matters where somebody looks at it.
-/

/-- How deep lists and maps may nest where they are read. -/
def depthLimit : Nat := 127

def isBlank (c : Char) : Bool :=
  c = ' ' || c = '\n' || c = '\t' || c = '\r'

def skipBlanks (text : List Char) : List Char :=
  text.dropWhile isBlank

def hexValue? (c : Char) : Option Nat :=
  if '0' ≤ c && c ≤ '9' then some (c.toNat - 48)
  else if 'a' ≤ c && c ≤ 'f' then some (c.toNat - 87)
  else if 'A' ≤ c && c ≤ 'F' then some (c.toNat - 55)
  else none

/-- The number that four hexadecimal digits stand for. -/
def hexQuad? (a b c d : Char) : Option Nat := do
  let a ← hexValue? a
  let b ← hexValue? b
  let c ← hexValue? c
  let d ← hexValue? d
  pure (((a * 16 + b) * 16 + c) * 16 + d)

/-- The character that a letter behind a backslash stands for. -/
def escaped? (c : Char) : Option Char :=
  if c = '"' || c = '\\' || c = '/' then some c
  else if c = 'b' then some (Char.ofNat 8)
  else if c = 'f' then some (Char.ofNat 12)
  else if c = 'n' then some '\n'
  else if c = 'r' then some '\r'
  else if c = 't' then some '\t'
  else none

/-- A piece of a string: a character, or a 16-bit unit that was written by its number. -/
inductive Piece where
  | char (c : Char)
  | unit (n : Nat)

/-- The pieces of a string up to its closing mark, in reverse, and what follows. -/
def readPieces (found : List Piece) : List Char → Option (List Piece × List Char)
  | [] => none
  | '"' :: rest => some (found, rest)
  | '\\' :: 'u' :: a :: b :: c :: d :: rest =>
      match hexQuad? a b c d with
      | some n => readPieces (.unit n :: found) rest
      | none => none
  | '\\' :: c :: rest =>
      match escaped? c with
      | some c => readPieces (.char c :: found) rest
      | none => none
  | c :: rest =>
      if c = '\\' || c.toNat < 0x20 then none else readPieces (.char c :: found) rest

def isHighSurrogate (n : Nat) : Bool := 0xD800 ≤ n && n ≤ 0xDBFF

def isLowSurrogate (n : Nat) : Bool := 0xDC00 ≤ n && n ≤ 0xDFFF

/-- The characters of a string, if every surrogate in it is half of a pair. -/
def joinPieces? : List Piece → Option (List Char)
  | [] => some []
  | .char c :: rest => (joinPieces? rest).map (c :: ·)
  | .unit high :: .unit low :: rest =>
      if isHighSurrogate high then
        if isLowSurrogate low then
          (joinPieces? rest).map
            (Char.ofNat (0x10000 + (high - 0xD800) * 0x400 + (low - 0xDC00)) :: ·)
        else none
      else if isLowSurrogate high then none
      else (joinPieces? (.unit low :: rest)).map (Char.ofNat high :: ·)
  | .unit n :: rest =>
      if isHighSurrogate n || isLowSurrogate n then none
      else (joinPieces? rest).map (Char.ofNat n :: ·)

def stringScalar (text : String) : Scalar :=
  { text? := some text, value? := some (.string text) }

/-- A string behind its opening mark. -/
def readString (text : List Char) : Option (Document × List Char) :=
  (readPieces [] text).map fun (pieces, rest) =>
    match joinPieces? pieces.reverse with
    | some chars => (.scalar (stringScalar (String.ofList chars)), rest)
    | none => (.unreadable, rest)

/-- A list or map at the given nesting, unreadable where it lies too deep. -/
def within (depth : Nat) (d : Document) : Document :=
  if depth < depthLimit then d else .unreadable

mutual

/-- The document at the head of a text, `depth` lists and maps being open around it. -/
def readDocument : Nat → Nat → List Char → Option (Document × List Char)
  | 0, _, _ => none
  | fuel + 1, depth, text =>
      match skipBlanks text with
      | '"' :: rest => readString rest
      | '[' :: rest =>
          match skipBlanks rest with
          | ']' :: rest => some (within depth (.list true []), rest)
          | rest =>
              match readItems fuel (depth + 1) rest with
              | some (items, rest) => some (within depth (.list true items), rest)
              | none => none
      | '\x7b' :: rest =>
          match skipBlanks rest with
          | '\x7d' :: rest => some (within depth (.map true []), rest)
          | rest =>
              match readEntries fuel (depth + 1) rest with
              | some (entries, rest) => some (within depth (.map true entries), rest)
              | none => none
      | 't' :: 'r' :: 'u' :: 'e' :: rest =>
          some (.scalar { bool? := some true, value? := some (.bool true) }, rest)
      | 'f' :: 'a' :: 'l' :: 's' :: 'e' :: rest =>
          some (.scalar { bool? := some false, value? := some (.bool false) }, rest)
      | 'n' :: 'u' :: 'l' :: 'l' :: rest =>
          some (.scalar { value? := some .null, absent := true }, rest)
      | rest => readNumber rest

/-- The items of a list that has at least one, up to its closing bracket. -/
def readItems : Nat → Nat → List Char → Option (List Document × List Char)
  | 0, _, _ => none
  | fuel + 1, depth, text =>
      match readDocument fuel depth text with
      | none => none
      | some (item, rest) =>
          match skipBlanks rest with
          | ']' :: rest => some ([item], rest)
          | ',' :: rest =>
              match readItems fuel depth rest with
              | some (items, rest) => some (item :: items, rest)
              | none => none
          | _ => none

/-- The entries of a map that has at least one, up to its closing brace. -/
def readEntries : Nat → Nat → List Char → Option (List (Document × Document) × List Char)
  | 0, _, _ => none
  | fuel + 1, depth, text =>
      match skipBlanks text with
      | '"' :: rest =>
          match readString rest with
          | none => none
          | some (key, rest) =>
              match skipBlanks rest with
              | ':' :: rest =>
                  match readDocument fuel depth rest with
                  | none => none
                  | some (item, rest) =>
                      match skipBlanks rest with
                      | '\x7d' :: rest => some ([(key, item)], rest)
                      | ',' :: rest =>
                          match readEntries fuel depth rest with
                          | some (entries, rest) => some ((key, item) :: entries, rest)
                          | none => none
                      | _ => none
              | _ => none
      | _ => none

end

/-- The document that a whole text is. -/
def document? (text : String) : Option Document :=
  let chars := text.toList
  match readDocument (2 * chars.length + 2) 0 chars with
  | some (d, rest) => if (skipBlanks rest).isEmpty then some d else none
  | none => none

/-- The value that a whole text is. -/
def value? (text : String) : Option Value :=
  (document? text).bind Document.value?

end StagePlan.Json
