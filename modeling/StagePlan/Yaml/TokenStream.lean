import StagePlan.Yaml.Token

namespace StagePlan.Yaml

/-!
The tokens of a stream. Indentation opens and closes block collections. What may be a key is known
to be one only when its colon comes up, so the tokens that a key begins with are put in afterwards.
-/

/-- Where a key may have begun that is not marked as one. -/
structure PossibleKey where
  /-- How many tokens came before it. -/
  position : Nat
  place : Cursor
  /-- Whether only a key can stand there. -/
  required : Bool
  deriving Inhabited

structure Scan where
  cursor : Cursor
  tokens : Array Token := #[]
  /-- The column of the innermost block collection, or minus one where there is none. -/
  indent : Int := -1
  /-- The columns of the block collections around it. -/
  outer : List Int := []
  /-- What may be a key, inside each of the open brackets and outside of them, innermost first. -/
  keys : List (Option PossibleKey) := [none]
  /-- Whether a key may begin here. -/
  keyAllowed : Bool := true
  deriving Inhabited

namespace Scan

/-- Whether a bracket is open. -/
def inFlow (s : Scan) : Bool :=
  s.keys.length > 1

def push (token : Token) (s : Scan) : Scan :=
  { s with tokens := s.tokens.push token }

/-- Puts a token in behind the given number of tokens. -/
def insert (position : Nat) (token : Token) (s : Scan) : Scan :=
  { s with tokens := (s.tokens.extract 0 position).push token ++ s.tokens.extract position }

def moveTo (cursor : Cursor) (s : Scan) : Scan :=
  { s with cursor }

def allowKey (keyAllowed : Bool) (s : Scan) : Scan :=
  { s with keyAllowed }

/-- Takes one character as a token. -/
def take (token : Token) (s : Scan) : Scan :=
  (s.push token).moveTo (s.cursor.advance 1)

/-- Closes the block collections that lie further to the right than a column. -/
def closeBlocks (column : Int) (s : Scan) : Scan :=
  if s.inFlow then s else go s.outer s
where
  go : List Int → Scan → Scan
    | [], s => s
    | around :: outer, s =>
        if column < s.indent then go outer { s.push .blockEnd with indent := around, outer }
        else s

/-- Opens a block collection in front of a token, unless one is open at the column. -/
def openBlock (column position : Nat) (token : Token) (s : Scan) : Scan :=
  if !s.inFlow && s.indent < column then
    { s.insert position token with indent := column, outer := s.indent :: s.outer }
  else s

/-- Gives up the innermost possible key. One that is required must not be given up. -/
def dropKey (s : Scan) : Option Scan :=
  match s.keys with
  | some key :: others => if key.required then none else some { s with keys := none :: others }
  | _ => some s

/-- Notes that a key may begin here. -/
def noteKey (s : Scan) : Option Scan := do
  if s.keyAllowed then
    let s ← s.dropKey
    let required := !s.inFlow && s.indent = s.cursor.column
    let key : PossibleKey := { position := s.tokens.size, place := s.cursor, required }
    some { s with keys := some key :: s.keys.drop 1 }
  else some s

/-- How many characters may lie between the beginning of a key and its colon. -/
def keyLimit : Nat := 1024

/-- Gives up the possible keys that cannot be any more: a key lies on one line and is not long. -/
def dropStaleKeys (s : Scan) : Option Scan := do
  let keys ← s.keys.mapM fun (key? : Option PossibleKey) =>
    match key? with
    | none => some none
    | some key =>
        if key.place.line < s.cursor.line || key.place.index + keyLimit < s.cursor.index then
          if key.required then none else some none
        else some (some key)
  some { s with keys }

/-- Passes over blanks, comments and line ends up to the next token. A tab may stand where no key
may begin. -/
def skipGaps : Nat → Scan → Scan
  | 0, s => s
  | fuel + 1, s =>
      let c := s.cursor
      let c := if c.column = 0 && c.headIs '\ufeff' then c.advance 1 else c
      let c := c.dropWhile fun char => char = ' ' || ((s.inFlow || !s.keyAllowed) && char = '\t')
      let c := if c.headIs '#' then c.dropLine else c
      if (c.head?.map isBreak).getD false then
        skipGaps fuel
          { s with cursor := c.takeBreak.2, keyAllowed := s.keyAllowed || !s.inFlow }
      else s.moveTo c

/-- Ends what the line before a directive or document mark has left open. -/
def reset (s : Scan) : Option Scan :=
  ((s.closeBlocks (-1)).dropKey).map (allowKey false)

def scanDirective (s : Scan) : Option Scan := do
  let s ← s.reset
  let (token, behind) ← readDirective s.cursor
  some ((s.push token).moveTo behind)

def scanDocumentMark (token : Token) (s : Scan) : Option Scan := do
  let s ← s.reset
  some ((s.push token).moveTo (s.cursor.advance 3))

def scanOpen (token : Token) (s : Scan) : Option Scan := do
  let s ← s.noteKey
  some (({ s with keys := none :: s.keys }.allowKey true).take token)

def scanClose (token : Token) (s : Scan) : Option Scan := do
  let s ← s.dropKey
  let keys := if s.inFlow then s.keys.drop 1 else s.keys
  some (({ s with keys }.allowKey false).take token)

def scanFlowEntry (s : Scan) : Option Scan := do
  let s ← s.dropKey
  some ((s.allowKey true).take .flowEntry)

def scanBlockEntry (s : Scan) : Option Scan := do
  if !s.inFlow && !s.keyAllowed then none
  else
    let s ← (s.openBlock s.cursor.column s.tokens.size .blockSequence).dropKey
    some ((s.allowKey true).take .blockEntry)

def scanKey (s : Scan) : Option Scan := do
  if !s.inFlow && !s.keyAllowed then none
  else
    let s ← (s.openBlock s.cursor.column s.tokens.size .blockMapping).dropKey
    some ((s.allowKey (!s.inFlow)).take .key)

/-- A colon: it ends a key that was begun, or else follows one that was marked. -/
def scanValue (s : Scan) : Option Scan :=
  match s.keys with
  | some key :: others =>
      let s := { s.insert key.position .key with keys := none :: others }
      let s := s.openBlock key.place.column key.position .blockMapping
      some ((s.allowKey false).take .value)
  | _ =>
      if !s.inFlow && !s.keyAllowed then none
      else
        let s := s.openBlock s.cursor.column s.tokens.size .blockMapping
        some ((s.allowKey (!s.inFlow)).take .value)

/-- A token that may begin a key and behind which none may begin. -/
def scanContent (read : Scan → Option (Token × Cursor)) (s : Scan) : Option Scan := do
  let s ← s.noteKey
  let (token, behind) ← read s
  some (((s.push token).moveTo behind).allowKey false)

def scanBlock (style : Style) (s : Scan) : Option Scan := do
  let s ← s.dropKey
  let (text, behind) ← readBlock (style = .literal) s.indent s.cursor
  some (((s.push (.scalar style text)).moveTo behind).allowKey true)

def scanPlain (s : Scan) : Option Scan := do
  let s ← s.noteKey
  let (text, broken, behind) ← readPlain (s.indent + 1).toNat s.inFlow s.cursor
  some (((s.push (.scalar .plain text)).moveTo behind).allowKey broken)

/-- Whether a plain scalar may begin with a character, given what follows it. -/
def mayBeginPlain (inFlow : Bool) (c : Char) (rest : List Char) : Bool :=
  let indicators := "-?:,[]\x7b\x7d#&*!|>\x27\"%@`".toList
  (!isGap c && !indicators.contains c)
    || (c = '-' && !(rest.head?.map isBlank).getD false)
    || (!inFlow && (c = '?' || c = ':') && !atGap rest)

/-- The next token at its first character. -/
def scanToken (c : Char) (rest : List Char) (s : Scan) : Option Scan :=
  if c = '%' && s.cursor.column = 0 then s.scanDirective
  else if s.cursor.atMark '-' then s.scanDocumentMark .documentStart
  else if s.cursor.atMark '.' then s.scanDocumentMark .documentEnd
  else if c = '[' then s.scanOpen .openSequence
  else if c = '\x7b' then s.scanOpen .openMapping
  else if c = ']' then s.scanClose .closeSequence
  else if c = '\x7d' then s.scanClose .closeMapping
  else if c = ',' then s.scanFlowEntry
  else if c = '-' && atGap rest then s.scanBlockEntry
  else if c = '?' && (s.inFlow || atGap rest) then s.scanKey
  else if c = ':' && (s.inFlow || atGap rest) then s.scanValue
  else if c = '*' then
    s.scanContent fun s => (readAnchor s.cursor).map fun (name, behind) => (.aliasOf name, behind)
  else if c = '&' then
    s.scanContent fun s => (readAnchor s.cursor).map fun (name, behind) => (.anchor name, behind)
  else if c = '!' then
    s.scanContent fun s => (readTag s.inFlow s.cursor).map fun (name, behind) => (.tag name, behind)
  else if c = '|' && !s.inFlow then s.scanBlock .literal
  else if c = '>' && !s.inFlow then s.scanBlock .folded
  else if c = '\x27' || c = '"' then
    s.scanContent fun s =>
      (readQuoted c s.cursor).map fun (text, behind) => (.scalar .quoted text, behind)
  else if mayBeginPlain s.inFlow c rest then s.scanPlain
  else none

/-- All tokens from here on. Every token but the last takes a character, so a fuel above the length
of the stream never runs out. -/
def scanAll : Nat → Scan → Option (Array Token)
  | 0, _ => none
  | fuel + 1, s => do
      let s ← (skipGaps (s.cursor.rest.length + 1) s).dropStaleKeys
      let s := s.closeBlocks s.cursor.column
      match s.cursor.rest with
      | [] => some (← s.reset).tokens
      | c :: rest => scanAll fuel (← s.scanToken c rest)

end Scan

/-- The tokens of a stream, if every one of its characters may stand in a stream. -/
def tokens? (source : List Char) : Option (List Token) :=
  let text :=
    match source with
    | '\ufeff' :: rest => rest
    | text => text
  if text.all isPrintable then
    (Scan.scanAll (text.length + 2) { cursor := { rest := text } }).map Array.toList
  else none

end StagePlan.Yaml
