import StagePlan.Yaml.Cursor

namespace StagePlan.Yaml

/-!
The texts of scalars: plain, quoted, and in blocks of their own lines. Every reader gives the text
and the place behind it.
-/

/-! Plain texts. -/

/-- Whether a character ends a plain text inside brackets. -/
def isFlowMark (c : Char) : Bool :=
  c = ',' || c = '[' || c = ']' || c = '\x7b' || c = '\x7d'

/-- A stretch of a plain text, up to a gap or to what ends the text. A colon in front of another
mark inside brackets is an error. -/
def plainStretch (inFlow : Bool) : List Char → Option (List Char)
  | [] => some []
  | c :: rest =>
      let beforeMark :=
        match rest with
        | [] => false
        | next :: _ => isFlowMark next || next = '?'
      if isGap c then some []
      else if inFlow && c = ':' && beforeMark then none
      else if (c = ':' && atGap rest) || (inFlow && isFlowMark c) then some []
      else (plainStretch inFlow rest).map (c :: ·)

/-- A plain text from a stretch on, behind what was found and the gap after it. The lines of the
text lie at the column `margin` or beyond. -/
def plainFrom (margin : Nat) (inFlow : Bool) :
    Nat → List Char → Gap → Cursor → Option (List Char × Bool × Cursor)
  | 0, found, gap, c => some (found, gap.broken, c)
  | fuel + 1, found, gap, c => do
      if c.atDocumentMark || c.headIs '#' then some (found, gap.broken, c)
      else
        let stretch ← plainStretch inFlow c.rest
        if stretch.isEmpty then some (found, gap.broken, c)
        else
          let found := found ++ gap.text ++ stretch
          let behind := c.advance stretch.length
          if behind.rest.isEmpty || !atGap behind.rest then some (found, false, behind)
          else
            let (gap, next) ← Gap.read margin behind.rest.length {} behind
            if !inFlow && next.column < margin then some (found, gap.broken, next)
            else plainFrom margin inFlow fuel found gap next

/-- A plain text, and whether its last line ends before the place behind it. -/
def readPlain (margin : Nat) (inFlow : Bool) (c : Cursor) : Option (List Char × Bool × Cursor) :=
  plainFrom margin inFlow (c.rest.length + 1) [] {} c

/-! Quoted texts. -/

def hexValue? (c : Char) : Option Nat :=
  if c.isDigit then some (c.toNat - '0'.toNat)
  else if 'a' ≤ c && c ≤ 'f' then some (c.toNat - 'a'.toNat + 10)
  else if 'A' ≤ c && c ≤ 'F' then some (c.toNat - 'A'.toNat + 10)
  else none

/-- The number that hexadecimal digits stand for. -/
def hexNumber? (digits : List Char) : Option Nat :=
  digits.foldlM (fun (n : Nat) (c : Char) => (hexValue? c).map fun d => n * 16 + d) 0

/-- The character with a number, if there is one. -/
def charOfNumber? (n : Nat) : Option Char :=
  if n.isValidChar then some (Char.ofNat n) else none

/-- The character that a letter behind a backslash stands for. -/
def shortEscape? (c : Char) : Option Char :=
  match c with
  | '0' => some (Char.ofNat 0)
  | 'a' => some (Char.ofNat 7)
  | 'b' => some (Char.ofNat 8)
  | 't' | '\t' => some '\t'
  | 'n' => some '\n'
  | 'v' => some (Char.ofNat 11)
  | 'f' => some (Char.ofNat 12)
  | 'r' => some '\r'
  | 'e' => some (Char.ofNat 27)
  | ' ' => some ' '
  | '"' => some '"'
  | '/' => some '/'
  | '\\' => some '\\'
  | 'N' => some '\u0085'
  | '_' => some '\u00a0'
  | 'L' => some '\u2028'
  | 'P' => some '\u2029'
  | _ => none

/-- How many digits follow a letter behind a backslash that begins a number. -/
def escapeDigits? (c : Char) : Option Nat :=
  match c with
  | 'x' => some 2
  | 'u' => some 4
  | 'U' => some 8
  | _ => none

/-- The character that an escape stands for, and the length of the escape behind its backslash. -/
def escape? : List Char → Option (Char × Nat)
  | [] => none
  | letter :: rest =>
      match escapeDigits? letter with
      | some count => do
          let digits := rest.take count
          if digits.length < count then none
          else
            let n ← hexNumber? digits
            let char ← charOfNumber? n
            some (char, count + 1)
      | none => (shortEscape? letter).map fun char => (char, 1)

/-- A stretch of a quoted text, up to a gap, the closing mark, or a line end that is escaped; the
truth value tells the last from the others. -/
def quotedStretch (mark : Char) : Nat → Cursor → Option (List Char × Bool × Cursor)
  | 0, c => some ([], false, c)
  | fuel + 1, c =>
      match c.rest with
      | [] => some ([], false, c)
      | char :: rest =>
          if isGap char then some ([], false, c)
          else if char = mark then
            if mark = '\x27' && rest.head? = some mark then
              (quotedStretch mark fuel (c.advance 2)).map fun (text, ended) => (mark :: text, ended)
            else some ([], false, c)
          else if mark = '"' && char = '\\' then
            if (rest.head?.map isBreak).getD false then
              some ([], true, (c.advance 1).takeBreak.2)
            else
              match escape? rest with
              | none => none
              | some (meant, length) =>
                  (quotedStretch mark fuel (c.advance (length + 1))).map fun (text, ended) =>
                    (meant :: text, ended)
          else
            (quotedStretch mark fuel (c.advance 1)).map fun (text, ended) => (char :: text, ended)

/-- A quoted text behind its opening mark. -/
def quotedFrom (mark : Char) : Nat → List Char → Cursor → Option (List Char × Cursor)
  | 0, _, _ => none
  | fuel + 1, found, c => do
      if c.atDocumentMark || c.rest.isEmpty then none
      else
        let (stretch, escaped, behind) ← quotedStretch mark c.rest.length c
        let found := found ++ stretch
        if behind.headIs mark then some (found, behind.advance 1)
        else
          let (gap, next) ← Gap.read 0 behind.rest.length { broken := escaped } behind
          quotedFrom mark fuel (found ++ gap.text) next

def readQuoted (mark : Char) (c : Cursor) : Option (List Char × Cursor) :=
  quotedFrom mark (c.rest.length + 1) [] (c.advance 1)

/-! Texts in blocks. -/

/-- What becomes of the line ends behind a block. -/
inductive Chomping where
  | clip | strip | keep
  deriving DecidableEq

def Chomping.ofChar? (c : Char) : Option Chomping :=
  if c = '+' then some .keep else if c = '-' then some .strip else none

/-- The marks at the head of a block in either order: what becomes of its last line ends, and how
much its lines are indented where that is said. Zero is no such number. -/
def blockMarks (c : Cursor) : Option (Chomping × Nat × Cursor) :=
  let digit? (c : Cursor) : Option (Nat × Cursor) :=
    match c.head? with
    | some char =>
        if char = '0' then none
        else if char.isDigit then some (char.toNat - '0'.toNat, c.advance 1)
        else some (0, c)
    | none => some (0, c)
  match c.head?.bind Chomping.ofChar? with
  | some chomping => (digit? (c.advance 1)).map fun (increment, next) => (chomping, increment, next)
  | none => do
      let (increment, next) ← digit? c
      if increment = 0 then some (.clip, 0, next)
      else
        match next.head?.bind Chomping.ofChar? with
        | some chomping => some (chomping, increment, next.advance 1)
        | none => some (.clip, increment, next)

/-- Passes over empty lines and the indentation of the line after them, as far as the block is
indented; `indent` is zero while that is not known. Gives the line ends and the largest indentation
that was met. -/
def blockBreaks (indent : Nat) : Nat → List Char → Nat → Cursor → Option (List Char × Nat × Cursor)
  | 0, found, widest, c => some (found, widest, c)
  | fuel + 1, found, widest, c =>
      let spaces := (c.rest.takeWhile (· = ' ')).length
      let count := if indent = 0 then spaces else min spaces (indent - c.column)
      let next := c.advance count
      let widest := max widest next.column
      if (indent = 0 || next.column < indent) && next.headIs '\t' then none
      else if (next.head?.map isBreak).getD false then
        let (ended, line) := next.takeBreak
        blockBreaks indent fuel (found ++ ended) widest line
      else some (found, widest, next)

/-- A block that is being read. -/
structure BlockText where
  found : List Char := []
  /-- The end of the last line. -/
  last : List Char := []
  /-- The ends of the empty lines behind it. -/
  empty : List Char := []
  /-- Whether the last line begins with a blank. -/
  indented : Bool := false

/-- The lines of a block. Unless they are `kept`, a line end between two lines that begin with no
blank becomes a blank, or nothing before empty lines. -/
def blockLines (kept : Bool) (indent : Nat) :
    Nat → BlockText → Cursor → Option (BlockText × Cursor)
  | 0, block, c => some (block, c)
  | fuel + 1, block, c => do
      if c.column ≠ indent || c.rest.isEmpty then some (block, c)
      else
        let indented := (c.head?.map isBlank).getD false
        let joined :=
          if !kept && block.last = ['\n'] && !block.indented && !indented then
            (if block.empty.isEmpty then [' '] else [])
          else block.last
        let (line, behind) := c.takeWhile fun char => !isBreak char
        let (last, next) := behind.takeBreak
        let (empty, _, next) ← blockBreaks indent (next.rest.length + 1) [] 0 next
        let found := block.found ++ joined ++ block.empty ++ line
        blockLines kept indent fuel { found, last, empty, indented } next

/-- A block behind its opening mark. `outer` is the column of the collection around it, or minus
one where there is none. -/
def readBlock (kept : Bool) (outer : Int) (c : Cursor) : Option (List Char × Cursor) := do
  let (chomping, increment, marks) ← blockMarks (c.advance 1)
  let blanks := marks.dropWhile isBlank
  let ended := if blanks.headIs '#' then blanks.dropLine else blanks
  if (ended.head?.map fun char => !isBreak char).getD false then none
  else
    let start := ended.takeBreak.2
    let given : Nat := if increment = 0 then 0 else (max outer 0).toNat + increment
    let (empty, widest, first) ← blockBreaks given (start.rest.length + 1) [] 0 start
    let indent := if given = 0 then max (max widest (outer + 1).toNat) 1 else given
    let (block, behind) ← blockLines kept indent (first.rest.length + 1) { empty } first
    let tail :=
      match chomping with
      | .strip => []
      | .clip => block.last
      | .keep => block.last ++ block.empty
    some (block.found ++ tail, behind)

end StagePlan.Yaml
