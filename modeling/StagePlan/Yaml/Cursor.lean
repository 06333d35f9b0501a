namespace StagePlan.Yaml

/-!
Places in the text of a YAML stream, and the classes of characters that divide it.
-/

/-- Whether a character ends a line. -/
def isBreak (c : Char) : Bool :=
  c = '\n' || c = '\r' || c = '\u0085' || c = '\u2028' || c = '\u2029'

def isBlank (c : Char) : Bool :=
  c = ' ' || c = '\t'

/-- Whether a character stands between words or lines. -/
def isGap (c : Char) : Bool :=
  isBlank c || isBreak c

/-- Whether a text ends here or goes on with a character between words or lines. -/
def atGap : List Char → Bool
  | [] => true
  | c :: _ => isGap c

/-- The characters of names: of anchors, directives and tag handles. -/
def isNameChar (c : Char) : Bool :=
  c.isAlphanum || c = '_' || c = '-'

/-- The characters that a stream may hold. -/
def isPrintable (c : Char) : Bool :=
  let n := c.toNat
  n = 0x09 || n = 0x0A || n = 0x0D || (0x20 ≤ n && n ≤ 0x7E) || n = 0x85
    || (0xA0 ≤ n && n ≤ 0xFFFD) || 0x10000 ≤ n

/-- What is left of a stream, with the number of lines before it, of characters before it on its
line, and of characters before it altogether. -/
structure Cursor where
  rest : List Char
  line : Nat := 0
  column : Nat := 0
  index : Nat := 0
  deriving Inhabited

namespace Cursor

def head? (c : Cursor) : Option Char :=
  c.rest.head?

def headIs (c : Cursor) (wanted : Char) : Bool :=
  c.rest.head? = some wanted

/-- Passes over characters that end no line. -/
def advance (c : Cursor) (count : Nat) : Cursor :=
  { c with rest := c.rest.drop count, column := c.column + count, index := c.index + count }

/-- The characters of a class at the head, none of which may end a line, and what follows. -/
def takeWhile (c : Cursor) (class? : Char → Bool) : List Char × Cursor :=
  let taken := c.rest.takeWhile class?
  (taken, c.advance taken.length)

def dropWhile (c : Cursor) (class? : Char → Bool) : Cursor :=
  (c.takeWhile class?).2

/-- Passes over everything up to the end of the line. -/
def dropLine (c : Cursor) : Cursor :=
  c.dropWhile fun char => !isBreak char

def nextLine (c : Cursor) (count : Nat) : Cursor :=
  { rest := c.rest.drop count, line := c.line + 1, column := 0, index := c.index + count }

/-- The end of a line as a text, and what follows. All but two of the characters that end lines
count as one of them; a text that does not end a line here has none. -/
def takeBreak (c : Cursor) : List Char × Cursor :=
  match c.rest with
  | '\r' :: '\n' :: _ => (['\n'], c.nextLine 2)
  | char :: _ =>
      if char = '\u2028' || char = '\u2029' then ([char], c.nextLine 1)
      else if isBreak char then (['\n'], c.nextLine 1)
      else ([], c)
  | [] => ([], c)

/-- Whether a mark of three equal characters stands at the beginning of a line. -/
def atMark (c : Cursor) (char : Char) : Bool :=
  c.column = 0 && c.rest.take 3 == [char, char, char] && atGap (c.rest.drop 3)

/-- Whether a document begins or ends here. -/
def atDocumentMark (c : Cursor) : Bool :=
  c.atMark '-' || c.atMark '.'

end Cursor

/-- Blanks and line ends between two stretches of a text. -/
structure Gap where
  blanks : List Char := []
  /-- The first line end. -/
  first : List Char := []
  /-- The line ends after the first one. -/
  others : List Char := []
  /-- Whether a line ends in the gap. -/
  broken : Bool := false
  deriving Inhabited

namespace Gap

/-- What the gap comes to in the text: one line end becomes a blank, and of several the first one
is dropped. -/
def text (gap : Gap) : List Char :=
  if gap.broken then
    if gap.first = ['\n'] then (if gap.others.isEmpty then [' '] else gap.others)
    else gap.first ++ gap.others
  else gap.blanks

/-- Reads a gap on. A tab must not stand in for indentation up to the column `margin`. -/
def read (margin : Nat) : Nat → Gap → Cursor → Option (Gap × Cursor)
  | 0, gap, c => some (gap, c)
  | fuel + 1, gap, c =>
      match c.rest with
      | [] => some (gap, c)
      | char :: _ =>
          if isBlank char then
            if gap.broken && c.column < margin && char = '\t' then none
            else
              let gap := if gap.broken then gap else { gap with blanks := gap.blanks ++ [char] }
              read margin fuel gap (c.advance 1)
          else if isBreak char then
            let (ended, next) := c.takeBreak
            let gap :=
              if gap.broken then { gap with others := gap.others ++ ended }
              else { gap with blanks := [], first := ended, broken := true }
            read margin fuel gap next
          else some (gap, c)

end Gap

end StagePlan.Yaml
