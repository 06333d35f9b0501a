import StagePlan.Expression.Literal
import StagePlan.Markup.ModuleTag

namespace StagePlan.Expression

/-!
From characters to tokens. Text outside markers stays as it is, save that a minus sign at the inner
side of a marker's end takes the blanks beside the marker away. A source that cannot be read ends
in a fault token at the place of the fault, and one that breaks off inside a marker just ends.
-/

/-- What is left of a source, and where it begins. -/
structure Cursor where
  line : Nat
  offset : Nat
  rest : List Char

namespace Cursor

def ofSource (source : List Char) : Cursor := ⟨1, 0, source⟩

/-- The cursor behind the next `count` characters. -/
def advance (cursor : Cursor) (count : Nat) : Cursor :=
  let passed := cursor.rest.take count
  ⟨cursor.line + passed.count '\n', cursor.offset + passed.length, cursor.rest.drop count⟩

/-- The cursor at a later part of its text. -/
def goTo (cursor : Cursor) (rest : List Char) : Cursor :=
  cursor.advance (cursor.rest.length - rest.length)

def spanTo (first last : Cursor) : Span :=
  ⟨first.line, first.offset, last.offset⟩

end Cursor

def openComment : List Char := ['\x7b', '#']

def closeComment : List Char := ['#', '\x7d']

/-- Whether a marker opens at the head of a text. -/
def opensMarker (text : List Char) : Bool :=
  Text.startsWith Markup.openOutput text || Text.startsWith Markup.openStatement text
    || Text.startsWith openComment text

/-- The text before the first opening marker, and the rest. -/
def splitLead : List Char → List Char × List Char
  | [] => ([], [])
  | c :: text =>
      if opensMarker (c :: text) then ([], c :: text)
      else
        let (lead, rest) := splitLead text
        (c :: lead, rest)

/-- Whether a sign stands there that says what to do with blanks. -/
def isTrimSign (c : Char) : Bool := c = '-' || c = '+'

/-- The sign behind an opening marker, and the rest. -/
def splitTrimSign : List Char → Option Char × List Char
  | [] => (none, [])
  | c :: text => if isTrimSign c then (some c, text) else (none, c :: text)

/-- Blanks that may stand between tokens. -/
def isTokenBlank (c : Char) : Bool :=
  c = ' ' || c = '\t' || c = '\n' || c = '\r' || c = '\x0c'

/-- What follows a statement marker that holds one word and nothing else, given the text behind its
opening, with the sign at its closing. -/
def bareStatement? (name : String) (text : List Char) : Option (Option Char × List Char) := do
  let behind ← Text.dropPiece? name.toList (text.dropWhile isTokenBlank)
  let (sign, behind) := splitTrimSign (behind.dropWhile isTokenBlank)
  let rest ← Text.dropPiece? Markup.closeStatement behind
  pure (sign, rest)

/-- The text of a raw block up to the marker that ends it, whether that marker takes the blanks
before it and after it away, and what follows the marker. -/
def rawBody? : List Char → Option (List Char × Bool × Bool × List Char)
  | [] => none
  | c :: text =>
      let ending := do
        let behind ← Text.dropPiece? Markup.openStatement (c :: text)
        let (opening, inner) := splitTrimSign behind
        let (closing, rest) ← bareStatement? "endraw" inner
        pure (decide (opening = some '-'), decide (closing = some '-'), rest)
      match ending with
      | some (before, after, rest) => some ([], before, after, rest)
      | none => (rawBody? text).map fun (body, ends) => (c :: body, ends)

inductive MarkerKind where
  | output
  | statement
  deriving DecidableEq

namespace MarkerKind

def opening : MarkerKind → Token
  | .output => .openOutput
  | .statement => .openStatement

def closing : MarkerKind → Token
  | .output => .closeOutput
  | .statement => .closeStatement

def closingChars : MarkerKind → List Char
  | .output => Markup.closeOutput
  | .statement => Markup.closeStatement

/-- The end of a marker at the head of a text: whether it takes the blanks behind it away, and what
follows it. -/
def endAt? (kind : MarkerKind) : List Char → Option (Bool × List Char)
  | [] => none
  | c :: text =>
      match if isTrimSign c then Text.dropPiece? kind.closingChars text else none with
      | some rest => some (decide (c = '-'), rest)
      | none => (Text.dropPiece? kind.closingChars (c :: text)).map fun rest => (false, rest)

end MarkerKind

/-- Where the next token is looked for. -/
inductive Mode where
  /-- Outside markers; `trim` says whether leading blanks are dropped. -/
  | text (trim : Bool)
  /-- Inside a marker, in which `depth` brackets are open. -/
  | marker (kind : MarkerKind) (depth : Nat)

/-- The token at the head of a text that begins with neither a blank nor the end of its marker, and
what follows it. -/
def tokenAt : List Char → Token × List Char
  | [] => (.fault .malformed, [])
  | c :: text =>
      match Symbol.ofChars? ((c :: text).take 2) with
      | some s => (.symbol s, (c :: text).drop ((c :: text).take 2).length)
      | none =>
          match Symbol.ofChars? [c] with
          | some s => (.symbol s, text)
          | none =>
              if c = '"' || c = '\x27' then
                match readQuotedBody? c text with
                | none => (.fault .malformed, [])
                | some (body, rest) =>
                    match unescape? body with
                    | some chars => (.string (String.ofList chars), rest)
                    | none => (.fault .escape, [])
              else if c.isDigit then readNumber (c :: text)
              else if Markup.isNameStart c then
                let (tail, rest) := text.span Markup.isNameChar
                (.word (String.ofList (c :: tail)), rest)
              else (.fault .malformed, [])

/-- How many brackets are open behind a token, if `depth` were before it. -/
def Token.depthBehind (depth : Nat) : Token → Nat
  | .symbol .openParen | .symbol .openBracket | .symbol .openBrace => depth + 1
  | .symbol .closeParen | .symbol .closeBracket | .symbol .closeBrace => depth - 1
  | _ => depth

/-- A step of the lexer: the tokens it gives, and where to go on, if anywhere. -/
structure Step where
  tokens : List PlacedToken
  next? : Option (Mode × Cursor)

def Step.stop (tokens : List PlacedToken) : Step := ⟨tokens, none⟩

def Step.fault (cursor : Cursor) (reason : SourceFault) : Step :=
  .stop [⟨.fault reason, cursor.spanTo cursor⟩]

/-- A step inside a marker. The marker ends only where no bracket is open. -/
def markerStep (kind : MarkerKind) (depth : Nat) (cursor : Cursor) : Step :=
  let start := cursor.goTo (cursor.rest.dropWhile isTokenBlank)
  match start.rest with
  | [] => .stop []
  | _ =>
      match if depth = 0 then kind.endAt? start.rest else none with
      | some (trim, rest) =>
          let next := start.goTo rest
          ⟨[⟨kind.closing, start.spanTo next⟩], some (.text trim, next)⟩
      | none =>
          match tokenAt start.rest with
          | (.fault reason, _) => .fault start reason
          | (token, rest) =>
              let next := start.goTo rest
              ⟨[⟨token, start.spanTo next⟩], some (.marker kind (token.depthBehind depth), next)⟩

/-- A step at an opening marker. -/
def openingStep (cursor : Cursor) : Step :=
  let opened (kind : MarkerKind) (inner : List Char) : Step :=
    let next := cursor.goTo inner
    ⟨[⟨kind.opening, cursor.spanTo next⟩], some (.marker kind 0, next)⟩
  match Text.dropPiece? openComment cursor.rest with
  | some behind =>
      match Text.cutAt? closeComment (splitTrimSign behind).2 with
      | some (body, rest) =>
          ⟨[], some (.text (decide (body.getLast? = some '-')), cursor.goTo rest)⟩
      | none => .fault cursor .malformed
  | none =>
      match Text.dropPiece? Markup.openStatement cursor.rest with
      | some behind =>
          let inner := (splitTrimSign behind).2
          match bareStatement? "raw" inner with
          | some (sign, rest) =>
              match rawBody? rest with
              | none => .fault cursor .malformed
              | some (body, trimsBefore, trimsAfter, rest) =>
                  let kept := if sign = some '-' then Text.trimStart body else body
                  let kept := if trimsBefore then Text.trimEnd kept else kept
                  let next := cursor.goTo rest
                  ⟨[⟨.text kept, cursor.spanTo next⟩], some (.text trimsAfter, next)⟩
          | none => opened .statement inner
      | none => opened .output (splitTrimSign (cursor.rest.drop 2)).2

/-- A step outside markers. -/
def textStep (trim : Bool) (cursor : Cursor) : Step :=
  let start := if trim then cursor.goTo (Text.trimStart cursor.rest) else cursor
  if start.rest.isEmpty then .stop []
  else if opensMarker start.rest then openingStep start
  else
    let (lead, behind) := splitLead start.rest
    let trimmed := (splitTrimSign (behind.drop 2)).1 = some '-'
    let kept := if trimmed then Text.trimEnd lead else lead
    let last := start.advance kept.length
    ⟨if kept.isEmpty then [] else [⟨.text kept, start.spanTo last⟩],
      some (.text false, start.goTo behind)⟩

/-- The tokens from a cursor on. Every step but the last passes at least one character, so `fuel`
above the length of what is left never runs out. -/
def tokensFrom : Nat → Mode → Cursor → List PlacedToken
  | 0, _, _ => []
  | fuel + 1, mode, cursor =>
      let step :=
        match mode with
        | .text trim => textStep trim cursor
        | .marker kind depth => markerStep kind depth cursor
      match step.next? with
      | some (mode, next) => step.tokens ++ tokensFrom fuel mode next
      | none => step.tokens

def tokens (source : List Char) : List PlacedToken :=
  tokensFrom (source.length + 1) (.text false) (.ofSource source)

end StagePlan.Expression
