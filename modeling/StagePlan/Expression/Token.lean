import StagePlan.Number.Basic

namespace StagePlan.Expression

/-!
Tokens of templates: stretches of plain text, the ends of markers, and what stands inside markers.
-/

/-- A stretch of a source, in characters, with the number of the line on which it begins. -/
structure Span where
  line : Nat
  start : Nat
  stop : Nat
  deriving DecidableEq, Inhabited, Repr

/-- The stretch from the start of one span to the end of another. -/
def Span.upTo (first last : Span) : Span :=
  { first with stop := last.stop }

/-- The characters of a span. -/
def Span.cut (span : Span) (source : List Char) : List Char :=
  (source.drop span.start).take (span.stop - span.start)

/-- What keeps a source from being read. -/
inductive SourceFault where
  | malformed
  /-- A string literal with an escape that stands for no character. -/
  | escape
  deriving DecidableEq, Repr

inductive Symbol where
  | plus | minus | star | slash | percent
  | doubleSlash | doubleStar
  | equal | notEqual | less | lessEqual | greater | greaterEqual
  | assign | dot | comma | colon | tilde | bar
  | openParen | closeParen | openBracket | closeBracket | openBrace | closeBrace
  deriving DecidableEq, Inhabited, Repr

/-- The symbol with the given characters. -/
def Symbol.ofChars? : List Char → Option Symbol
  | ['/', '/'] => some .doubleSlash
  | ['*', '*'] => some .doubleStar
  | ['=', '='] => some .equal
  | ['!', '='] => some .notEqual
  | ['>', '='] => some .greaterEqual
  | ['<', '='] => some .lessEqual
  | ['+'] => some .plus
  | ['-'] => some .minus
  | ['*'] => some .star
  | ['/'] => some .slash
  | ['%'] => some .percent
  | ['.'] => some .dot
  | [','] => some .comma
  | [':'] => some .colon
  | ['~'] => some .tilde
  | ['='] => some .assign
  | ['|'] => some .bar
  | ['>'] => some .greater
  | ['<'] => some .less
  | ['('] => some .openParen
  | [')'] => some .closeParen
  | ['['] => some .openBracket
  | [']'] => some .closeBracket
  | ['\x7b'] => some .openBrace
  | ['\x7d'] => some .closeBrace
  | _ => none

inductive Token where
  /-- Text outside markers. -/
  | text (chars : List Char)
  | openOutput
  | closeOutput
  | openStatement
  | closeStatement
  | word (name : String)
  | string (text : String)
  | whole (n : Nat)
  | decimal (x : Binary64)
  | symbol (s : Symbol)
  /-- The source cannot be read from here on. -/
  | fault (reason : SourceFault)
  deriving DecidableEq, Inhabited

structure PlacedToken where
  token : Token
  span : Span
  deriving Inhabited

end StagePlan.Expression
