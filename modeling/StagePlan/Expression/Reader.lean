import StagePlan.Expression.Lexer
import StagePlan.Expression.Tree

namespace StagePlan.Expression

/-!
Reading expressions from tokens. Operators bind, from the loosest to the tightest: the choice
`if … else`, `or`, `and`, `not`, comparisons, sums, `~`, products, powers; then come attributes,
items and calls, and last filters and tests.

A node spans from a token at its front to the last token that it takes. For sums, products and
their like the front is the first token of the node; for choices and comparisons it is the token
before it; for attributes, items and calls the point, bracket or parenthesis before the last one;
for filters and tests it is their name.
-/

/-- What a reader has before it, and what it has to remember. -/
structure ReaderState where
  tokens : List PlacedToken
  /-- The span of the token taken last. -/
  last : Span := ⟨0, 0, 0⟩
  /-- How many readers of nested expressions and statements are at work. -/
  depth : Nat := 0
  /-- The blocks named so far. -/
  blocks : List String := []
  inMacro : Bool := false

abbrev Reader (α : Type) := StateT ReaderState (Except SourceFault) α

namespace Reader

/-- How deep expressions and statements may nest. -/
def depthLimit : Nat := 150

def malformed {α : Type} : Reader α :=
  throw .malformed

/-- The next token, which stays; reading past a fault fails with it. -/
def peek? : Reader (Option Token) := do
  match (← get).tokens with
  | [] => pure none
  | placed :: _ =>
      match placed.token with
      | .fault reason => throw reason
      | token => pure (some token)

/-- Takes the next token. -/
def next? : Reader (Option Token) := do
  match ← peek? with
  | none => pure none
  | some token =>
      modify fun s =>
        match s.tokens with
        | [] => s
        | placed :: rest => { s with tokens := rest, last := placed.span }
      pure (some token)

/-- The span of the next token, or of the last one where none can be taken. -/
def peekSpan : Reader Span := do
  let s ← get
  match s.tokens with
  | [] => pure s.last
  | placed :: _ =>
      match placed.token with
      | .fault _ => pure s.last
      | _ => pure placed.span

def lastSpan : Reader Span := do
  pure (← get).last

/-- From the start of a span to the end of the token taken last. -/
def spanFrom (first : Span) : Reader Span := do
  pure (first.upTo (← get).last)

/-- Takes the next token if it is the given one. -/
def skip (token : Token) : Reader Bool := do
  if (← peek?) = some token then
    let _ ← next?
    pure true
  else pure false

def expect (token : Token) : Reader Unit := do
  if (← next?) ≠ some token then malformed

def expectWord (name : String) : Reader Unit :=
  expect (.word name)

def skipWord (name : String) : Reader Bool :=
  skip (.word name)

def skipSymbol (s : Symbol) : Reader Bool :=
  skip (.symbol s)

def expectSymbol (s : Symbol) : Reader Unit :=
  expect (.symbol s)

/-- Takes a word, whichever it is. -/
def word : Reader String := do
  match ← next? with
  | some (.word name) => pure name
  | _ => malformed

/-- The rest of a name whose parts stand between points. -/
def nameTail (name : String) : Nat → Reader String
  | 0 => malformed
  | fuel + 1 => do
      if ← skipSymbol .dot then
        let part ← word
        nameTail (name ++ "." ++ part) fuel
      else pure name

/-- The name of a filter or test, and the span of its first part. -/
def dottedName (fuel : Nat) : Reader (String × Span) := do
  let first ← word
  let span ← lastSpan
  pure (← nameTail first fuel, span)

/-- A text with the string literals that follow it. -/
def stringTail (text : String) : Nat → Reader String
  | 0 => malformed
  | fuel + 1 => do
      match ← peek? with
      | some (.string more) =>
          let _ ← next?
          stringTail (text ++ more) fuel
      | _ => pure text

/-- Runs a reader one level deeper. -/
def deeper {α : Type} (reader : Reader α) : Reader α := do
  if depthLimit ≤ (← get).depth then malformed
  else
    modify fun s => { s with depth := s.depth + 1 }
    let result ← reader
    modify fun s => { s with depth := s.depth - 1 }
    pure result

/-- Names that cannot be assigned. -/
def reservedNames : List String :=
  ["true", "True", "false", "False", "none", "None", "loop", "self"]

/-- A name that may be assigned. -/
def targetName : Reader String := do
  let name ← word
  if name ∈ reservedNames then malformed else pure name

/-- The operators that bind equally tightly, read from left to right. -/
inductive Rank where
  | or | and | sum | concat | product | power
  deriving DecidableEq

def Rank.operator? : Rank → Token → Option Operator
  | .or, .word "or" => some .or
  | .and, .word "and" => some .and
  | .sum, .symbol .plus => some .plus
  | .sum, .symbol .minus => some .minus
  | .concat, .symbol .tilde => some .concat
  | .product, .symbol .star => some .times
  | .product, .symbol .slash => some .divide
  | .product, .symbol .doubleSlash => some .floorDivide
  | .product, .symbol .percent => some .modulo
  | .power, .symbol .doubleStar => some .power
  | _, _ => none

/-- The comparison that a token begins. -/
def comparison? : Token → Option Operator
  | .symbol .equal => some .equal
  | .symbol .notEqual => some .notEqual
  | .symbol .less => some .less
  | .symbol .lessEqual => some .lessEqual
  | .symbol .greater => some .greater
  | .symbol .greaterEqual => some .greaterEqual
  | .word "in" => some .member
  | .word "not" => some .notMember
  | _ => none

/-- Whether a token can begin the argument of a test that is written without parentheses. -/
def beginsTestArgument : Token → Bool
  | .word name => !(["and", "or", "else", "is"].contains name)
  | .string _ | .whole _ | .decimal _ => true
  | .symbol .plus | .symbol .minus | .symbol .openBracket | .symbol .openBrace => true
  | _ => false

/-- The value of a word that is a literal. -/
def literalWord? : String → Option Literal
  | "true" | "True" => some (.bool true)
  | "false" | "False" => some (.bool false)
  | "none" | "None" => some .none
  | _ => none

abbrev Node := Expr Span

mutual

/-- An expression. -/
def expression : Nat → Reader Node
  | 0 => malformed
  | fuel + 1 => deeper (choice fuel)

def choice : Nat → Reader Node
  | 0 => malformed
  | fuel + 1 => do
      let span ← lastSpan
      let first ← plain fuel
      choiceTail fuel span first

def choiceTail : Nat → Span → Node → Reader Node
  | 0, _, _ => malformed
  | fuel + 1, span, yes => do
      if ← skipWord "if" then
        let test ← plain fuel
        let no ← if ← skipWord "else" then choice fuel else pure (.literal span .nothing)
        let whole := Expr.choice (← spanFrom span) test yes no
        choiceTail fuel (← lastSpan) whole
      else pure yes

/-- An expression that is not a choice. -/
def plain : Nat → Reader Node
  | 0 => malformed
  | fuel + 1 => ranked fuel .or

/-- Operands of one rank with operators between them. -/
def ranked : Nat → Rank → Reader Node
  | 0, _ => malformed
  | fuel + 1, rank => do
      let span ← peekSpan
      let first ← operand fuel rank
      rankedTail fuel rank span first

def rankedTail : Nat → Rank → Span → Node → Reader Node
  | 0, _, _, _ => malformed
  | fuel + 1, rank, span, left => do
      match (← peek?).bind rank.operator? with
      | none => pure left
      | some operator =>
          let _ ← next?
          let right ← operand fuel rank
          rankedTail fuel rank span (.binary (← spanFrom span) operator left right)

/-- An operand of an operator of the given rank. -/
def operand : Nat → Rank → Reader Node
  | 0, _ => malformed
  | fuel + 1, rank =>
      match rank with
      | .or => ranked fuel .and
      | .and => negation fuel
      | .sum => ranked fuel .concat
      | .concat => ranked fuel .product
      | .product => ranked fuel .power
      | .power => filtered fuel

def negation : Nat → Reader Node
  | 0 => malformed
  | fuel + 1 => do
      let span ← peekSpan
      if ← skipWord "not" then
        let inner ← negation fuel
        pure (.not (← spanFrom span) inner)
      else comparison fuel

/-- Sums with comparisons between them. Two or more comparisons in a row hold if each of them does. -/
def comparison : Nat → Reader Node
  | 0 => malformed
  | fuel + 1 => do
      let span ← lastSpan
      let first ← ranked fuel .sum
      let links ← comparisonLinks fuel
      let whole ← spanFrom span
      match links with
      | [] => pure first
      | [(operator, right)] => pure (.binary whole operator first right)
      | links => pure (.compared whole first (links.map fun link => (whole, link)))

/-- The operators of comparisons that follow, each with its right side. -/
def comparisonLinks : Nat → Reader (List (Operator × Node))
  | 0 => malformed
  | fuel + 1 => do
      match (← peek?).bind comparison? with
      | none => pure []
      | some operator =>
          let _ ← next?
          if operator = .notMember then expectWord "in"
          let right ← ranked fuel .sum
          pure ((operator, right) :: (← comparisonLinks fuel))

/-- An operand with its filters and tests. -/
def filtered : Nat → Reader Node
  | 0 => malformed
  | fuel + 1 => do
      let inner ← extended fuel
      filters fuel inner

/-- An operand with what is written behind it without a blank: attributes, items and calls. -/
def extended : Nat → Reader Node
  | 0 => malformed
  | fuel + 1 => do
      let span ← peekSpan
      let inner ← signed fuel
      extensions fuel span inner

def signed : Nat → Reader Node
  | 0 => malformed
  | fuel + 1 => do
      let span ← peekSpan
      if ← skipSymbol .minus then
        let inner ← signed fuel
        pure (.negate (← spanFrom span) inner)
      else deeper (primary fuel)

def extensions : Nat → Span → Node → Reader Node
  | 0, _, _ => malformed
  | fuel + 1, span, base => do
      let start ← peekSpan
      match ← peek? with
      | some (.symbol .dot) =>
          let _ ← next?
          match ← next? with
          | some (.word name) =>
              let whole := Expr.field (← spanFrom span) base name
              extensions fuel start whole
          | some (.whole n) =>
              let whole := Expr.item (← spanFrom span) base (.literal (← lastSpan) (.whole n))
              extensions fuel start whole
          | _ => malformed
      | some (.symbol .openBracket) =>
          let _ ← next?
          let whole ← subscript fuel span base
          extensions fuel start whole
      | some (.symbol .openParen) =>
          let given ← arguments fuel
          let whole := Expr.call (← spanFrom span) base.asCallee given
          extensions fuel start whole
      | _ => pure base

/-- An index or a slice, behind its bracket. -/
def subscript : Nat → Span → Node → Reader Node
  | 0, _, _ => malformed
  | fuel + 1, span, base => do
      let absent := Expr.literal span .none
      let start ←
        if (← peek?) = some (.symbol .colon) then pure absent else expression fuel
      if ← skipSymbol .colon then
        let stop ←
          match ← peek? with
          | some (.symbol .closeBracket) | some (.symbol .colon) => pure absent
          | _ => expression fuel
        let step ←
          if ← skipSymbol .colon then
            if (← peek?) = some (.symbol .closeBracket) then pure absent else expression fuel
          else pure absent
        expectSymbol .closeBracket
        pure (.slice (← spanFrom span) base start stop step)
      else
        expectSymbol .closeBracket
        pure (.item (← spanFrom span) base start)

def filters : Nat → Node → Reader Node
  | 0, _ => malformed
  | fuel + 1, input => do
      if ← skipSymbol .bar then
        let (name, span) ← dottedName fuel
        let given ← optionalArguments fuel
        filters fuel (.filter (← spanFrom span) name input given)
      else if ← skipWord "is" then
        let negated ← skipWord "not"
        let (name, span) ← dottedName fuel
        let given ←
          match ← peek? with
          | some (.symbol .openParen) => arguments fuel
          | some token =>
              if beginsTestArgument token then
                let argument ← extended fuel
                pure [(ArgumentKind.positional, argument)]
              else pure []
          | none => pure []
        let span ← spanFrom span
        let whole := Expr.test span name input given
        filters fuel (if negated then .not span whole else whole)
      else pure input

def optionalArguments : Nat → Reader (List (ArgumentKind × Node))
  | 0 => malformed
  | fuel + 1 => do
      if (← peek?) = some (.symbol .openParen) then arguments fuel else pure []

/-- Arguments with the parentheses around them. The named ones are taken last. -/
def arguments : Nat → Reader (List (ArgumentKind × Node))
  | 0 => malformed
  | fuel + 1 => do
      expectSymbol .openParen
      let given ← argumentsTail fuel [] false
      let (named, positional) := given.partition fun argument => argument.1.isNamed
      pure (positional ++ named)

def argumentsTail : Nat → List (ArgumentKind × Node) → Bool → Reader (List (ArgumentKind × Node))
  | 0, _, _ => malformed
  | fuel + 1, given, named => do
      if ← skipSymbol .closeParen then pure given
      else
        if !given.isEmpty then expectSymbol .comma
        if !given.isEmpty && (← skipSymbol .closeParen) then pure given
        else
          let (argument, isNamed) ← argument fuel named
          argumentsTail fuel (given ++ [argument]) (named || isNamed)

/-- One argument, and whether it is a named one. Behind a named argument no plain one may stand. -/
def argument : Nat → Bool → Reader ((ArgumentKind × Node) × Bool)
  | 0, _ => malformed
  | fuel + 1, named => do
      if ← skipSymbol .doubleStar then
        pure ((.namedSpread, ← expression fuel), true)
      else if ← skipSymbol .star then
        pure ((.spread, ← expression fuel), false)
      else
        let value ← expression fuel
        match value with
        | .variable _ name =>
            if ← skipSymbol .assign then pure ((.named name, ← plain fuel), true)
            else if named then malformed
            else pure ((.positional, value), false)
        | _ => if named then malformed else pure ((.positional, value), false)

def primary : Nat → Reader Node
  | 0 => malformed
  | fuel + 1 => do
      let token ← next?
      let span ← lastSpan
      match token with
      | some (.word name) =>
          match literalWord? name with
          | some value => pure (.literal span value)
          | none => pure (.variable span name)
      | some (.string text) =>
          let whole ← stringTail text fuel
          pure (.literal (← spanFrom span) (.string whole))
      | some (.whole n) => pure (.literal span (.whole n))
      | some (.decimal x) => pure (.literal span (.decimal x))
      | some (.symbol .openParen) => grouped fuel span
      | some (.symbol .openBracket) =>
          let items ← listed fuel .closeBracket []
          pure (.list (← spanFrom span) items)
      | some (.symbol .openBrace) =>
          let entries ← entries fuel []
          pure (.map (← spanFrom span) entries)
      | _ => malformed

/-- What stands in parentheses: one expression, or a list when there are commas or nothing. -/
def grouped : Nat → Span → Reader Node
  | 0, _ => malformed
  | fuel + 1, span => do
      if ← skipSymbol .closeParen then pure (.list (← spanFrom span) [])
      else
        let first ← expression fuel
        if (← peek?) = some (.symbol .comma) then
          let items ← listed fuel .closeParen [first]
          pure (.list (← spanFrom span) items)
        else
          expectSymbol .closeParen
          pure first

/-- The items of a list up to its closing symbol; a comma may stand behind the last one. -/
def listed : Nat → Symbol → List Node → Reader (List Node)
  | 0, _, _ => malformed
  | fuel + 1, closing, items => do
      if ← skipSymbol closing then pure items
      else
        if !items.isEmpty then expectSymbol .comma
        if !items.isEmpty && (← skipSymbol closing) then pure items
        else
          let item ← expression fuel
          listed fuel closing (items ++ [item])

def entries : Nat → List (Node × Node) → Reader (List (Node × Node))
  | 0, _ => malformed
  | fuel + 1, given => do
      if ← skipSymbol .closeBrace then pure given
      else
        if !given.isEmpty then expectSymbol .comma
        if !given.isEmpty && (← skipSymbol .closeBrace) then pure given
        else
          let key ← expression fuel
          expectSymbol .colon
          let value ← expression fuel
          entries fuel (given ++ [(key, value)])

end

end Reader

end StagePlan.Expression
