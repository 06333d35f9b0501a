import StagePlan.Expression.Arguments
import StagePlan.Number.Places

namespace StagePlan.Expression.Format

/-!
Format strings: text with directives in it, each of which stands for an argument. A directive is a
percent sign, an optional name in parentheses, flags, a width, a precision and a letter.
-/

/-- How a directive lays its argument out. -/
structure Layout where
  /-- Blanks go behind the text. -/
  left : Bool := false
  /-- Numbers are filled up with zeros. -/
  zeros : Bool := false
  /-- A plus sign stands before numbers that are not negative. -/
  plus : Bool := false
  /-- A blank stands there. -/
  blank : Bool := false
  /-- The radix is shown, and zeros behind the point are kept. -/
  alternate : Bool := false
  width : Nat := 0
  precision? : Option Nat := none

structure Directive where
  name? : Option String
  layout : Layout
  letter : Char

inductive Piece where
  | text (chars : List Char)
  | directive (d : Directive)

/-- The layout with one more flag, if a character is one. -/
def Layout.flag? (layout : Layout) : Char → Option Layout
  | '-' => some { layout with left := true }
  | '0' => some { layout with zeros := true }
  | '+' => some { layout with plus := true }
  | ' ' => some { layout with blank := true }
  | '#' => some { layout with alternate := true }
  | _ => none

/-- The layout with the flags at the head of a text, and what follows them. -/
def readFlags (layout : Layout) : List Char → Layout × List Char
  | [] => (layout, [])
  | c :: rest =>
      match layout.flag? c with
      | some layout => readFlags layout rest
      | none => (layout, c :: rest)

/-- The name in parentheses at the head of a text, if there is one, and what follows it. -/
def readName? : List Char → Option (Option String × List Char)
  | '(' :: rest =>
      match rest.span (· ≠ ')') with
      | (name, _ :: rest) => some (some (String.ofList name), rest)
      | (_, []) => none
  | text => some (none, text)

/-- Letters for the size of a number, which say nothing here. -/
def isSizeLetter (c : Char) : Bool := c = 'h' || c = 'l' || c = 'L'

/-- The directive behind a percent sign, and what follows it. -/
def readDirective? (text : List Char) : Option (Directive × List Char) := do
  let (name?, text) ← readName? text
  let (layout, text) := readFlags {} text
  let (width, text) := Decimal.takeDigits text
  let (precision?, text) :=
    match text with
    | '.' :: text =>
        let (digits, text) := Decimal.takeDigits text
        (some (Decimal.digitsValue digits), text)
    | text => (none, text)
  match text.dropWhile isSizeLetter with
  | [] => none
  | letter :: rest =>
      let layout := { layout with width := Decimal.digitsValue width, precision? }
      some (⟨name?, layout, letter⟩, rest)

/-- The pieces of a format string. Every piece takes at least one character, so `fuel` above the
length of the text never runs out. -/
def readPieces? : Nat → List Char → Option (List Piece)
  | 0, _ => none
  | _ + 1, [] => some []
  | fuel + 1, '%' :: text => do
      let (d, rest) ← readDirective? text
      let pieces ← readPieces? fuel rest
      some (.directive d :: pieces)
  | fuel + 1, text =>
      let (plain, rest) := text.span (· ≠ '%')
      (readPieces? fuel rest).map (.text plain :: ·)

def pieces? (text : List Char) : Option (List Piece) :=
  readPieces? (text.length + 1) text

/-- How wide a directive may be. -/
def widthLimit : Nat := 100000000

/-- Fills a text up to the width, which counts bytes. -/
def Layout.fill (layout : Layout) (text : List Char) : List Char :=
  let missing := layout.width - (String.ofList text).utf8ByteSize
  let blanks := List.replicate missing ' '
  if layout.left then text ++ blanks else blanks ++ text

/-- A number with its sign, the zeros that fill it up standing behind the sign. -/
def Layout.signed (layout : Layout) (negative : Bool) (mark digits : List Char) : List Char :=
  let sign :=
    if negative then ['-'] else if layout.plus then ['+'] else if layout.blank then [' '] else []
  let lead := sign ++ mark
  if layout.zeros && !layout.left then
    lead ++ List.replicate (layout.width - lead.length - digits.length) '0' ++ digits
  else layout.fill (lead ++ digits)

/-- A whole number in a radix. -/
def Layout.whole (layout : Layout) (radix : Nat) (mark : String) (n : Int) : List Char :=
  layout.signed (decide (n < 0)) (if layout.alternate then mark.toList else [])
    (Nat.toDigits radix n.natAbs)

/-- A double, laid out by `make` if it is finite. -/
def Layout.double (layout : Layout) (make : Binary64 → List Char) (x : Binary64) : List Char :=
  if x.isFinite then layout.signed x.isNegative [] (make x)
  else
    let word := if x.isNaN then "nan" else "inf"
    { layout with zeros := false }.signed (x.isNegative && !x.isNaN) [] word.toList

/-- The places behind the point where none are asked for. -/
def standardPlaces : Nat := 6

def upperCase (text : List Char) : List Char :=
  text.map Char.toUpper

/-- The double that a number is. -/
def numberAsDouble : Dynamic → Except Fault Binary64
  | .int n => .ok (Binary64.ofInt n)
  | .float x => .ok x
  | v => .error (if v.isMissing then .undefined else .operation)

def asInteger : Dynamic → Except Fault Int
  | .int n => .ok n
  | v => .error (if v.isMissing then .undefined else .operation)

/-- A character, given as itself or by its number. -/
def asCharacter (v : Dynamic) : Except Fault Char :=
  match v with
  | .int n =>
      if h : 0 ≤ n ∧ Nat.isValidChar n.toNat then .ok (Char.ofNatAux n.toNat h.2)
      else .error .operation
  | .string text _ =>
      match text.toList with
      | [c] => .ok c
      | _ => .error .operation
  | v => .error (if v.isMissing then .undefined else .operation)

/-- The text that a directive makes of its argument. -/
def Directive.apply (d : Directive) (v : Dynamic) : Except Fault (List Char) := do
  let layout := d.layout
  let places := layout.precision?.getD standardPlaces
  let general (x : Binary64) : List Char :=
    Decimal.withDigits x (max 1 places) layout.alternate
  match d.letter with
  | 'd' | 'i' | 'u' => .ok (layout.whole 10 "" (← asInteger v))
  | 'x' => .ok (layout.whole 16 "0x" (← asInteger v))
  | 'X' => .ok (upperCase (layout.whole 16 "0x" (← asInteger v)))
  | 'o' => .ok (layout.whole 8 "0o" (← asInteger v))
  | 'f' => .ok (layout.double (Decimal.withPlaces · places) (← numberAsDouble v))
  | 'F' => .ok (upperCase (layout.double (Decimal.withPlaces · places) (← numberAsDouble v)))
  | 'e' => .ok (layout.double (Decimal.scientific · places) (← numberAsDouble v))
  | 'E' => .ok (upperCase (layout.double (Decimal.scientific · places) (← numberAsDouble v)))
  | 'g' => .ok (layout.double general (← numberAsDouble v))
  | 'G' => .ok (upperCase (layout.double general (← numberAsDouble v)))
  | 'c' => .ok (layout.fill [← asCharacter v])
  | 's' =>
      let text := v.shown.toList
      .ok (layout.fill
        (match layout.precision? with
        | some count => text.take count
        | none => text))
  | _ => .error .operation

/-- Puts arguments in the places of directives, the unnamed ones in turn. An argument may not be
missing, and none may be left over. -/
def fillIn (named? : String → Option Dynamic) :
    List Piece → List Dynamic → Except Fault (List Char)
  | [], given => if given.isEmpty then .ok [] else .error .operation
  | .text chars :: rest, given => do
      .ok (chars ++ (← fillIn named? rest given))
  | .directive d :: rest, given =>
      if widthLimit < max d.layout.width (d.layout.precision?.getD 0) then .error .operation
      else if d.letter = '%' then do
        .ok ('%' :: (← fillIn named? rest given))
      else
        match d.name?, given with
        | some name, given =>
            match named? name with
            | some v => do
                let text ← d.apply v
                .ok (text ++ (← fillIn named? rest given))
            | none => .error .operation
        | none, v :: given => do
            let text ← d.apply v
            .ok (text ++ (← fillIn named? rest given))
        | none, [] => .error .operation

/-- Whether a piece asks for its argument by name. -/
def Piece.isNamed : Piece → Bool
  | .directive d => d.name?.isSome
  | .text _ => false

/-- Fills a format string in with positional or with named arguments. Names may also be looked up in
a map that is the only positional argument. -/
def format (text : String) (positional : List Dynamic) (named : List (Dynamic × Dynamic)) :
    Except Fault String :=
  match pieces? text.toList with
  | none => .error .operation
  | some pieces =>
      if !positional.isEmpty && !named.isEmpty then .error .operation
      else
        let (entries, positional) :=
          match positional with
          | [.map _ entries _] =>
              if pieces.any Piece.isNamed then (entries, []) else (named, positional)
          | _ => (named, positional)
        let lookUp (name : String) : Option Dynamic := Dynamic.lookup? (.text name) entries
        (fillIn lookUp pieces positional).map String.ofList

end StagePlan.Expression.Format
