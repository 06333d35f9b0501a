import StagePlan.Expression.Token
import StagePlan.Number.Decimal
import StagePlan.Text.Quoted

namespace StagePlan.Expression

/-!
String and number literals inside markers.
-/

/-- The value of a digit in a radix up to sixteen. -/
def digitIn? (radix : Nat) (c : Char) : Option Nat :=
  let n := c.toNat
  let digit :=
    if 48 ≤ n && n ≤ 57 then n - 48
    else if 97 ≤ n && n ≤ 102 then n - 87
    else if 65 ≤ n && n ≤ 70 then n - 55
    else 16
  if digit < radix then some digit else none

/-- The value of a run of digits that is not empty. -/
def wholeIn? (radix : Nat) (digits : List Char) : Option Nat :=
  if digits.isEmpty then none
  else digits.foldlM (fun (n : Nat) (c : Char) => (digitIn? radix c).map (radix * n + ·)) 0

/-- Everything up to a closing quotation mark, and what follows the mark. A character behind a
backslash does not close the literal. -/
def readQuotedBody? (quote : Char) : List Char → Option (List Char × List Char)
  | [] => none
  | '\\' :: c :: rest => (readQuotedBody? quote rest).map fun (body, rest) => ('\\' :: c :: body, rest)
  | c :: rest =>
      if c = quote then some ([], rest)
      else (readQuotedBody? quote rest).map fun (body, rest) => (c :: body, rest)

/-- The character that a letter behind a backslash stands for. -/
def escaped? (c : Char) : Option Char :=
  if c = '"' || c = '\\' || c = '/' || c = '\x27' then some c
  else if c = 'b' then some '\x08'
  else if c = 'f' then some '\x0c'
  else if c = 'n' then some '\n'
  else if c = 'r' then some '\r'
  else if c = 't' then some '\t'
  else none

def isHighSurrogate (n : Nat) : Bool := 0xD800 ≤ n && n < 0xDC00

def isLowSurrogate (n : Nat) : Bool := 0xDC00 ≤ n && n < 0xE000

/-- The number that the digits of a hexadecimal escape stand for; a plus sign may lead them. -/
def escapeCode? : List Char → Option Nat
  | '+' :: digits => wholeIn? 16 digits
  | digits => wholeIn? 16 digits

/-- The number at the head of a text that has up to `count` further octal digits after the value
`n` of those already read, and what follows it. -/
def readOctal (n : Nat) : (count : Nat) → List Char → Nat × List Char
  | count + 1, c :: rest =>
      match digitIn? 8 c with
      | some digit => readOctal (8 * n + digit) count rest
      | none => (n, c :: rest)
  | _, rest => (n, rest)

/-- What is left after an octal number is no longer than the text it was read from. -/
theorem readOctal_length_le (n count : Nat) (text : List Char) :
    (readOctal n count text).2.length ≤ text.length := by
  fun_induction readOctal n count text with
  | case1 n count c rest digit _ ih => exact Nat.le_succ_of_le ih
  | case2 => exact Nat.le_refl _
  | case3 => exact Nat.le_refl _

/-- The characters of a literal, given its body. An escape with four hexadecimal digits stands for
a character, or for half of one when it is a surrogate; the other half has to follow. An escape
with two hexadecimal digits, or with one to three octal ones, stands for one of the first 256
characters. Any other character keeps the backslash before it. -/
def unescape? : List Char → Option (List Char)
  | [] => some []
  | '\\' :: 'u' :: a :: b :: c :: d :: rest => do
      let n ← escapeCode? [a, b, c, d]
      if isHighSurrogate n then
        match rest with
        | '\\' :: 'u' :: a :: b :: c :: d :: rest =>
            let low ← escapeCode? [a, b, c, d]
            if isLowSurrogate low then
              let tail ← unescape? rest
              pure (Char.ofNat (0x10000 + (n - 0xD800) * 0x400 + (low - 0xDC00)) :: tail)
            else none
        | _ => none
      else if isLowSurrogate n then none
      else (unescape? rest).map (Char.ofNat n :: ·)
  | '\\' :: 'x' :: a :: b :: rest => do
      let n ← escapeCode? [a, b]
      (unescape? rest).map (Char.ofNat n :: ·)
  | '\\' :: c :: rest =>
      if c = 'u' || c = 'x' then none
      else
        match escaped? c with
        | some plain => (unescape? rest).map (plain :: ·)
        | none =>
            match digitIn? 8 c with
            | some digit =>
                let octal := readOctal digit 2 rest
                if octal.1 < 256 then (unescape? octal.2).map (Char.ofNat octal.1 :: ·) else none
            | none => (unescape? rest).map fun tail => '\\' :: c :: tail
  | ['\\'] => none
  | c :: rest => (unescape? rest).map (c :: ·)
termination_by text => text.length
decreasing_by
  all_goals simp only [List.length_cons]
  all_goals try omega
  have := readOctal_length_le digit 2 rest
  omega

/-- How far a number literal has been read. -/
inductive NumberPart where
  | whole
  | otherRadix
  | fraction
  | exponent
  | exponentDigits
  deriving DecidableEq

/-- Whether a text begins with a decimal digit. -/
def beginsWithDigit (text : List Char) : Bool :=
  (text.head?.map Char.isDigit).getD false

/-- The part of a number literal after one more character, if it may contain that character. A
point belongs to the literal only where a digit stands behind it. -/
def NumberPart.next? (radix : Nat) (part : NumberPart) (c : Char) (behind : List Char) :
    Option NumberPart :=
  if c = '.' then if part = .whole && beginsWithDigit behind then some .fraction else none
  else if (c = 'e' || c = 'E') && (part = .whole || part = .fraction) then some .exponent
  else if (c = '+' || c = '-') && part = .exponent then some .exponentDigits
  else if c.isDigit then some (if part = .exponent then .exponentDigits else part)
  else if radix = 16 && part = .otherRadix && (digitIn? 16 c).isSome then some part
  else if c = '_' then some part
  else none

/-- The characters of a number literal, the part in which it ends, and what follows it. -/
def readNumberBody (radix : Nat) (part : NumberPart) : List Char → List Char × NumberPart × List Char
  | [] => ([], part, [])
  | c :: rest =>
      match part.next? radix c rest with
      | some part =>
          let (body, last, rest) := readNumberBody radix part rest
          (c :: body, last, rest)
      | none => ([], part, c :: rest)

/-- The radix that a number literal begins with, and the rest of the literal. -/
def splitRadix : List Char → Nat × List Char
  | '0' :: c :: rest =>
      if c = 'b' || c = 'B' then (2, rest)
      else if c = 'o' || c = 'O' then (8, rest)
      else if c = 'x' || c = 'X' then (16, rest)
      else (10, '0' :: c :: rest)
  | text => (10, text)

/-- The number literal at the head of a text, and what follows it. -/
def readNumber (text : List Char) : Token × List Char :=
  let (radix, digits) := splitRadix text
  let start : NumberPart := if radix = 10 then .whole else .otherRadix
  let (body, last, rest) := readNumberBody radix start digits
  let plain := body.filter (· ≠ '_')
  let token :=
    if body.getLast? = some '_' then .fault .malformed
    else if last = .whole || last = .otherRadix then
      match wholeIn? radix plain with
      | some n => if n < Nat.pow 2 128 then .whole n else .fault .malformed
      | none => .fault .malformed
    else
      match Decimal.ofChars? plain with
      | some d => .decimal (d.toBinary64 false)
      | none => .fault .malformed
  (token, rest)

end StagePlan.Expression
