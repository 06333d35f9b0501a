import StagePlan.Yaml.Text

namespace StagePlan.Yaml

/-!
Tokens of YAML streams.
-/

/-- How a scalar is written. -/
inductive Style where
  | plain | quoted | literal | folded
  deriving DecidableEq, Inhabited, Repr

/-- A tag as it is written: a handle, which stands for the beginning of the tag, and the rest. The
handle is empty where the tag is written out. -/
structure TagName where
  handle : List Char
  suffix : List Char
  deriving DecidableEq, Inhabited

inductive Token where
  | version (major minor : Nat)
  /-- What a handle stands for in the document that follows. -/
  | tagHandle (handle meaning : List Char)
  | documentStart
  | documentEnd
  | blockSequence
  | blockMapping
  | blockEnd
  | openSequence
  | closeSequence
  | openMapping
  | closeMapping
  | blockEntry
  | flowEntry
  | key
  | value
  | aliasOf (name : List Char)
  | anchor (name : List Char)
  | tag (name : TagName)
  | scalar (style : Style) (text : List Char)
  deriving DecidableEq, Inhabited

/-! Names of anchors and tags. -/

/-- The name of an anchor or alias behind its mark. -/
def readAnchor (c : Cursor) : Option (List Char × Cursor) :=
  let (name, behind) := (c.advance 1).takeWhile isNameChar
  let ended :=
    match behind.rest with
    | [] => true
    | char :: _ => isGap char || ['?', ':', ',', ']', '\x7d', '%', '@', '`'].contains char
  if name.isEmpty || !ended then none else some (name, behind)

/-- The characters of tags, apart from those of names; some of them only in a tag that is written
out. -/
def isTagChar (verbatim : Bool) (c : Char) : Bool :=
  isNameChar c || ";/?:@&=+$.%!~*\x27()".toList.contains c
    || (verbatim && (c = ',' || c = '[' || c = ']'))

/-- The byte that an escape at the head of a text stands for. -/
def tagByte? : List Char → Option (Nat × List Char)
  | '%' :: a :: b :: rest => do
      let high ← hexValue? a
      let low ← hexValue? b
      some (high * 16 + low, rest)
  | _ => none

/-- How many bytes a character takes whose first byte is given, and what the byte adds to it. -/
def leadByte? (byte : Nat) : Option (Nat × Nat) :=
  if byte < 0x80 then some (1, byte)
  else if byte < 0xC0 then none
  else if byte < 0xE0 then some (2, byte - 0xC0)
  else if byte < 0xF0 then some (3, byte - 0xE0)
  else if byte < 0xF8 then some (4, byte - 0xF0)
  else none

/-- The bytes of a character behind the first one. -/
def trailBytes? : Nat → Nat → List Char → Option (Nat × List Char)
  | 0, n, text => some (n, text)
  | count + 1, n, text => do
      let (byte, rest) ← tagByte? text
      if 0x80 ≤ byte && byte < 0xC0 then trailBytes? count (n * 64 + (byte - 0x80)) rest else none

/-- The characters of a tag, escapes resolved, and what follows. -/
def readTagChars (verbatim : Bool) : Nat → List Char → Option (List Char × List Char)
  | 0, text => some ([], text)
  | fuel + 1, text =>
      match text with
      | [] => some ([], [])
      | '%' :: _ => do
          let (byte, rest) ← tagByte? text
          let (count, start) ← leadByte? byte
          let (n, rest) ← trailBytes? (count - 1) start rest
          let (others, rest) ← readTagChars verbatim fuel rest
          some (Char.ofNat n :: others, rest)
      | c :: rest =>
          if isTagChar verbatim c then
            (readTagChars verbatim fuel rest).map fun (others, rest) => (c :: others, rest)
          else some ([], text)

/-- The characters of a tag at a place, of which there must be at least one. -/
def takeTagChars (verbatim : Bool) (c : Cursor) : Option (List Char × Cursor) := do
  let (chars, rest) ← readTagChars verbatim c.rest.length c.rest
  if chars.isEmpty then none else some (chars, c.advance (c.rest.length - rest.length))

/-- A handle: a mark, a name, and a second mark if there is one. -/
def takeHandle (c : Cursor) : List Char × Cursor :=
  let (name, behind) := (c.advance 1).takeWhile isNameChar
  if behind.headIs '!' then ('!' :: name ++ ['!'], behind.advance 1) else ('!' :: name, behind)

/-- A tag at its mark. -/
def readTag (inFlow : Bool) (c : Cursor) : Option (TagName × Cursor) := do
  let (name, behind) ←
    if c.rest.take 2 == ['!', '<'] then do
      let (suffix, behind) ← takeTagChars true (c.advance 2)
      if behind.headIs '>' then some (TagName.mk [] suffix, behind.advance 1) else none
    else
      let (handle, behind) := takeHandle c
      if handle.length > 1 && handle.getLast? = some '!' then do
        let (suffix, behind) ← takeTagChars false behind
        some (TagName.mk handle suffix, behind)
      else do
        let (chars, rest) ← readTagChars false behind.rest.length behind.rest
        let behind := behind.advance (behind.rest.length - rest.length)
        let suffix := handle.drop 1 ++ chars
        some (if suffix.isEmpty then TagName.mk [] ['!'] else TagName.mk ['!'] suffix, behind)
  if atGap behind.rest || (inFlow && behind.headIs ',') then some (name, behind) else none

/-! Directives. -/

/-- A number of a version, of at most nine digits. -/
def readVersionNumber (c : Cursor) : Option (Nat × Cursor) :=
  let (digits, behind) := c.takeWhile Char.isDigit
  if digits.isEmpty || digits.length > 9 then none
  else some (digits.foldl (fun n d => n * 10 + (d.toNat - '0'.toNat)) 0, behind)

/-- What a directive says behind its name. -/
def readDirectiveValue (name : List Char) (c : Cursor) : Option (Token × Cursor) := do
  let start := c.dropWhile isBlank
  if name = "YAML".toList then
    let (major, point) ← readVersionNumber start
    if !point.headIs '.' then none
    else
      let (minor, behind) ← readVersionNumber (point.advance 1)
      some (.version major minor, behind)
  else if name = "TAG".toList then
    if !start.headIs '!' then none
    else
      let (handle, behind) := takeHandle start
      if handle.getLast? ≠ some '!' || behind.rest.isEmpty
          || !(behind.head?.map isBlank).getD false then none
      else
        let (meaning, ended) ← takeTagChars true (behind.dropWhile isBlank)
        if atGap ended.rest then some (.tagHandle handle meaning, ended) else none
  else none

/-- A directive at its mark, with the rest of its line. -/
def readDirective (c : Cursor) : Option (Token × Cursor) := do
  let (name, behind) := (c.advance 1).takeWhile isNameChar
  if name.isEmpty || !atGap behind.rest then none
  else
    let (token, ended) ← readDirectiveValue name behind
    let blanks := ended.dropWhile isBlank
    let last := if blanks.headIs '#' then blanks.dropLine else blanks
    if (last.head?.map fun char => !isBreak char).getD false then none
    else some (token, last.takeBreak.2)

end StagePlan.Yaml
