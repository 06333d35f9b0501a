import StagePlan.Markup.Marker

namespace StagePlan.Markup

/-!
Module tags. A statement marker that begins with the word `module` names a module and arguments; it
is another way to write an output marker that calls the module.
-/

/-- What can be wrong with a module tag. -/
inductive TagFault where
  | noModule
  /-- Something else than arguments follows the module. -/
  | notArguments (module found : String)
  | noValue (module argument : String)
  deriving DecidableEq, Repr

def TagFault.message : TagFault → String
  | .noModule => "module tag expects a module id"
  | .notArguments module found =>
      "module '" ++ module ++ "' expects name=value arguments, found '" ++ found ++ "'"
  | .noValue module argument =>
      "module '" ++ module ++ "' argument '" ++ argument ++ "' has no value"

/-- The name under which expressions call modules. -/
def moduleWord : List Char := "module".toList

/-- What stands before the first closing marker, with or without a minus sign before it, and what
follows the marker. -/
def tagBody? : List Char → Option (List Char × List Char)
  | [] => none
  | c :: text =>
      match Text.dropPiece? ('-' :: closeStatement) (c :: text) with
      | some rest => some ([], rest)
      | none =>
          match Text.dropPiece? closeStatement (c :: text) with
          | some rest => some ([], rest)
          | none => (tagBody? text).map fun (body, rest) => (c :: body, rest)

/-- The body of a module tag at the head of a text, and what follows the tag. -/
def tagAt? (text : List Char) : Option (List Char × List Char) := do
  let inner ← Text.dropPiece? openStatement text
  let behind ← Text.dropPiece? moduleWord (Text.trimStart (dropMinus inner))
  match behind with
  | c :: rest => if Text.isBlank c then tagBody? rest else none
  | [] => none

def isNameStart (c : Char) : Bool :=
  c.isAlpha || c = '_'

def isNameChar (c : Char) : Bool :=
  c.isAlphanum || c = '_'

def separates (c : Char) : Bool :=
  Text.isBlank c || c = ','

/-- A name with an equals sign behind it at the head of a text, and what follows the sign. A
comparison is not an argument. -/
def argumentAt? : List Char → Option (List Char × List Char)
  | [] => none
  | c :: text =>
      if isNameStart c then
        let (tail, behind) := text.span isNameChar
        match Text.trimStart behind with
        | '=' :: '=' :: _ => none
        | '=' :: rest => some (c :: tail, rest)
        | _ => none
      else none

/-- Cuts a text at the arguments that begin in it: what stands before the first one, and each
argument with the text up to the next one. `free` says whether an argument may begin here. -/
def cutArguments : Nat → Bool → List Char → List Char × List (List Char × List Char)
  | 0, _, text => (text, [])
  | _ + 1, _, [] => ([], [])
  | fuel + 1, free, c :: text =>
      match if free then argumentAt? (c :: text) else none with
      | some (name, rest) =>
          let (value, others) := cutArguments fuel false rest
          ([], (name, value) :: others)
      | none =>
          let (before, others) := cutArguments fuel (separates c) text
          (c :: before, others)

/-- The text of an argument's value without the blanks and commas that separate it. -/
def argumentValue (text : List Char) : List Char :=
  Text.trim (Text.trimEndBy (· = ',') (Text.trim text))

/-- Backslashes and quotation marks written for a string literal. -/
def escapeLiteral (text : List Char) : List Char :=
  text.flatMap fun c => if c = '\\' || c = '"' then ['\\', c] else [c]

def argumentTexts (module : List Char) :
    List (List Char × List Char) → Except TagFault (List Char)
  | [] => .ok []
  | (name, text) :: rest =>
      let value := argumentValue text
      if value.isEmpty then .error (.noValue (String.ofList module) (String.ofList name))
      else
        match argumentTexts module rest with
        | .ok others => .ok (',' :: ' ' :: name ++ '=' :: value ++ others)
        | .error fault => .error fault

/-- The call that a module tag with the given body stands for. -/
def moduleCall (body : List Char) : Except TagFault (List Char) :=
  let (first, behind) := (Text.trim body).span fun c => !separates c
  let module := Text.trimBy (fun c => c = '\x27' || c = '"') first
  let rest := behind.drop 1
  if module.isEmpty then .error .noModule
  else
    let (leading, arguments) := cutArguments (rest.length + 1) true rest
    if !(Text.trimBy separates leading).isEmpty then
      .error (.notArguments (String.ofList module) (String.ofList (Text.trim leading)))
    else
      match argumentTexts module arguments with
      | .ok texts => .ok (moduleWord ++ '(' :: '"' :: escapeLiteral module ++ '"' :: texts ++ [')'])
      | .error fault => .error fault

/-- Writes the call for every module tag of a text; `fuel` bounds the length of the text. -/
def expandFrom : Nat → List Char → Except TagFault (List Char)
  | 0, text => .ok text
  | _ + 1, [] => .ok []
  | fuel + 1, c :: text =>
      match tagAt? (c :: text) with
      | some (body, rest) =>
          match moduleCall body with
          | .error fault => .error fault
          | .ok call =>
              (expandFrom fuel rest).map fun others =>
                openOutput ++ ' ' :: call ++ ' ' :: closeOutput ++ others
      | none => (expandFrom fuel text).map (c :: ·)

/-- A text with an output marker in place of every module tag. -/
def expandTags (text : List Char) : Except TagFault (List Char) :=
  expandFrom (text.length + 1) text

end StagePlan.Markup
