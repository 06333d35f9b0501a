import StagePlan.Expression.Reader

namespace StagePlan.Expression

/-!
Reading templates from tokens: text, outputs, and statements with the bodies up to their ends.
-/

namespace Reader

/-- Names behind a name, as in `a.b.c`; the target is an attribute if there are any. -/
def attributeTarget : Nat → Target Span → Node → Reader (Target Span)
  | 0, _, _ => malformed
  | fuel + 1, target, base => do
      if ← skipSymbol .dot then
        let name ← word
        let span ← lastSpan
        attributeTarget fuel (.field span base name) (.field span base name)
      else pure target

/-- A name that is assigned to, with attributes behind it where they are allowed. -/
def namedTarget (fuel : Nat) (attributes : Bool) : Reader (Target Span) := do
  let name ← targetName
  let span ← lastSpan
  if attributes then attributeTarget fuel (.name name) (.variable span name) else pure (.name name)

/-- What is assigned to, in front of `in` or an equals sign: one target, or a list of them when
there are commas. -/
def targets : Nat → (attributes : Bool) → Span → List (Target Span) → Reader (Target Span)
  | 0, _, _, _ => malformed
  | fuel + 1, attributes, span, given => do
      if !given.isEmpty then expectSymbol .comma
      let ended :=
        match ← peek? with
        | some (.symbol .closeParen) | some (.symbol .assign) | some .closeOutput
        | some .closeStatement | some (.word "in") => true
        | _ => false
      if ended then pure (.unpack (← spanFrom span) given)
      else
        let target ←
          if ← skipSymbol .openParen then
            let inner ← targets fuel attributes (← peekSpan) []
            expectSymbol .closeParen
            pure inner
          else namedTarget fuel attributes
        if (← peek?) = some (.symbol .comma) then targets fuel attributes span (given ++ [target])
        else
          match given with
          | [] => pure target
          | _ => pure (.unpack (← spanFrom span) (given ++ [target]))

/-- Filters applied one after the other to the text of a block. -/
def filterChain : Nat → Node → Bool → Reader Node
  | 0, _, _ => malformed
  | fuel + 1, input, started => do
      if (← peek?) = some .closeStatement then
        if started then pure input else malformed
      else
        if started then expectSymbol .bar
        let (name, span) ← dottedName fuel
        let given ← optionalArguments fuel
        filterChain fuel (.filter (← spanFrom span) name input given) true

abbrev Parameters := List (String × Option Node)

/-- The parameters of a macro up to the closing parenthesis. Behind a parameter with a default
every one has to have a default. -/
def parameters : Nat → Parameters → Reader Parameters
  | 0, _ => malformed
  | fuel + 1, given => do
      if ← skipSymbol .closeParen then pure given
      else
        if !given.isEmpty then expectSymbol .comma
        if !given.isEmpty && (← skipSymbol .closeParen) then pure given
        else
          let name ← targetName
          if ← skipSymbol .assign then
            parameters fuel (given ++ [(name, some (← expression fuel))])
          else if given.any fun parameter => parameter.2.isSome then malformed
          else parameters fuel (given ++ [(name, none)])

/-- `with context` or `without context`, which say nothing here. -/
def contextClause : Reader Unit := do
  if (← skipWord "without") || (← skipWord "with") then expectWord "context"

/-- The names that are taken from another template, each with the name it gets here. -/
def importedNames : Nat → List (String × String) → Reader (List (String × String))
  | 0, _ => malformed
  | fuel + 1, given => do
      let ended : Reader Bool := do
        match ← peek? with
        | some .closeStatement | some (.word "with") | some (.word "without") => pure true
        | _ => pure false
      if ← ended then pure given
      else
        if !given.isEmpty then expectSymbol .comma
        if ← ended then pure given
        else
          let name ← targetName
          let bound ← if ← skipWord "as" then targetName else pure name
          importedNames fuel (given ++ [(name, bound)])

/-- A call, which some statements ask for. -/
def callExpression (fuel : Nat) : Reader Node := do
  let node ← expression fuel
  match node with
  | .call .. => pure node
  | _ => malformed

def closeStatement : Reader Unit :=
  expect .closeStatement

mutual

/-- Everything up to a statement that begins with one of the given words, the word itself left in
place, or up to the end of the source. -/
def body : Nat → List String → Reader (List (Statement Span))
  | 0, _ => malformed
  | fuel + 1, ends => do
      match ← next? with
      | none => pure []
      | some (.text chars) => pure (.text chars :: (← body fuel ends))
      | some .openOutput =>
          let value ← expression fuel
          expect .closeOutput
          pure (.emit value.mark value :: (← body fuel ends))
      | some .openStatement =>
          match ← peek? with
          | none => malformed
          | some token =>
              let ended :=
                match token with
                | .word name => ends.contains name
                | _ => false
              if ended then pure []
              else
                let first ← deeper (statement fuel)
                closeStatement
                pure (first :: (← body fuel ends))
      | some _ => malformed

/-- A body up to its one ending word, with that word. -/
def bodyTo : Nat → String → Reader (List (Statement Span))
  | 0, _ => malformed
  | fuel + 1, ending => do
      closeStatement
      let inner ← body fuel [ending]
      let _ ← next?
      pure inner

def statement : Nat → Reader (Statement Span)
  | 0 => malformed
  | fuel + 1 => do
      let keyword ← next?
      let span ← lastSpan
      match keyword with
      | some (.word "for") => loop fuel span
      | some (.word "if") => branch fuel span
      | some (.word "with") =>
          let assignments ← assignments fuel []
          pure (.scoped assignments (← bodyTo fuel "endwith"))
      | some (.word "set") => assignment fuel
      | some (.word "autoescape") =>
          let setting ← expression fuel
          pure (.autoescape span setting (← bodyTo fuel "endautoescape"))
      | some (.word "filter") =>
          let chain ← filterChain fuel (.blockText span) false
          pure (.filterBlock span chain (← bodyTo fuel "endfilter"))
      | some (.word "block") => block fuel span
      | some (.word "extends") => pure (.extendTemplate span (← expression fuel))
      | some (.word "include") =>
          let name ← expression fuel
          contextClause
          let ignoreMissing ← skipWord "ignore"
          if ignoreMissing then
            expectWord "missing"
            contextClause
          pure (.insertTemplate span name ignoreMissing)
      | some (.word "import") =>
          let name ← expression fuel
          expectWord "as"
          let target ← targetName
          contextClause
          pure (.importAs span name (.name target))
      | some (.word "from") =>
          let name ← expression fuel
          expectWord "import"
          let names ← importedNames fuel []
          contextClause
          pure (.importNames span name names)
      | some (.word "macro") =>
          let name ← word
          expectSymbol .openParen
          let given ← parameters fuel []
          pure (.define name given (← macroBody fuel "endmacro"))
      | some (.word "call") =>
          let given ← if ← skipSymbol .openParen then parameters fuel [] else pure []
          let call ← callExpression fuel
          pure (.callBlock span call given (← macroBody fuel "endcall"))
      | some (.word "do") => pure (.run (← callExpression fuel))
      | _ => malformed

def loop : Nat → Span → Reader (Statement Span)
  | 0, _ => malformed
  | fuel + 1, span => do
      let target ← targets fuel false (← peekSpan) []
      expectWord "in"
      let source ← plain fuel
      let filter? ← if ← skipWord "if" then some <$> expression fuel else pure none
      let recursive ← skipWord "recursive"
      closeStatement
      let inner ← body fuel ["endfor", "else"]
      let otherwise ←
        if ← skipWord "else" then bodyTo fuel "endfor"
        else
          let _ ← next?
          pure []
      pure (.loop span span target source filter? recursive inner otherwise)

def branch : Nat → Span → Reader (Statement Span)
  | 0, _ => malformed
  | fuel + 1, span => do
      let test ← plain fuel
      closeStatement
      let yes ← body fuel ["endif", "else", "elif"]
      match ← next? with
      | some (.word "else") => pure (.branch span test yes (← bodyTo fuel "endif"))
      | some (.word "elif") =>
          let inner ← branch fuel (← lastSpan)
          pure (.branch span test yes [inner])
      | _ => pure (.branch span test yes [])

def assignments : Nat → List (Target Span × Node) → Reader (List (Target Span × Node))
  | 0, _ => malformed
  | fuel + 1, given => do
      if (← peek?) = some .closeStatement then pure given
      else
        if !given.isEmpty then expectSymbol .comma
        let target ←
          if ← skipSymbol .openParen then
            let inner ← targets fuel false (← peekSpan) []
            expectSymbol .closeParen
            pure inner
          else pure (.name (← targetName))
        expectSymbol .assign
        let value ← expression fuel
        assignments fuel (given ++ [(target, value)])

/-- The value of an assignment: one expression, or a list of them when there are commas. -/
def assigned : Nat → Reader Node
  | 0 => malformed
  | fuel + 1 => do
      let span ← peekSpan
      let first ← expression fuel
      if (← peek?) = some (.symbol .comma) then
        let items ← assignedTail fuel [first]
        pure (.list (← spanFrom span) items)
      else pure first

def assignedTail : Nat → List Node → Reader (List Node)
  | 0, _ => malformed
  | fuel + 1, items => do
      if ← skipSymbol .comma then
        if (← peek?) = some .closeStatement then pure items
        else assignedTail fuel (items ++ [← expression fuel])
      else pure items

def assignment : Nat → Reader (Statement Span)
  | 0 => malformed
  | fuel + 1 => do
      let grouped := (← peek?) = some (.symbol .openParen)
      let target ← targets fuel true (← peekSpan) []
      let next ← peek?
      if grouped || target.isUnpack then
        expectSymbol .assign
        pure (.set target (← assigned fuel))
      else if next = some .closeStatement then
        pure (.setBlock target none (← bodyTo fuel "endset"))
      else if ← skipSymbol .bar then
        let span ← lastSpan
        let chain ← filterChain fuel (.blockText span) false
        pure (.setBlock target (some chain) (← bodyTo fuel "endset"))
      else
        expectSymbol .assign
        pure (.set target (← assigned fuel))

def block : Nat → Span → Reader (Statement Span)
  | 0, _ => malformed
  | fuel + 1, span => do
      if (← get).inMacro then malformed
      let name ← word
      if name ∈ (← get).blocks then malformed
      modify fun s => { s with blocks := name :: s.blocks }
      let _ ← skipWord "scoped"
      let required ← skipWord "required"
      let inner ← bodyTo fuel "endblock"
      if required && !inner.all Statement.isBlank then malformed
      let made : Statement Span :=
        if required then .missingBlock span name else .block span name inner
      match ← peek? with
      | some (.word again) =>
          if again = name then
            let _ ← next?
            pure made
          else malformed
      | _ => pure made

/-- The body of a macro, in which no blocks may stand. -/
def macroBody : Nat → String → Reader (List (Statement Span))
  | 0, _ => malformed
  | fuel + 1, ending => do
      let outer := (← get).inMacro
      modify fun s => { s with inMacro := true }
      let inner ← bodyTo fuel ending
      modify fun s => { s with inMacro := outer }
      pure inner

end

end Reader

/-- Reads a template. `fuel` bounds how deep readers call each other; between two tokens that is less
than twenty-five. -/
def readStatements (source : List Char) : Except SourceFault (List (Statement Span)) :=
  let placed := tokens source
  match (Reader.body (25 * placed.length + 100) []).run { tokens := placed } with
  | .ok (statements, _) => .ok statements
  | .error fault => .error fault

end StagePlan.Expression
