import StagePlan.Yaml.TokenStream

namespace StagePlan.Yaml

/-!
Nodes of YAML documents, read from tokens.
-/

/-- What may stand in front of a node. -/
structure Properties where
  anchor? : Option (List Char) := none
  tag? : Option (List Char) := none
  deriving Inhabited

/-- A node, whose aliases name other nodes in one way or another. -/
inductive Node (α : Type) where
  | aliasOf (target : α)
  | scalar (properties : Properties) (style : Style) (text : List Char)
  | sequence (properties : Properties) (items : List (Node α))
  | mapping (properties : Properties) (entries : List (Node α × Node α))
  deriving Inhabited

/-- A node whose aliases are names of anchors. -/
abbrev NamedNode := Node (List Char)

namespace NamedNode

/-- What tag handles stand for, and the tokens that are left. -/
structure Source where
  handles : List (List Char × List Char)
  tokens : List Token

abbrev Reader (α : Type) := StateT Source Option α

def fail {α : Type} : Reader α :=
  fun _ => none

def next? : Reader (Option Token) := do
  pure (← get).tokens.head?

def drop : Reader Unit :=
  modify fun s => { s with tokens := s.tokens.drop 1 }

/-- Passes over a token if it comes next. -/
def skip (token : Token) : Reader Bool := do
  if (← next?) = some token then
    drop
    pure true
  else pure false

/-- A node that is left out. -/
def empty : NamedNode :=
  .scalar {} .plain []

/-- Whether one of the given tokens comes next. -/
def ahead (ends : List Token) : Reader Bool := do
  match ← next? with
  | some token => pure (ends.contains token)
  | none => pure false

/-- The tag that a name stands for. -/
def tagOf (name : TagName) : Reader (List Char) := do
  if name.handle.isEmpty then pure name.suffix
  else
    match (← get).handles.lookup name.handle with
    | some meaning => pure (meaning ++ name.suffix)
    | none => fail

def anchor? : Reader (Option (List Char)) := do
  match ← next? with
  | some (.anchor name) =>
      drop
      pure (some name)
  | _ => pure none

def tag? : Reader (Option (List Char)) := do
  match ← next? with
  | some (.tag name) =>
      drop
      pure (some (← tagOf name))
  | _ => pure none

/-- An anchor and a tag in either order. -/
def readProperties : Reader Properties := do
  match ← anchor? with
  | some anchor => pure { anchor? := some anchor, tag? := ← tag? }
  | none =>
      match ← tag? with
      | some tag => pure { anchor? := ← anchor?, tag? := some tag }
      | none => pure {}

mutual

/-- A node. Block collections may be its content where `block` says so, and a sequence as far to
the left as the mapping around it where `flush` does. -/
def readNode : Nat → Bool → Bool → Reader NamedNode
  | 0, _, _ => fail
  | fuel + 1, block, flush => do
      match ← next? with
      | some (.aliasOf name) =>
          drop
          pure (.aliasOf name)
      | _ =>
          let properties ← readProperties
          match ← next? with
          | some .blockEntry =>
              if flush then pure (.sequence properties (← readFlush fuel []))
              else bare properties
          | some (.scalar style text) =>
              drop
              pure (.scalar properties style text)
          | some .openSequence =>
              drop
              pure (.sequence properties (← readFlowItems fuel true []))
          | some .openMapping =>
              drop
              pure (.mapping properties (← readFlowEntries fuel true []))
          | some .blockSequence =>
              if block then
                drop
                pure (.sequence properties (← readBlockItems fuel []))
              else bare properties
          | some .blockMapping =>
              if block then
                drop
                pure (.mapping properties (← readBlockEntries fuel []))
              else bare properties
          | _ => bare properties

/-- A node of which there is nothing but an anchor or a tag. -/
def bare (properties : Properties) : Reader NamedNode :=
  if properties.anchor?.isSome || properties.tag?.isSome then
    pure (.scalar properties .plain [])
  else fail

/-- A node that is left out where one of the given tokens comes next. -/
def readUnless : Nat → List Token → Bool → Bool → Reader NamedNode
  | 0, _, _, _ => fail
  | fuel + 1, ends, block, flush => do
      if ← ahead ends then pure empty else readNode fuel block flush

/-- The items of a block sequence up to its end. -/
def readBlockItems : Nat → List NamedNode → Reader (List NamedNode)
  | 0, _ => fail
  | fuel + 1, found => do
      if ← skip .blockEntry then
        let item ← readUnless fuel [.blockEntry, .blockEnd] true false
        readBlockItems fuel (item :: found)
      else if ← skip .blockEnd then pure found.reverse
      else fail

/-- The items of a sequence that is not indented. -/
def readFlush : Nat → List NamedNode → Reader (List NamedNode)
  | 0, _ => fail
  | fuel + 1, found => do
      if ← skip .blockEntry then
        let item ← readUnless fuel [.blockEntry, .key, .value, .blockEnd] true false
        readFlush fuel (item :: found)
      else pure found.reverse

/-- The entries of a block mapping up to its end. -/
def readBlockEntries :
    Nat → List (NamedNode × NamedNode) → Reader (List (NamedNode × NamedNode))
  | 0, _ => fail
  | fuel + 1, found => do
      let ends := [Token.key, .value, .blockEnd]
      if ← skip .key then
        let key ← readUnless fuel ends true true
        let value ← if ← skip .value then readUnless fuel ends true true else pure empty
        readBlockEntries fuel ((key, value) :: found)
      else if ← skip .blockEnd then pure found.reverse
      else fail

/-- The items of a sequence in brackets. An item with a key is a mapping of one entry. -/
def readFlowItems : Nat → Bool → List NamedNode → Reader (List NamedNode)
  | 0, _, _ => fail
  | fuel + 1, first, found => do
      let separated ← if first then pure true else skip .flowEntry
      if ← skip .closeSequence then pure found.reverse
      else if !separated then fail
      else if ← skip .key then
        let ends := [Token.flowEntry, .closeSequence]
        let key ←
          if ← ahead (.value :: ends) then do
            drop
            pure empty
          else readNode fuel false false
        let value ← if ← skip .value then readUnless fuel ends false false else pure empty
        readFlowItems fuel false (.mapping {} [(key, value)] :: found)
      else
        let item ← readNode fuel false false
        readFlowItems fuel false (item :: found)

/-- The entries of a mapping in braces. A node without a key before it is a key without a value. -/
def readFlowEntries :
    Nat → Bool → List (NamedNode × NamedNode) → Reader (List (NamedNode × NamedNode))
  | 0, _, _ => fail
  | fuel + 1, first, found => do
      let separated ← if first then pure true else skip .flowEntry
      if ← skip .closeMapping then pure found.reverse
      else if !separated then fail
      else if ← skip .key then
        let ends := [Token.flowEntry, .closeMapping]
        let key ← readUnless fuel (.value :: ends) false false
        let value ← if ← skip .value then readUnless fuel ends false false else pure empty
        readFlowEntries fuel false ((key, value) :: found)
      else
        let key ← readNode fuel false false
        readFlowEntries fuel false ((key, empty) :: found)

end

/-! Documents. -/

/-- What the handles stand for that no directive explains. -/
def commonHandles : List (List Char × List Char) :=
  [(['!'], ['!']), (['!', '!'], "tag:yaml.org,2002:".toList)]

/-- Directives: at most one version, which has to be a known one, and at most one meaning for every
handle. Gives the meanings and what follows. -/
def readDirectives :
    Bool → List (List Char × List Char) → List Token →
      Option (List (List Char × List Char) × List Token)
  | seen, handles, .version major minor :: rest =>
      if !seen && major = 1 && (minor = 1 || minor = 2) then readDirectives true handles rest
      else none
  | seen, handles, .tagHandle handle meaning :: rest =>
      if (handles.lookup handle).isSome then none
      else readDirectives seen ((handle, meaning) :: handles) rest
  | _, handles, tokens => some (handles, tokens)

/-- Whether a token belongs to the frame of documents and not to their content. -/
def framesDocument : Token → Bool
  | .version .. | .tagHandle .. | .documentStart | .documentEnd => true
  | _ => false

/-- Whether nothing follows a document but marks of its end. -/
def isOver (tokens : List Token) : Bool :=
  tokens.all (· = .documentEnd)

/-- The node of a stream of at most one document; a stream without tokens has none. -/
def ofTokens? (tokens : List Token) : Option (Option NamedNode) := do
  match tokens with
  | [] => some none
  | first :: _ =>
      let fuel := 4 * tokens.length + 8
      if framesDocument first && first ≠ .documentEnd then
        let (explained, behind) ← readDirectives false [] tokens
        match behind with
        | .documentStart :: content =>
            if (content.head?.map framesDocument).getD true then
              if isOver content then some (some empty) else none
            else
              let (node, rest) ←
                (readNode fuel true false).run ⟨explained ++ commonHandles, content⟩
              if isOver rest.tokens then some (some node) else none
        | _ => none
      else
        let (node, rest) ← (readNode fuel true false).run ⟨commonHandles, tokens⟩
        if isOver rest.tokens then some (some node) else none

end NamedNode

end StagePlan.Yaml
