import StagePlan.Rendering.Failure

namespace StagePlan.Rendering

/-!
Rendering trees, given what becomes of a single string. Lists and maps keep their shape, and a key
is replaced by the text of what it renders to.
-/

/-- What becomes of a string at a place of a tree. -/
abbrev Interpret := List String → String → Except RenderError Value

/-- The text of a value at a place. -/
def textAt (path : List String) (v : Value) : Except RenderError String :=
  match v.text with
  | .ok text => .ok text
  | .error x => .error ⟨.encoding (.nonFinite x), path⟩

/-- The key that a key becomes. -/
def renderKey (interpret : Interpret) (path : List String) (key : String) :
    Except RenderError String :=
  if Markup.hasMarkers key then
    match interpret path key with
    | .ok v => textAt path v
    | .error e => .error e
  else .ok key

mutual

def renderTree (interpret : Interpret) (path : List String) : Value → Except RenderError Value
  | .string source => interpret path source
  | .list items =>
      match renderItems interpret path 0 items with
      | .ok rendered => .ok (.list rendered)
      | .error e => .error e
  | .map entries =>
      match renderEntries interpret path [] entries with
      | .ok rendered => .ok (.map rendered)
      | .error e => .error e
  | v => .ok v

/-- The items of a list from a position on. -/
def renderItems (interpret : Interpret) (path : List String) :
    Nat → List Value → Except RenderError (List Value)
  | _, [] => .ok []
  | position, item :: rest =>
      match renderTree interpret (path ++ [toString position]) item with
      | .error e => .error e
      | .ok rendered =>
          match renderItems interpret path (position + 1) rest with
          | .error e => .error e
          | .ok others => .ok (rendered :: others)

/-- The entries of a map, given the keys of those before them. -/
def renderEntries (interpret : Interpret) (path : List String) :
    List String → List (String × Value) → Except RenderError (List (String × Value))
  | _, [] => .ok []
  | known, (source, item) :: rest =>
      match renderKey interpret (path ++ [source]) source with
      | .error e => .error e
      | .ok key =>
          match renderTree interpret (path ++ [source]) item with
          | .error e => .error e
          | .ok rendered =>
              if known.contains key then .error ⟨.malformed (.duplicateKey key), path⟩
              else
                match renderEntries interpret path (key :: known) rest with
                | .error e => .error e
                | .ok others => .ok ((key, rendered) :: others)

end

end StagePlan.Rendering
