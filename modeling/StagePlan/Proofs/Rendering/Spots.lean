import StagePlan.Rendering.Tree

namespace StagePlan.Rendering

/-!
Where in a tree a rendering can fail. A spot is told by the steps that lead to it: the positions of
items, and the keys of entries as they are written.
-/

variable {interpret : Interpret} {place : List String} {e : RenderError}

/-- A string, a key, or a map whose keys are compared. -/
inductive Spot where
  | text (source : String)
  | key (source : String)
  | keys (entries : List (String × Value))

/-- The steps from a tree to a spot in it. -/
inductive Leads : Value → List String → Spot → Prop
  | text (source : String) : Leads (.string source) [] (.text source)
  | keys (entries : List (String × Value)) : Leads (.map entries) [] (.keys entries)
  | key {entries : List (String × Value)} {source : String} {item : Value}
      (listed : (source, item) ∈ entries) : Leads (.map entries) [source] (.key source)
  | item {items : List Value} {i : Nat} {item : Value} {steps : List String} {spot : Spot}
      (found : items[i]? = some item) (further : Leads item steps spot) :
      Leads (.list items) (toString i :: steps) spot
  | value {entries : List (String × Value)} {source : String} {item : Value}
      {steps : List String} {spot : Spot} (listed : (source, item) ∈ entries)
      (further : Leads item steps spot) : Leads (.map entries) (source :: steps) spot

/-- What is wrong with a spot at a place: its string or key has no rendering, or two of its keys have
the same. -/
def FailsAt (interpret : Interpret) (place : List String) (e : RenderError) : Spot → Prop
  | .text source => interpret place source = .error e
  | .key source => renderKey interpret place source = .error e
  | .keys entries =>
      ∃ first second key, [first, second].Sublist entries ∧
        renderKey interpret (place ++ [first.1]) first.1 = .ok key ∧
        renderKey interpret (place ++ [second.1]) second.1 = .ok key ∧
        e = ⟨.malformed (.duplicateKey key), place⟩

end StagePlan.Rendering
