import StagePlan.Yaml.Scalar

namespace StagePlan.Yaml

/-!
The YAML notation. `document?` reads a stream of at most one document; aliases stand for what they
name.
-/

/-! Aliases. An anchor gets the number of names that are known when it comes up; an alias means what
was anchored last under the number of its name. -/

structure Anchors where
  /-- The number of each name. -/
  numbers : List (List Char × Nat) := []
  /-- For each number the anchored node that had it last, by how many anchored nodes came before. -/
  holders : List (Nat × Nat) := []
  /-- The anchored nodes that have been read to their end. -/
  nodes : List (Nat × Node Nat) := []
  /-- How many anchored nodes there have been. -/
  count : Nat := 0

namespace Anchors

/-- What is anchored under a number. -/
def target? (anchors : Anchors) (number : Nat) : Option (Node Nat) :=
  (anchors.holders.lookup number).bind fun holder => anchors.nodes.lookup holder

/-- Enters the anchor of a node that begins. Gives the place of the node among the anchored ones. -/
def enter (anchor? : Option (List Char)) : StateT Anchors Option (Option Nat) := do
  match anchor? with
  | none => pure none
  | some name =>
      let anchors ← get
      let number := anchors.numbers.length
      set { anchors with
        numbers := (name, number) :: anchors.numbers.filter fun entry => entry.1 ≠ name
        holders := (number, anchors.count) :: anchors.holders
        count := anchors.count + 1 }
      pure (some anchors.count)

/-- Keeps a node that has ended, if it is anchored. -/
def leave (place? : Option Nat) (node : Node Nat) : StateT Anchors Option (Node Nat) := do
  match place? with
  | none => pure ()
  | some place => modify fun anchors => { anchors with nodes := (place, node) :: anchors.nodes }
  pure node

end Anchors

namespace NamedNode

mutual

/-- The node with numbers in place of the names of aliases, all of which must be known. -/
def numbered : NamedNode → StateT Anchors Option (Node Nat)
  | .aliasOf name => do
      match (← get).numbers.lookup name with
      | some number => pure (.aliasOf number)
      | none => failure
  | .scalar properties style text => do
      let place? ← Anchors.enter properties.anchor?
      Anchors.leave place? (.scalar properties style text)
  | .sequence properties items => do
      let place? ← Anchors.enter properties.anchor?
      let items ← numberedItems items
      Anchors.leave place? (.sequence properties items)
  | .mapping properties entries => do
      let place? ← Anchors.enter properties.anchor?
      let entries ← numberedEntries entries
      Anchors.leave place? (.mapping properties entries)

def numberedItems : List NamedNode → StateT Anchors Option (List (Node Nat))
  | [] => pure []
  | item :: rest => do
      let item ← numbered item
      let rest ← numberedItems rest
      pure (item :: rest)

def numberedEntries :
    List (NamedNode × NamedNode) → StateT Anchors Option (List (Node Nat × Node Nat))
  | [] => pure []
  | (key, item) :: rest => do
      let key ← numbered key
      let item ← numbered item
      let rest ← numberedEntries rest
      pure ((key, item) :: rest)

end

end NamedNode

/-! Documents. -/

/-- How deep lists and maps may nest where they are read. -/
def depthLimit : Nat := 128

/-- How many aliases may be followed for every node of a stream. -/
def aliasLimit : Nat := 100

/-- How many nodes and ends of collections a node is made of. -/
def sizeOf : Nat → NamedNode → Nat
  | 0, _ => 1
  | fuel + 1, node =>
      match node with
      | .aliasOf _ | .scalar .. => 1
      | .sequence _ items => 2 + (items.map (sizeOf fuel)).sum
      | .mapping _ entries => 2 + (entries.map fun (key, item) => sizeOf fuel key + sizeOf fuel item).sum

/-- A list or map, marked if it has a tag of the writer's own. -/
def marked (tag? : Option (List Char)) (d : Document) : Document :=
  if (tag?.map isLocalTag).getD false then .named d else d

/-- A node as a document, `depth` being how deep it may nest. An alias takes one of the aliases that
may still be followed. -/
def documentOf (anchors : Anchors) : Nat → Node Nat → StateM Nat Document
  | depth, node => do
      let node? ←
        match node with
        | .aliasOf number => do
            let left ← get
            set (left - 1)
            pure (if left = 0 then none else anchors.target? number)
        | node => pure (some node)
      match node?, depth with
      | some (.scalar properties style text), _ =>
          pure (.scalar (scalarContent properties.tag? style text))
      | some (.sequence properties items), depth + 1 => do
          let items ← items.mapM fun (item : Node Nat) => documentOf anchors depth item
          pure (marked properties.tag? (.list false items))
      | some (.mapping properties entries), depth + 1 => do
          let entries ← entries.mapM fun (entry : Node Nat × Node Nat) => do
            let key ← documentOf anchors depth entry.1
            let item ← documentOf anchors depth entry.2
            pure (key, item)
          pure (marked properties.tag? (.map false entries))
      | _, _ => pure .unreadable

/-- What a stream without a document holds. -/
def nothing : Document :=
  .scalar { value? := some .null, absent := true, empty := true }

/-- The document that a whole text is. -/
def document? (text : String) : Option Document := do
  let tokens ← tokens? text.toList
  match ← NamedNode.ofTokens? tokens with
  | none => some nothing
  | some node =>
      let (numbered, anchors) ← (NamedNode.numbered node).run {}
      let budget := aliasLimit * sizeOf tokens.length node
      some ((documentOf anchors depthLimit numbered).run budget).1

end StagePlan.Yaml
