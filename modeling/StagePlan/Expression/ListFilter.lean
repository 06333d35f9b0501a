import StagePlan.Expression.TextFilter

namespace StagePlan.Expression.ListFilter

/-!
Filters over the items of a value.
-/

open Arguments TextFilter

/-- The order in which items are sorted. Texts compare without regard to the case of ASCII letters
unless asked to. -/
def sortOrder (caseSensitive : Bool) (a b : Dynamic) : Ordering :=
  match a.string?, b.string? with
  | some s, some t =>
      if caseSensitive then Ord.compare s t else Ord.compare s.toLower t.toLower
  | _, _ => a.compare b

/-- An order, or the one the other way round. -/
def directed {α : Type} (reverse : Bool) (order : α → α → Ordering) (a b : α) : Ordering :=
  if reverse then order b a else order a b

/-- Sorts a list, keeping items that are equal in the order in which they stand. -/
def sorted {α : Type} (order : α → α → Ordering) (items : List α) : List α :=
  items.mergeSort fun a b => order a b != .gt

/-- The items of a value that is to become a list. -/
def listItems (v : Dynamic) : Except Fault (List Dynamic) :=
  match v.iterate with
  | .ok items => .ok items
  | .error _ => .error .operation

def length (v : Dynamic) : Except Fault Dynamic :=
  match v.length? with
  | some n => .ok (.int n)
  | none => .error .operation

def pairs? : Dynamic → Option (List (Dynamic × Dynamic))
  | .map _ entries _ => some entries
  | _ => none

def pairItems (entries : List (Dynamic × Dynamic)) : List Dynamic :=
  entries.map fun entry => .list [entry.1, entry.2]

def items (v : Dynamic) : Except Fault Dynamic :=
  match pairs? v with
  | some entries => .ok (.stream (pairItems entries))
  | none => .error .operation

/-- The entries of a map as pairs, in the order of their keys or values. -/
def dictsort : Applied := fun input given => do
  let (plain, named) := splitNamed given
  let v ← take (required asAny) (input :: plain)
  match pairs? v with
  | none => .error .operation
  | some entries =>
      let order? ← Arguments.named "by" asString named
      let caseSensitive := (← Arguments.named "case_sensitive" asBool named).getD false
      let reverse := (← Arguments.named "reverse" asBool named).getD false
      let () ← onlyNamed ["by", "case_sensitive", "reverse"] named
      let key (entry : Dynamic × Dynamic) : Dynamic :=
        if order? = some "value" then entry.2 else entry.1
      let order (a b : Dynamic × Dynamic) : Ordering := sortOrder caseSensitive (key a) (key b)
      .ok (.list (pairItems (sorted (directed reverse order) entries)))

/-- The texts of the items with a separator between them. Empty ones at the start are left out. -/
def joined (separator : String) (items : List Dynamic) : String :=
  separator.intercalate ((items.map Dynamic.shown).dropWhile String.isEmpty)

def join : Applied := fun input given =>
  take (do
    let v ← required asAny
    let separator? ← optional asText
    if v.isUndefined || v.isNone then pure (.text "")
    else
      match v.items? with
      | some items => pure (.text (joined (separator?.getD "") items))
      | none => throw .operation)
    (input :: given)

def attr : Applied := fun input given =>
  take (do
    let v ← required asAny
    let key ← required asAny
    match v.item key with
    | .ok found => pure found
    | .error fault => throw fault)
    (input :: given)

def first (v : Dynamic) : Except Fault Dynamic :=
  match v with
  | .undefined _ | .none => .error .operation
  | v =>
      match v.items? with
      | some items => .ok (items.head?.getD (.undefined false))
      | none => .error .operation

def last (v : Dynamic) : Except Fault Dynamic :=
  match v with
  | .string text _ =>
      .ok ((text.toList.getLast?.map fun c => Dynamic.chars [c]).getD (.undefined false))
  | .sequence _ items _ => .ok (items.getLast?.getD (.undefined false))
  | _ => .error .operation

def reverse (v : Dynamic) : Except Fault Dynamic :=
  match v with
  | .undefined _ | .none => .ok v
  | .string text _ => .ok (.chars text.toList.reverse)
  | .sequence _ items _ => .ok (.stream items.reverse)
  | .map _ entries _ => .ok (.stream (entries.map (·.1)).reverse)
  | _ => .error .operation

/-- What an item is sorted by: an attribute, or a list of them where there are commas. -/
def sortKey (wanted : String) (item : Dynamic) : Except Fault Dynamic :=
  match Text.splitOn [','] wanted.toList with
  | [_] => item.follow wanted
  | paths => do
      let keys ← paths.mapM fun (path : List Char) => item.follow (String.ofList (Text.trim path))
      .ok (.list keys)

/-- The order by attributes, where they can be followed in both items. -/
def attributeOrder (wanted : String) (caseSensitive : Bool) (a b : Dynamic) : Ordering :=
  match sortKey wanted a, sortKey wanted b with
  | .ok a, .ok b => sortOrder caseSensitive a b
  | _, _ => .eq

def sort : Applied := fun input given => do
  let (plain, named) := splitNamed given
  let v ← take (required asAny) (input :: plain)
  let items ← listItems v
  let caseSensitive := (← Arguments.named "case_sensitive" asBool named).getD false
  let wanted? ← Arguments.named "attribute" asString named
  let reverse := (← Arguments.named "reverse" asBool named).getD false
  let () ← onlyNamed ["case_sensitive", "attribute", "reverse"] named
  let order :=
    match wanted? with
    | some wanted => attributeOrder wanted caseSensitive
    | none => sortOrder caseSensitive
  .ok (.list (sorted (directed reverse order) items))

/-- Keeps the first of the items that are equal in `view`. -/
def distinctBy (view : Dynamic → Dynamic) (seen : List Dynamic) : List Dynamic → List Dynamic
  | [] => []
  | item :: rest =>
      let key := view item
      if seen.any fun other => other.compare key == .eq then distinctBy view seen rest
      else item :: distinctBy view (key :: seen) rest

def lowered : Dynamic → Dynamic
  | .string text _ => .chars (Text.lower text.toList)
  | v => v

def unique : Applied := fun input given => do
  let (plain, named) := splitNamed given
  let v ← take (required asAny) (input :: plain)
  let path? ← Arguments.named "attribute" asString named
  let caseSensitive := (← Arguments.named "case_sensitive" asBool named).getD false
  let () ← onlyNamed ["attribute", "case_sensitive"] named
  let items ← v.iterate
  let view (item : Dynamic) : Dynamic :=
    let key :=
      match path? with
      | none => item
      | some path =>
          match item.follow path with
          | .ok found => found
          | .error _ => .undefined false
    if caseSensitive then key else lowered key
  .ok (.list (distinctBy view [] items))

/-- The lengths of `count` stretches of `total` items, the longer ones first. -/
def evenLengths (total count : Nat) : List Nat :=
  (List.range count).map fun index => total / count + if index < total % count then 1 else 0

/-- Cuts a list into stretches of the given lengths. -/
def cutLengths {α : Type} : List Nat → List α → List (List α)
  | [], _ => []
  | length :: rest, items => items.take length :: cutLengths rest (items.drop length)

def slice : Applied := fun input given =>
  take (do
    let v ← required asAny
    let count ← required asCount
    let filler? ← optional asAny
    if count = 0 then throw .operation
    match v.iterate with
    | .error fault => throw fault
    | .ok items =>
        let extra := items.length % count
        let parts := cutLengths (evenLengths items.length count) items
        let parts :=
          match filler? with
          | none => parts
          | some filler => parts.mapIdx fun index part =>
              if extra ≤ index then part ++ [filler] else part
        pure (.list (parts.map .list)))
    (input :: given)

/-- Cuts a list into stretches of one length; the last one may be shorter. -/
def chunks {α : Type} (size : Nat) : Nat → List α → List (List α)
  | 0, _ => []
  | _ + 1, [] => []
  | fuel + 1, items => items.take size :: chunks size fuel (items.drop size)

def batch : Applied := fun input given =>
  take (do
    let v ← required asAny
    let size ← required asCount
    let filler? ← optional asAny
    if size = 0 then throw .operation
    match v.iterate with
    | .error fault => throw fault
    | .ok items =>
        let parts := chunks size items.length items
        let parts :=
          match filler? with
          | none => parts
          | some filler => parts.map fun (part : List Dynamic) => part ++ List.replicate (size - part.length) filler
        pure (.list (parts.map .list)))
    (input :: given)

def sum (v : Dynamic) : Except Fault Dynamic := do
  let items ← v.iterate
  items.foldlM
    (fun (total : Dynamic) (item : Dynamic) =>
      if item.isUndefined then .ok total
      else if item.kind = .number then Dynamic.add total item
      else .error .operation)
    (.int 0)

/-- Groups neighbours whose keys are equal. The key of a group is that of its last item. -/
def groupNeighbours (same : Dynamic → Dynamic → Bool) :
    List (Dynamic × Dynamic) → List (Dynamic × List Dynamic)
  | [] => []
  | (key, item) :: rest =>
      match groupNeighbours same rest with
      | [] => [(key, [item])]
      | (other, members) :: groups =>
          if same key other then (other, item :: members) :: groups
          else (key, [item]) :: (other, members) :: groups

def groupby : Applied := fun input given => do
  let (plain, named) := splitNamed given
  let (v, path?) ← take (do
    let v ← required asAny
    let path? ← optional asString
    pure (v, path?)) (input :: plain)
  let fallback := (← Arguments.named "default" asAny named).getD (.undefined false)
  let caseSensitive := (← Arguments.named "case_sensitive" asBool named).getD false
  let path ←
    match path? with
    | some path => .ok path
    | none =>
        match ← Arguments.named "attribute" asString named with
        | some path => .ok path
        | none => .error .operation
  let items ←
    match v.items? with
    | some items => .ok items
    | none => .error .operation
  let () ← onlyNamed ["default", "case_sensitive", "attribute"] named
  let keyed := items.map fun item =>
    let key :=
      match item.follow path with
      | .ok (.undefined _) => fallback
      | .ok key => key
      | .error _ => fallback
    (key, item)
  let inOrder := sorted (fun a b => sortOrder caseSensitive a.1 b.1) keyed
  let groups := groupNeighbours (fun a b => sortOrder caseSensitive a b == .eq) inOrder
  .ok (.stream (groups.map fun group => .sequence .grouped [group.1, .list group.2] .fresh))

/-- One map with the entries of several, in the order of their keys. Of two under one key the last
one counts. -/
def merged (maps : List (List (Dynamic × Dynamic))) : Dynamic :=
  let entries := maps.flatten.foldl
    (fun (entries : List (Dynamic × Dynamic)) entry => Dynamic.insertEntry entry.1 entry.2 entries)
    []
  .map .entries (sorted (fun a b => a.1.compare b.1) entries) .fresh

/-- Maps become one map, lists one list, and anything else one stream. What has no items gives an
invalid one. -/
def chain : Applied := fun input given =>
  let all := input :: given
  match all.mapM pairs? with
  | some maps => .ok (merged maps)
  | none =>
      let items := all.flatMap fun v => v.items?.getD [.invalid]
      .ok (if all.all fun v => decide (v.kind = .list) then .list items else .unsized items)

/-- Lists of the items at the same position, as long as every list has one. -/
def zipped : Nat → List (List Dynamic) → List Dynamic
  | 0, _ => []
  | fuel + 1, lists =>
      let heads := lists.filterMap List.head?
      if heads.length < lists.length then []
      else .list heads :: zipped fuel (lists.map (List.drop 1))

def zip : Applied := fun input given => do
  let lists ← (input :: given).mapM fun (v : Dynamic) =>
    match v.items? with
    | some items => Except.ok items
    | none => Except.error Fault.operation
  .ok (.unsized (zipped input.items?.toList.flatten.length lists))

/-- The attribute of every item, with a default for those that lack it. -/
def mapAttribute (named : List (Dynamic × Dynamic)) (path v : Dynamic) :
    Except Fault Dynamic := do
  let items ← v.iterate
  let fallback? := Dynamic.lookup? (.text "default") named
  let result ← items.mapM fun (item : Dynamic) =>
    let found :=
      match path.string? with
      | some path => item.follow path
      | none => item.item path
    match found, fallback? with
    | .ok (.undefined silent), other? => Except.ok (other?.getD (.undefined silent))
    | .ok found, _ => Except.ok found
    | .error fault, none => Except.error fault
    | .error fault, some other => if other.isUndefined then Except.error fault else .ok other
  let () ← onlyNamed ["attribute", "default"] named
  .ok (.list result)

/-- The filters of this family by name. -/
def find? (name : String) : Option Applied :=
  match name with
  | "length" | "count" => some (single asAny length)
  | "items" => some (single asAny items)
  | "dictsort" => some dictsort
  | "join" => some join
  | "attr" => some attr
  | "first" => some (single asAny first)
  | "last" => some (single asAny last)
  | "list" => some (single asAny fun v => (listItems v).map .list)
  | "reverse" => some (single asAny reverse)
  | "sort" => some sort
  | "unique" => some unique
  | "slice" => some slice
  | "batch" => some batch
  | "sum" => some (single asAny sum)
  | "groupby" => some groupby
  | "chain" => some chain
  | "zip" => some zip
  | _ => none

end StagePlan.Expression.ListFilter
