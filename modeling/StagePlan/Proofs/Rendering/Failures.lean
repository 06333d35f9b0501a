import StagePlan.Proofs.Rendering.LiteralTrees

namespace StagePlan

open Rendering

/-!
What is wrong with a tree, in the order of the document. Here every string and every key is looked at
by itself, and every key is held against all keys before it, whatever else has failed by then. The
first of these failures is the one that a rendering fails with. A rendering without failures keeps
the shape of the tree.
-/

namespace Rendering

variable {interpret : Interpret} {path : List String} {e : RenderError}

/-- The failure of a result, if it is one. -/
def failure? {α : Type} : Except RenderError α → Option RenderError
  | .error e => some e
  | .ok _ => none

/-- The texts of those keys that have one. -/
def keyTexts (interpret : Interpret) (path sources : List String) : List String :=
  sources.filterMap fun source => (renderKey interpret (path ++ [source]) source).toOption

/-- The failure of a key with the text of an earlier one. -/
def repetition? (interpret : Interpret) (path earlier : List String) (source : String) :
    Option RenderError :=
  match renderKey interpret (path ++ [source]) source with
  | .error _ => none
  | .ok key =>
      if key ∈ keyTexts interpret path earlier then some ⟨.malformed (.duplicateKey key), path⟩
      else none

mutual

/-- All failures of a tree. -/
def failures (interpret : Interpret) (path : List String) : Value → List RenderError
  | .string source => (failure? (interpret path source)).toList
  | .list items => itemFailures interpret path 0 items
  | .map entries => entryFailures interpret path [] entries
  | _ => []

/-- The failures of the items of a list from a position on. -/
def itemFailures (interpret : Interpret) (path : List String) :
    Nat → List Value → List RenderError
  | _, [] => []
  | position, item :: rest =>
      failures interpret (path ++ [toString position]) item ++
        itemFailures interpret path (position + 1) rest

/-- The failures of the entries of a map behind the earlier keys. -/
def entryFailures (interpret : Interpret) (path : List String) :
    List String → List (String × Value) → List RenderError
  | _, [] => []
  | earlier, (source, item) :: rest =>
      (failure? (renderKey interpret (path ++ [source]) source)).toList ++
        failures interpret (path ++ [source]) item ++
        (repetition? interpret path earlier source).toList ++
        entryFailures interpret path (earlier ++ [source]) rest

end

@[simp] theorem failure?_eq_some {α : Type} {result : Except RenderError α} :
    failure? result = some e ↔ result = .error e := by
  cases result <;> simp [failure?]

theorem mem_keyTexts_concat {earlier : List String} {source key text : String}
    (named : renderKey interpret (path ++ [source]) source = .ok key) :
    text ∈ keyTexts interpret path (earlier ++ [source]) ↔
      text = key ∨ text ∈ keyTexts interpret path earlier := by
  simp [keyTexts, named, Except.toOption, or_comm, eq_comm]

mutual

/-- A rendering fails with the first failure of the tree. Induction on the tree. -/
theorem failure?_renderTree (interpret : Interpret) (path : List String) :
    ∀ v : Value, failure? (renderTree interpret path v) = (failures interpret path v).head?
  | .string source => by rw [renderTree, failures, Option.head?_toList]
  | .list items => by
      rw [renderTree, failures, ← failure?_renderItems]
      cases renderItems interpret path 0 items <;> rfl
  | .map entries => by
      have none_known : ∀ key, key ∈ ([] : List String) ↔ key ∈ keyTexts interpret path [] := by
        simp [keyTexts]
      rw [renderTree, failures, ← failure?_renderEntries interpret path [] [] none_known]
      cases renderEntries interpret path [] entries <;> rfl
  | .null => by simp [renderTree, failures, failure?]
  | .bool _ => by simp [renderTree, failures, failure?]
  | .number _ => by simp [renderTree, failures, failure?]

theorem failure?_renderItems (interpret : Interpret) (path : List String) :
    ∀ (position : Nat) (items : List Value),
      failure? (renderItems interpret path position items) =
        (itemFailures interpret path position items).head?
  | _, [] => by simp [renderItems, itemFailures, failure?]
  | position, item :: rest => by
      rw [renderItems, itemFailures, List.head?_append, ← failure?_renderTree,
        ← failure?_renderItems]
      cases renderTree interpret (path ++ [toString position]) item with
      | error e => rfl
      | ok rendered => cases renderItems interpret path (position + 1) rest <;> rfl

/-- The keys that are known are the texts of the earlier ones, which have all been rendered. -/
theorem failure?_renderEntries (interpret : Interpret) (path : List String) :
    ∀ (known earlier : List String),
      (∀ key, key ∈ known ↔ key ∈ keyTexts interpret path earlier) →
      ∀ entries : List (String × Value),
        failure? (renderEntries interpret path known entries) =
          (entryFailures interpret path earlier entries).head?
  | _, _, _, [] => by simp [renderEntries, entryFailures, failure?]
  | known, earlier, same, (source, item) :: rest => by
      rw [renderEntries, entryFailures, List.head?_append, List.head?_append, List.head?_append,
        Option.head?_toList, Option.head?_toList, ← failure?_renderTree]
      cases named : renderKey interpret (path ++ [source]) source with
      | error e => rfl
      | ok key =>
          cases renderTree interpret (path ++ [source]) item with
          | error e => rfl
          | ok rendered =>
              dsimp only
              by_cases repeated : key ∈ known
              · have again : repetition? interpret path earlier source =
                    some ⟨.malformed (.duplicateKey key), path⟩ := by
                  simp [repetition?, named, (same key).mp repeated]
                rw [if_pos (List.contains_iff_mem.mpr repeated), again]
                rfl
              · have fresh : repetition? interpret path earlier source = none := by
                  simp [repetition?, named, mt (same key).mpr repeated]
                have longer : ∀ text, text ∈ key :: known ↔
                    text ∈ keyTexts interpret path (earlier ++ [source]) := by
                  intro text
                  rw [List.mem_cons, mem_keyTexts_concat named, same]
                rw [if_neg (mt List.contains_iff_mem.mp repeated), fresh,
                  ← failure?_renderEntries interpret path (key :: known) _ longer rest]
                cases renderEntries interpret path (key :: known) rest <;> rfl

end

/-- The items of a list are rendered one by one. -/
theorem renderItems_shape {position : Nat} {items rendered : List Value}
    (done : renderItems interpret path position items = .ok rendered) :
    rendered.length = items.length ∧
      ∀ (i : Nat) item, items[i]? = some item →
        ∃ out, rendered[i]? = some out ∧
          renderTree interpret (path ++ [toString (position + i)]) item = .ok out := by
  induction items generalizing position rendered with
  | nil =>
      rw [renderItems] at done
      cases done
      simp
  | cons first rest ih =>
      rw [renderItems] at done
      split at done
      · cases done
      · rename_i head first_done
        split at done
        · cases done
        · rename_i others rest_done
          cases done
          obtain ⟨long, each⟩ := ih rest_done
          refine ⟨by rw [List.length_cons, List.length_cons, long], ?_⟩
          intro i item found
          cases i with
          | zero =>
              cases found
              exact ⟨head, rfl, first_done⟩
          | succ i =>
              obtain ⟨out, at_place, here⟩ := each i item found
              refine ⟨out, at_place, ?_⟩
              rwa [show position + (i + 1) = position + 1 + i by omega]

/-- The entries of a map are rendered one by one. -/
theorem renderEntries_shape {known : List String} {entries rendered : List (String × Value)}
    (done : renderEntries interpret path known entries = .ok rendered) :
    rendered.length = entries.length ∧
      ∀ (i : Nat) source item, entries[i]? = some (source, item) →
        ∃ key out, rendered[i]? = some (key, out) ∧
          renderKey interpret (path ++ [source]) source = .ok key ∧
          renderTree interpret (path ++ [source]) item = .ok out := by
  induction entries generalizing known rendered with
  | nil =>
      rw [renderEntries] at done
      cases done
      simp
  | cons first rest ih =>
      obtain ⟨name, value⟩ := first
      rw [renderEntries] at done
      split at done
      · cases done
      · rename_i text named
        split at done
        · cases done
        · rename_i head first_done
          split at done
          · cases done
          · split at done
            · cases done
            · rename_i others rest_done
              cases done
              obtain ⟨long, each⟩ := ih rest_done
              refine ⟨by rw [List.length_cons, List.length_cons, long], ?_⟩
              intro i source item found
              cases i with
              | zero =>
                  cases found
                  exact ⟨text, head, rfl, named, first_done⟩
              | succ i => exact each i source item found

end Rendering

namespace Renderer

variable {r : Renderer} {ctx : RenderContext} {path : List String} {entries : List (String × Value)}

/-- What becomes of single strings in a frame. -/
def interpretIn (r : Renderer) (frame : Bindings Value) : Interpret :=
  renderString r.library (r.expandModule (.ofFrame frame)) frame

/-- All failures of a value, each part of which is rendered by itself, in the order of the
document. -/
def failuresAt (r : Renderer) (ctx : RenderContext) (path : List String) (v : Value) :
    List RenderError :=
  failures (r.interpretIn (ctx.frame [])) path v

/-- A key without markers stays, and any other becomes the text of what it is rendered to. -/
def KeyBecomes (r : Renderer) (ctx : RenderContext) (path : List String) (source key : String) :
    Prop :=
  if Markup.hasMarkers source then
    ∃ v, r.renderAt ctx path (.string source) = .ok v ∧ v.text = .ok key
  else key = source

theorem renderAt_string (source : String) :
    r.renderAt ctx path (.string source) = r.interpretIn (ctx.frame []) path source := by
  rw [renderAt, renderIn, renderTree]
  rfl

theorem textAt_eq_ok {v : Value} {text : String} :
    textAt path v = .ok text ↔ v.text = .ok text := by
  unfold textAt
  cases v.text <;> simp

theorem keyBecomes_iff {source key : String} :
    r.KeyBecomes ctx path source key ↔ renderKey (r.interpretIn (ctx.frame [])) path source = .ok key := by
  unfold KeyBecomes renderKey
  split
  · rw [renderAt_string]
    cases r.interpretIn (ctx.frame []) path source with
    | error e => simp
    | ok v => simp [textAt_eq_ok]
  · simp [eq_comm]

theorem renderAt_eq_error_iff {v : Value} {e : RenderError} :
    r.renderAt ctx path v = .error e ↔ (r.failuresAt ctx path v).head? = some e := by
  rw [failuresAt, ← failure?_renderTree, failure?_eq_some]
  rfl

/-- Two keys with one text are one too many. -/
theorem renderAt_of_repeated {i j : Nat} (different : i ≠ j) {first second key : String}
    {item other : Value} (found : entries[i]? = some (first, item))
    (other_found : entries[j]? = some (second, other))
    (named : r.KeyBecomes ctx (path ++ [first]) first key)
    (other_named : r.KeyBecomes ctx (path ++ [second]) second key) :
    ∃ e, r.renderAt ctx path (.map entries) = .error e := by
  rw [keyBecomes_iff] at named other_named
  cases done : r.renderAt ctx path (.map entries) with
  | error e => exact ⟨e, rfl⟩
  | ok w =>
      exfalso
      have formed := wellFormed_of_renderAt done
      rw [renderAt, renderIn, renderTree] at done
      split at done
      · rename_i rendered entries_done
        cases done
        obtain ⟨_, each⟩ := renderEntries_shape entries_done
        obtain ⟨text, out, at_place, this_named, _⟩ := each i first item found
        obtain ⟨other_text, other_out, other_place, that_named, _⟩ := each j second other other_found
        cases named.symm.trans this_named
        cases other_named.symm.trans that_named
        have same : (Bindings.names rendered)[i]? = (Bindings.names rendered)[j]? := by
          simp [Bindings.names, at_place, other_place]
        have within : i < (Bindings.names rendered).length := by
          have short := (List.getElem?_eq_some_iff.mp at_place).choose
          simpa [Bindings.names] using short
        exact different ((List.getElem?_inj within formed.1).mp same)
      · cases done

theorem rendering_keeps_shape (r : Renderer) (ctx : RenderContext) (path : List String) :
    (∀ items w, r.renderAt ctx path (.list items) = .ok w →
      ∃ rendered, w = .list rendered ∧ rendered.length = items.length ∧
        ∀ (i : Nat) item, items[i]? = some item → ∃ out, rendered[i]? = some out ∧
          r.renderAt ctx (path ++ [toString i]) item = .ok out) ∧
    (∀ entries w, r.renderAt ctx path (.map entries) = .ok w →
      ∃ rendered, w = .map rendered ∧ rendered.length = entries.length ∧
        ∀ (i : Nat) source item, entries[i]? = some (source, item) →
          ∃ key out, rendered[i]? = some (key, out) ∧
            r.KeyBecomes ctx (path ++ [source]) source key ∧
            r.renderAt ctx (path ++ [source]) item = .ok out) ∧
    (∀ v e, r.renderAt ctx path v = .error e ↔ (r.failuresAt ctx path v).head? = some e) ∧
    ∀ (entries : List (String × Value)) (i j : Nat) first second item other key,
      i ≠ j → entries[i]? = some (first, item) → entries[j]? = some (second, other) →
        r.KeyBecomes ctx (path ++ [first]) first key →
          r.KeyBecomes ctx (path ++ [second]) second key →
            ∃ e, r.renderAt ctx path (.map entries) = .error e := by
  refine ⟨?_, ?_, fun _ _ => renderAt_eq_error_iff, ?_⟩
  · intro items w done
    rw [renderAt, renderIn, renderTree] at done
    split at done
    · rename_i rendered items_done
      cases done
      obtain ⟨long, each⟩ := renderItems_shape items_done
      refine ⟨rendered, rfl, long, ?_⟩
      intro i item found
      obtain ⟨out, at_place, here⟩ := each i item found
      rw [Nat.zero_add] at here
      exact ⟨out, at_place, here⟩
    · cases done
  · intro entries w done
    rw [renderAt, renderIn, renderTree] at done
    split at done
    · rename_i rendered entries_done
      cases done
      obtain ⟨long, each⟩ := renderEntries_shape entries_done
      refine ⟨rendered, rfl, long, ?_⟩
      intro i source item found
      obtain ⟨key, out, at_place, named, here⟩ := each i source item found
      exact ⟨key, out, at_place, keyBecomes_iff.mpr named, here⟩
    · cases done
  · intro entries i j first second item other key different found other_found named other_named
    exact renderAt_of_repeated different found other_found named other_named

/-- A key and an item with markers; and two keys of one text, before the check of which the value
under the second one fails. -/
theorem rendering_keeps_shape_regions :
    let r : Renderer := {}
    let ctx : RenderContext := { scope := [("region", .string "eu")] }
    let marker := "\x7b\x7b region \x7d\x7d"
    let zones := Value.list [.string (marker ++ "-1"), .ofInt 2]
    let clashing := [(marker, zones), ("eu", .string "\x7b\x7b nope \x7d\x7d")]
    r.renderAt ctx ["config"] (.map [(marker, zones)]) =
        .ok (.map [("eu", .list [.string "eu-1", .ofInt 2])]) ∧
      r.KeyBecomes ctx ["config", marker] marker "eu" ∧
      r.renderAt ctx ["config", marker] zones = .ok (.list [.string "eu-1", .ofInt 2]) ∧
      (r.failuresAt ctx ["config"] (.map clashing)).head? =
        some ⟨.unresolvedVariable "nope", ["config", "eu"]⟩ ∧
      ∃ e, r.renderAt ctx ["config"] (.map clashing) = .error e := by
  intro r ctx marker zones clashing
  obtain ⟨_, maps, first, repeated⟩ := rendering_keeps_shape r ctx ["config"]
  have done : r.renderAt ctx ["config"] (.map [(marker, zones)]) =
      .ok (.map [("eu", .list [.string "eu-1", .ofInt 2])]) :=
    eq_ok_of_toOption (by decide +kernel)
  have failed : r.renderAt ctx ["config"] (.map clashing) =
      .error ⟨.unresolvedVariable "nope", ["config", "eu"]⟩ :=
    failure?_eq_some.mp (by decide +kernel)
  obtain ⟨rendered, same, _, each⟩ := maps _ _ done
  cases same
  obtain ⟨key, out, at_place, named, here⟩ := each 0 marker zones rfl
  cases at_place
  have plain : r.KeyBecomes ctx ["config", "eu"] "eu" "eu" := by
    rw [KeyBecomes, if_neg (by decide +kernel)]
  exact ⟨done, named, here, (first _ _).mp failed,
    repeated clashing 0 1 _ _ _ _ "eu" (by decide) rfl rfl named plain⟩

end Renderer

end StagePlan
