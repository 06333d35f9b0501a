import StagePlan.Proofs.Json.DistinctKeys
import StagePlan.Proofs.Success
import StagePlan.Rendering.Renderer
import StagePlan.Value.Equality

namespace StagePlan

open Rendering

/-!
Rendering literal trees, in which no string or key has a marker. They stay as they are, so that
rendering what has come out literal does nothing more.
-/

namespace Rendering

variable {interpret : Interpret} {path known : List String} {v w : Value}

/-- Strings without markers stay as they are. -/
def KeepsPlain (interpret : Interpret) : Prop :=
  ∀ path source, Markup.hasMarkers source = false → interpret path source = .ok (.string source)

/-- Strings become values whose keys are distinct at every depth. -/
def GivesWellFormed (interpret : Interpret) : Prop :=
  ∀ path source v, interpret path source = .ok v → v.WellFormed

theorem keepsPlain_renderString (library : Expression.Library) (invoke : Invoke)
    (visible : Bindings Value) : KeepsPlain (renderString library invoke visible) := by
  intro path source plain
  simp [renderString, plain]

theorem givesWellFormed_renderString (library : Expression.Library) (invoke : Invoke)
    (visible : Bindings Value) : GivesWellFormed (renderString library invoke visible) := by
  intro path source v rendered
  unfold renderString at rendered
  split at rendered
  · cases rendered
    trivial
  · split at rendered
    · cases rendered
    · split at rendered
      · split at rendered
        · cases rendered
        · split at rendered
          · rename_i read
            cases rendered
            exact Json.wellFormed_of_value? read
          · cases rendered
      · split at rendered <;> cases rendered
        trivial

theorem renderKey_of_plain {key : String} (plain : Markup.hasMarkers key = false) :
    renderKey interpret path key = .ok key := by
  simp [renderKey, plain]

mutual

/-- Literal trees stay as they are. Induction on the tree; that keys are distinct, and stay the same,
keeps the check for repeated keys from failing. -/
theorem renderTree_of_literal (keeps : KeepsPlain interpret) (path : List String) :
    ∀ v : Value, v.WellFormed → v.isLiteral = true → renderTree interpret path v = .ok v
  | .null, _, _ | .bool _, _, _ | .number _, _, _ => by simp only [renderTree]
  | .string source, _, literal => by
      rw [renderTree]
      exact keeps path source (by simpa [Value.isLiteral] using literal)
  | .list items, formed, literal => by
      rw [renderTree, renderItems_of_literal keeps path 0 items formed literal]
  | .map entries, formed, literal => by
      have fresh : ∀ key ∈ Bindings.names entries, key ∉ ([] : List String) := by simp
      rw [renderTree, renderEntries_of_literal keeps path [] entries formed.1 fresh formed.2 literal]

theorem renderItems_of_literal (keeps : KeepsPlain interpret) (path : List String) :
    ∀ (position : Nat) (items : List Value), Value.WellFormedItems items →
      Value.literalItems items = true → renderItems interpret path position items = .ok items
  | _, [], _, _ => by rw [renderItems]
  | position, item :: rest, formed, literal => by
      rw [Value.literalItems, Bool.and_eq_true] at literal
      rw [renderItems, renderTree_of_literal keeps _ item formed.1 literal.1]
      dsimp only
      rw [renderItems_of_literal keeps path (position + 1) rest formed.2 literal.2]

theorem renderEntries_of_literal (keeps : KeepsPlain interpret) (path : List String) :
    ∀ (known : List String) (entries : List (String × Value)), Bindings.Distinct entries →
      (∀ key ∈ Bindings.names entries, key ∉ known) → Value.WellFormedEntries entries →
      Value.literalEntries entries = true → renderEntries interpret path known entries = .ok entries
  | _, [], _, _, _, _ => by rw [renderEntries]
  | known, (key, item) :: rest, distinct, fresh, formed, literal => by
      obtain ⟨unrepeated, distinct⟩ := List.nodup_cons.mp distinct
      rw [Value.literalEntries, Bool.and_eq_true, Bool.and_eq_true, Bool.not_eq_true'] at literal
      obtain ⟨⟨plain, itemLiteral⟩, restLiteral⟩ := literal
      have new : known.contains key = false := by simpa using fresh key List.mem_cons_self
      have later : ∀ other ∈ Bindings.names rest, other ∉ key :: known := by
        intro other listed among
        rcases List.mem_cons.mp among with rfl | before
        · exact unrepeated listed
        · exact fresh other (List.mem_cons_of_mem _ listed) before
      rw [renderEntries, renderKey_of_plain plain]
      dsimp only
      rw [renderTree_of_literal keeps _ item formed.1 itemLiteral]
      dsimp only
      rw [new, renderEntries_of_literal keeps path (key :: known) rest distinct later formed.2
        restLiteral]
      rfl

end

mutual

/-- What a tree is rendered to has distinct keys, even if those of the tree are not. -/
theorem wellFormed_of_renderTree (gives : GivesWellFormed interpret) :
    ∀ {path : List String} {v w : Value}, renderTree interpret path v = .ok w → w.WellFormed
  | _, .null, _, rendered | _, .bool _, _, rendered | _, .number _, _, rendered => by
      simp only [renderTree] at rendered
      cases rendered
      trivial
  | path, .string source, w, rendered => by
      rw [renderTree] at rendered
      exact gives path source w rendered
  | path, .list items, _, rendered => by
      rw [renderTree] at rendered
      split at rendered
      · rename_i others
        cases rendered
        exact wellFormedItems_of_renderItems gives others
      · cases rendered
  | path, .map entries, _, rendered => by
      rw [renderTree] at rendered
      split at rendered
      · rename_i others
        cases rendered
        obtain ⟨distinct, _, formed⟩ := wellFormedEntries_of_renderEntries gives others
        exact ⟨distinct, formed⟩
      · cases rendered

theorem wellFormedItems_of_renderItems (gives : GivesWellFormed interpret) :
    ∀ {path : List String} {position : Nat} {items rendered : List Value},
      renderItems interpret path position items = .ok rendered → Value.WellFormedItems rendered
  | _, _, [], _, done => by
      rw [renderItems] at done
      cases done
      trivial
  | _, _, item :: rest, _, done => by
      rw [renderItems] at done
      split at done
      · cases done
      · rename_i first
        split at done
        · cases done
        · rename_i others
          cases done
          exact ⟨wellFormed_of_renderTree gives first, wellFormedItems_of_renderItems gives others⟩

theorem wellFormedEntries_of_renderEntries (gives : GivesWellFormed interpret) :
    ∀ {path known : List String} {entries rendered : List (String × Value)},
      renderEntries interpret path known entries = .ok rendered →
        Bindings.Distinct rendered ∧ (∀ key ∈ Bindings.names rendered, key ∉ known) ∧
          Value.WellFormedEntries rendered
  | _, _, [], _, done => by
      rw [renderEntries] at done
      cases done
      exact ⟨List.nodup_nil, by simp, trivial⟩
  | _, known, (source, item) :: rest, _, done => by
      rw [renderEntries] at done
      split at done
      · cases done
      · rename_i key _
        split at done
        · cases done
        · rename_i first
          split at done
          · cases done
          · rename_i new
            split at done
            · cases done
            · rename_i others
              cases done
              obtain ⟨distinct, apart, formed⟩ := wellFormedEntries_of_renderEntries gives others
              refine ⟨List.nodup_cons.mpr ⟨fun again => ?_, distinct⟩, fun name listed => ?_,
                wellFormed_of_renderTree gives first, formed⟩
              · exact apart key again List.mem_cons_self
              · rcases List.mem_cons.mp listed with rfl | later
                · simpa using new
                · exact fun before => apart name later (List.mem_cons_of_mem _ before)

end

end Rendering

namespace Renderer

theorem wellFormed_of_renderAt {r : Renderer} {ctx : RenderContext} {path : List String}
    {v w : Value} (rendered : r.renderAt ctx path v = .ok w) : w.WellFormed :=
  wellFormed_of_renderTree (givesWellFormed_renderString _ _ _) rendered

theorem renderAt_of_literal (r : Renderer) (ctx : RenderContext) (path : List String) {v : Value}
    (formed : v.WellFormed) (literal : v.isLiteral = true) : r.renderAt ctx path v = .ok v :=
  renderTree_of_literal (keepsPlain_renderString _ _ _) path v formed literal

/-- A literal tree is rendered to itself, whatever the renderer, the context and the place. So what
has once come out literal stays as it is when it is rendered again. -/
theorem literal_trees_stay (r : Renderer) (ctx : RenderContext) (path : List String) :
    (∀ v : Value, v.WellFormed → v.isLiteral = true → r.renderAt ctx path v = .ok v) ∧
    ∀ v w : Value, r.renderAt ctx path v = .ok w → w.isLiteral = true →
      ∀ (again : Renderer) (other : RenderContext) (elsewhere : List String),
        again.renderAt other elsewhere w = .ok w :=
  ⟨fun _ formed literal => renderAt_of_literal r ctx path formed literal,
    fun _ _ rendered literal again other elsewhere =>
      renderAt_of_literal again other elsewhere (wellFormed_of_renderAt rendered) literal⟩

/-- A tree with half markers, numbers that are not finite, and a list and a map within. -/
def plainTree : Value :=
  .map [("\x7d\x7d 100%", .list [.float .nan, .float (.infinity true), .null, .ofInt 7]),
    ("", .map [("\x7b", .string "\x7b 50% \x7d"), ("\x7d", .bool false)])]

theorem literal_trees_stay_plain :
    let r : Renderer := { modules := [{ id := "greet", definition := .string "hi" }] }
    let ctx : RenderContext := { scope := [("region", .string "eu")] }
    let marked := Value.list [.string "\x7b\x7b region \x7d\x7d-1", .string "\x7b% module greet %\x7d"]
    plainTree.WellFormed ∧ plainTree.isLiteral = true ∧
      r.renderAt ctx ["config"] plainTree = .ok plainTree ∧
      r.renderAt ctx [] marked = .ok (.strings ["eu-1", "hi"]) ∧
      ({} : Renderer).renderAt {} ["else"] (.strings ["eu-1", "hi"]) =
        .ok (.strings ["eu-1", "hi"]) := by
  intro r ctx marked
  obtain ⟨stays, _⟩ := literal_trees_stay r ctx ["config"]
  obtain ⟨_, again⟩ := literal_trees_stay r ctx []
  have formed : plainTree.WellFormed := by
    simp [plainTree, Value.WellFormed, Value.WellFormedItems, Value.WellFormedEntries,
      Bindings.Distinct, Value.float, Value.ofInt]
  have literal : plainTree.isLiteral = true := by decide +kernel
  have rendered : r.renderAt ctx [] marked = .ok (.strings ["eu-1", "hi"]) :=
    eq_ok_of_toOption (by decide +kernel)
  exact ⟨formed, literal, stays plainTree formed literal, rendered,
    again marked _ rendered (by decide +kernel) {} {} ["else"]⟩

end Renderer

end StagePlan
