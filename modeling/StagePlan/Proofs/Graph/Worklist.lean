import StagePlan.Graph.Worklist
import StagePlan.Proofs.Graph.Flattening

namespace StagePlan.Graph

open Relation

/-!
The loop that follows replacements. It ends even where replacements lead back to themselves: an id
goes onto the stack once as written and once for every replacement that names it, as each replaced
id is opened once only. What it has found then is what `rewire` gives.
-/

variable {replaced : Bindings (List String)} {work next : Worklist} {out : List String}
  {turns : Nat}

namespace Worklist

/-- What becomes of the id that a turn takes off the stack. -/
inductive TakesOff (replaced : Bindings (List String)) : Worklist → Worklist → Prop
  /-- A replaced id that has been opened before is dropped. -/
  | again {rest seen found targets : List String} {id : String} :
      replaced.find? id = some targets → id ∈ seen →
      TakesOff replaced ⟨rest ++ [id], seen, found⟩ ⟨rest, seen, found⟩
  /-- The replacements of an id that comes off for the first time go onto the stack. -/
  | opened {rest seen found targets : List String} {id : String} :
      replaced.find? id = some targets → id ∉ seen →
      TakesOff replaced ⟨rest ++ [id], seen, found⟩ ⟨rest ++ targets.reverse, id :: seen, found⟩
  | kept {rest seen found : List String} {id : String} : replaced.find? id = none →
      TakesOff replaced ⟨rest ++ [id], seen, found⟩
        ⟨rest, seen, if found.contains id then found else found ++ [id]⟩

theorem turn?_eq_none : work.turn? replaced = none ↔ work.pending = [] := by
  simp [turn?]

theorem takesOff_of_turn? (goes : work.turn? replaced = some next) :
    TakesOff replaced work next := by
  obtain ⟨pending, seen, found⟩ := work
  obtain ⟨id, last, rfl⟩ := Option.map_eq_some_iff.mp goes
  obtain ⟨rest, rfl⟩ := List.getLast?_eq_some_iff.mp last
  rw [List.dropLast_concat]
  cases listed : replaced.find? id with
  | none => exact .kept listed
  | some targets =>
      by_cases known : id ∈ seen
      · simpa [listed, known] using TakesOff.again listed known
      · simpa [listed, known] using TakesOff.opened listed known

/-- The ids that wait, and those that replacements can still add. -/
def cost (replaced : Bindings (List String)) (work : Worklist) : Nat :=
  work.pending.length + unseenTargets replaced work.seen

theorem cost_start (replaced : Bindings (List String)) (dependsOn : List String) :
    cost replaced (start dependsOn) =
      dependsOn.length + (replaced.flatMap fun entry => entry.2).length := by
  rw [cost, start, List.length_reverse, unseenTargets_nil]

theorem TakesOff.cost_lt (goes : TakesOff replaced work next) :
    cost replaced next < cost replaced work := by
  cases goes with
  | again | kept => simp [cost]
  | opened listed fresh =>
      have used := unseenTargets_find? listed fresh
      simp only [cost, List.length_append, List.length_reverse, List.length_singleton]
      omega

/-- With the stack turned over, a turn is a step of the search by which `rewire` is defined. -/
theorem TakesOff.rewireFrom_eq (goes : TakesOff replaced work next) (steps : Nat) :
    rewireFrom replaced (steps + 1) work.seen work.found work.pending.reverse =
      rewireFrom replaced steps next.seen next.found next.pending.reverse := by
  cases goes with
  | again listed known => simp [rewireFrom, listed, known]
  | opened listed fresh => simp [rewireFrom, listed, fresh]
  | kept none_ => simp [rewireFrom, none_]

theorem TakesOff.nodup (goes : TakesOff replaced work next) (distinct : work.found.Nodup) :
    next.found.Nodup := by
  cases goes with
  | again | opened => exact distinct
  | kept => exact nodup_noted distinct

/-- The loop ends after so many turns, and has found these ids. -/
inductive Ends (replaced : Bindings (List String)) : Nat → Worklist → List String → Prop
  | done {work : Worklist} : work.turn? replaced = none → Ends replaced 0 work work.found
  | turn {turns : Nat} {work next : Worklist} {out : List String} :
      work.turn? replaced = some next → Ends replaced turns next out →
      Ends replaced (turns + 1) work out

namespace Ends

theorem unique {others : Nat} {other : List String} (ends : Ends replaced turns work out)
    (also : Ends replaced others work other) : others = turns ∧ other = out := by
  induction ends generalizing others with
  | done last =>
      cases also with
      | done => exact ⟨rfl, rfl⟩
      | turn first => simp [first] at last
  | turn first _ ih =>
      cases also with
      | done last => simp [first] at last
      | turn again more =>
          rw [first, Option.some.injEq] at again
          obtain ⟨sameTurns, same⟩ := ih (again ▸ more)
          exact ⟨congrArg (· + 1) sameTurns, same⟩

theorem rewireFrom_eq (ends : Ends replaced turns work out) (steps : Nat) :
    rewireFrom replaced (turns + steps) work.seen work.found work.pending.reverse = out := by
  induction ends with
  | @done work last =>
      rw [turn?_eq_none.mp last]
      cases steps <;> rfl
  | turn first _ ih =>
      rw [Nat.add_right_comm, (takesOff_of_turn? first).rewireFrom_eq]
      exact ih

theorem nodup (ends : Ends replaced turns work out) (distinct : work.found.Nodup) : out.Nodup := by
  induction ends with
  | done => exact distinct
  | turn first _ ih => exact ih ((takesOff_of_turn? first).nodup distinct)

end Ends

/-- The loop ends from every state, as every turn costs something. -/
theorem exists_ends (replaced : Bindings (List String)) (work : Worklist) :
    ∃ turns ≤ cost replaced work, ∃ out, Ends replaced turns work out := by
  induction size : cost replaced work using Nat.strong_induction_on generalizing work with
  | _ n ih =>
      cases here : work.turn? replaced with
      | none => exact ⟨0, Nat.zero_le n, work.found, .done here⟩
      | some next =>
          have fewer := (takesOff_of_turn? here).cost_lt
          rw [size] at fewer
          obtain ⟨turns, few, out, ends⟩ := ih _ fewer next rfl
          exact ⟨turns + 1, by omega, out, .turn here ends⟩

theorem exists_ends_rewire (replaced : Bindings (List String)) (dependsOn : List String) :
    ∃ turns ≤ dependsOn.length + (replaced.flatMap fun entry => entry.2).length,
      Ends replaced turns (start dependsOn) (rewire replaced dependsOn) := by
  obtain ⟨turns, few, out, ends⟩ := exists_ends replaced (start dependsOn)
  rw [cost_start] at few
  have found := ends.rewireFrom_eq
    (dependsOn.length + (replaced.flatMap fun entry => entry.2).length - turns)
  rw [Nat.add_sub_cancel' few, start, List.reverse_reverse] at found
  exact ⟨turns, few, by rwa [rewire, found]⟩

end Worklist

/-- Following replacements ends, whatever they are, after no more turns than ids are written in the
list and in all replacements. It finds every id without replacements to which they lead from the
list, each once; if no id leads back to itself, these are the ids that come of writing out the list
from left to right, in that order and without later copies. -/
theorem rewire_follows_replacements (replaced : Bindings (List String)) (dependsOn : List String) :
    (∃ turns ≤ dependsOn.length + (replaced.flatMap fun entry => entry.2).length,
      ∀ n out, Worklist.Ends replaced n (.start dependsOn) out ↔
        n = turns ∧ out = rewire replaced dependsOn) ∧
    (rewire replaced dependsOn).Nodup ∧
    (∀ id, id ∈ rewire replaced dependsOn ↔
      id ∉ replaced.names ∧ ∃ start ∈ dependsOn, ReflTransGen (Replaces replaced) start id) ∧
    (Unrolled replaced → ∃ out, (∀ other, Flattens replaced dependsOn other ↔ other = out) ∧
      rewire replaced dependsOn = out.eraseDups) := by
  obtain ⟨turns, few, ends⟩ := Worklist.exists_ends_rewire replaced dependsOn
  refine ⟨⟨turns, few, fun n out => ⟨ends.unique, ?same⟩⟩, ends.nodup List.nodup_nil, ?reached,
    fun unrolled => ?inOrder⟩
  case same =>
    rintro ⟨rfl, rfl⟩
    exact ends
  case reached =>
    intro id
    rw [mem_rewire, ← Bindings.find?_eq_none]
    constructor
    · rintro ⟨start, named, path, none_⟩
      exact ⟨none_, start, named, path⟩
    · rintro ⟨none_, start, named, path⟩
      exact ⟨start, named, path, none_⟩
  case inOrder =>
    obtain ⟨out, flattens⟩ := unrolled.exists_flattens dependsOn
    refine ⟨out, fun other => ⟨flattens.unique, fun same => same ▸ flattens⟩, ?_⟩
    rw [rewire_eq_dedup unrolled flattens, dedup_eq_eraseDups]

/-- Placeholders one behind the other, the last of which two ways lead to. -/
def nestedReplacements : Bindings (List String) :=
  [("qa", ["qa.lint", "drain"]), ("drain", ["copy", "bake"]), ("copy", ["copy-0", "copy-1"])]

theorem rewire_follows_replacements_nested :
    Unrolled nestedReplacements ∧
    Flattens nestedReplacements ["drain", "copy", "qa"]
      (["copy-0", "copy-1", "bake"] ++ ["copy-0", "copy-1"] ++
        ["qa.lint", "copy-0", "copy-1", "bake"]) ∧
    rewire nestedReplacements ["drain", "copy", "qa"] =
      ["copy-0", "copy-1", "bake", "qa.lint"] := by
  have unrolled : Unrolled nestedReplacements :=
    .of_rank (fun id => if id = "qa" then 3 else if id = "drain" then 2 else
      if id = "copy" then 1 else 0) (by decide)
  have copy : Flattens nestedReplacements ["copy"] ["copy-0", "copy-1"] :=
    .replaced rfl (.kept rfl (.kept rfl .nil)) .nil
  have drain : Flattens nestedReplacements ["drain"] ["copy-0", "copy-1", "bake"] :=
    .replaced rfl (copy.append (.kept rfl .nil)) .nil
  have qa : Flattens nestedReplacements ["qa"] ["qa.lint", "copy-0", "copy-1", "bake"] :=
    .replaced rfl (.kept rfl drain) .nil
  have written := (drain.append copy).append qa
  obtain ⟨_, _, _, flat⟩ := rewire_follows_replacements nestedReplacements ["drain", "copy", "qa"]
  obtain ⟨out, only, rewired⟩ := flat unrolled
  rw [← (only _).mp written] at rewired
  exact ⟨unrolled, written, rewired.trans (by decide)⟩

/-- Two ids that replace each other. -/
example : rewire [("east", ["west", "bake"]), ("west", ["east", "scan"])] ["west", "lint", "east"] =
    ["bake", "scan", "lint"] := by decide

end StagePlan.Graph
