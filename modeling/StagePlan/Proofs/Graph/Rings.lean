import Mathlib.Data.List.Chain
import StagePlan.Proofs.Graph.CycleSearch

namespace StagePlan.Graph

open Relation

/-!
The rings that the depth-first search reports. The path of the search leads along dependencies and
meets no stage twice; a ring is the end of the path from where a dependency leads back into it.
-/

variable {stages : List Stage}

/-- Dependence of listed stages on each other. -/
def DependsInside (stages : List Stage) (dependent id : String) : Prop :=
  Depends stages dependent id ∧ id ∈ stages.map (·.id)

/-- Ids that are not listed lie on no ring. -/
theorem acyclic_iff_inside :
    Acyclic stages ↔ ∀ id, ¬ TransGen (DependsInside stages) id id := by
  constructor
  · intro acyclic id ring
    exact acyclic id (TransGen.mono (fun _ _ edge => edge.1) _ _ ring)
  · intro none id ring
    have inside : ∀ {a b}, Reaches stages a b → b ∈ stages.map (·.id) →
        TransGen (DependsInside stages) a b := by
      intro a b path listed
      induction path using TransGen.head_induction_on with
      | single edge => exact .single ⟨edge, listed⟩
      | head edge path ih => exact .head ⟨edge, Reaches.source_listed path⟩ ih
    exact none id (inside ring ring.source_listed)

/-- Ids of listed stages, each of which depends on the next one, the last on the first. The first id
is repeated at the end, and none but this one is repeated. -/
structure IsRing (stages : List Stage) (ring : List String) : Prop where
  long : 2 ≤ ring.length
  closed : ring.head? = ring.getLast?
  distinct : ring.dropLast.Nodup
  listed : ring.dropLast ⊆ stages.map (·.id)
  linked : ring.IsChain (Depends stages)

/-- The path of a search: it leads along dependencies and through no stage twice. -/
structure IsPath (stages : List Stage) (path : List String) : Prop where
  distinct : path.Nodup
  listed : path ⊆ stages.map (·.id)
  linked : path.IsChain (Depends stages)

theorem IsPath.single {stage : Stage} (member : stage ∈ stages) : IsPath stages [stage.id] :=
  ⟨List.nodup_singleton _, by simpa using ⟨stage, member, rfl⟩, .singleton _⟩

/-- The path goes on to a dependency of its last stage. -/
theorem IsPath.concat {path : List String} {id : String} (walked : IsPath stages path)
    (edge : ∀ last ∈ path.getLast?, Depends stages last id) (known : id ∈ stages.map (·.id))
    (fresh : id ∉ path) : IsPath stages (path ++ [id]) where
  distinct := walked.distinct.append (List.nodup_singleton _) (by simpa using fresh)
  listed := List.append_subset.mpr ⟨walked.listed, by simpa using known⟩
  linked := walked.linked.append (.singleton _) (by
    intro last atEnd first same
    rw [List.head?_cons, Option.mem_some_iff] at same
    exact same ▸ edge last atEnd)

theorem dropWhile_of_mem {path : List String} {id : String} (met : id ∈ path) :
    ∃ tail, path.dropWhile (· ≠ id) = id :: tail := by
  induction path with
  | nil => simp at met
  | cons first rest ih =>
      by_cases same : first = id
      · exact ⟨rest, by simp [same]⟩
      · obtain ⟨tail, found⟩ := ih ((List.mem_cons.mp met).resolve_left (Ne.symm same))
        exact ⟨tail, by simpa [List.dropWhile_cons, same] using found⟩

/-- A dependency that leads back into the path closes a ring. -/
theorem IsPath.isRing_ringFrom {path : List String} {id : String} (walked : IsPath stages path)
    (edge : ∀ last ∈ path.getLast?, Depends stages last id) (met : id ∈ path) :
    IsRing stages (ringFrom path id) := by
  obtain ⟨tail, back⟩ := dropWhile_of_mem met
  have suffix_ : id :: tail <:+ path := back ▸ List.dropWhile_suffix _
  have sameEnd : (id :: tail).getLast? = path.getLast? := by
    obtain ⟨front, whole⟩ := suffix_
    rw [← whole, List.getLast?_append_of_ne_nil _ (List.cons_ne_nil id tail)]
  unfold ringFrom
  rw [back]
  refine ⟨by simp, by rw [List.getLast?_concat]; rfl, ?_, ?_, ?_⟩
  · rw [List.dropLast_concat]
    exact walked.distinct.sublist suffix_.sublist
  · rw [List.dropLast_concat]
    exact fun other listed => walked.listed (suffix_.subset listed)
  · refine (walked.linked.suffix suffix_).append (.singleton _) ?_
    intro last atEnd first same
    rw [List.head?_cons, Option.mem_some_iff] at same
    exact same ▸ edge last (sameEnd ▸ atEnd)

/-- A ring leads from its first id back to it. -/
theorem IsRing.reaches {ring : List String} (closes : IsRing stages ring) :
    ∃ id, Reaches stages id id := by
  obtain ⟨long, closed, _, _, linked⟩ := closes
  match ring with
  | [] | [_] => simp at long
  | first :: second :: rest =>
      obtain ⟨edge, onward⟩ := List.isChain_cons_cons.mp linked
      have back : (second :: rest).getLast (List.cons_ne_nil second rest) = first := by
        rw [List.head?_cons, List.getLast?_cons_cons,
          List.getLast?_eq_some_getLast (List.cons_ne_nil second rest)] at closed
        exact (Option.some.inj closed).symm
      exact ⟨first, TransGen.head' edge
        (List.relationReflTransGen_of_exists_isChain_cons rest onward back)⟩

/-- What the search reports is a ring. -/
theorem isRing_of_visit {fuel : Nat} {path finished ring : List String} {stage : Stage}
    (member : stage ∈ stages) (walked : IsPath stages (path ++ [stage.id]))
    (searched : visit stages fuel path finished stage = .error ring) : IsRing stages ring := by
  induction fuel generalizing path finished stage with
  | zero => cases searched
  | succ fuel ih =>
      rw [visit_succ, map_eq_error] at searched
      obtain ⟨id, named, before, followed⟩ := exists_of_foldlM_eq_error searched
      have edge : ∀ last ∈ (path ++ [stage.id]).getLast?, Depends stages last id := by
        intro last atEnd
        rw [List.getLast?_concat, Option.mem_some_iff] at atEnd
        exact atEnd ▸ .of_mem member named
      unfold follow at followed
      split at followed
      · cases followed
      · split at followed
        · rename_i met
          cases followed
          exact walked.isRing_ringFrom edge (by simpa using met)
        · rename_i fresh
          split at followed
          · rename_i next found
            have same : next.id = id := by simpa using List.find?_some found
            subst same
            have listed : next ∈ stages := List.mem_of_find?_eq_some found
            exact ih listed (walked.concat edge (List.mem_map_of_mem listed)
              (by simpa using fresh)) followed
          · cases followed

theorem isRing_of_findRing? {ring : List String} (found : findRing? stages = some ring) :
    IsRing stages ring := by
  simp only [findRing?] at found
  split at found
  · cases found
  · rename_i other searched
    cases found
    obtain ⟨stage, member, before, visited⟩ := exists_of_foldlM_eq_error searched
    split at visited
    · cases visited
    · exact isRing_of_visit member (.single member) visited

theorem checkCycles_eq_ok (distinct : (stages.map (·.id)).Nodup) :
    checkCycles stages = .ok () ↔ Acyclic stages := by
  constructor
  · exact checkCycles_acyclic distinct
  · intro acyclic
    unfold checkCycles
    split
    · rename_i ring found
      obtain ⟨id, back⟩ := (isRing_of_findRing? found).reaches
      exact absurd back (acyclic id)
    · rfl

theorem checkCycles_eq_cycle_iff (distinct : (stages.map (·.id)).Nodup) :
    (∃ ring, checkCycles stages = .error (.cycle ring)) ↔ ¬ Acyclic stages := by
  rw [← checkCycles_eq_ok distinct, checkCycles]
  split <;> simp

end StagePlan.Graph
