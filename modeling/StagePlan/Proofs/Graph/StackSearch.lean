import StagePlan.Graph.Search
import StagePlan.Proofs.Graph.Rings

namespace StagePlan.Graph

open Relation

/-!
The search on a stack comes to an end, and to the same one as the search that visits stage after
stage. Whatever the one does within a visit, the other does from the moment when the stage comes
onto the path until it leaves it, and the marks tell what is finished and what is on the path.
-/

variable {stages roots : List Stage} {finished path : List String} {marks : Bindings Mark}
  {result : Except CompileError Unit}

/-- The search comes to an end with a result, in however many steps. -/
inductive Search.Ends (stages : List Stage) : Search → Except CompileError Unit → Prop where
  | done {search : Search} (last : search.move stages = .done) : Ends stages search (.ok ())
  | ring {search : Search} {ids : List String} (last : search.move stages = .ring ids) :
      Ends stages search (.error (.cycle ids))
  | step {search next : Search} {result : Except CompileError Unit}
      (first : search.move stages = .goOn next) (others : Ends stages next result) :
      Ends stages search result

theorem Search.Ends.unique {search : Search} {other : Except CompileError Unit}
    (ends : Ends stages search result) (also : Ends stages search other) : other = result := by
  induction ends with
  | done last => cases also <;> simp_all
  | ring last => cases also <;> simp_all
  | step first others ih =>
      cases also with
      | done last => simp [first] at last
      | ring last => simp [first] at last
      | step again more =>
          rw [first, Move.goOn.injEq] at again
          exact ih (again ▸ more)

/-- The marks say of every id whether it is finished, on the path, or has not been met. -/
def Marked (marks : Bindings Mark) (finished path : List String) : Prop :=
  ∀ id, marks.find? id =
    if id ∈ finished then some .visited else if id ∈ path then some .visiting else none

theorem Marked.enter {id : String} (marked : Marked marks finished path) (fresh : id ∉ finished) :
    Marked (marks.bind id .visiting) finished (path ++ [id]) := by
  intro other
  rw [Bindings.find?_bind, marked other]
  by_cases same : id = other
  · subst same
    simp [fresh]
  · simp [same, Ne.symm same]

theorem Marked.leave {id : String} (marked : Marked marks finished (path ++ [id])) :
    Marked (marks.bind id .visited) (id :: finished) path := by
  intro other
  rw [Bindings.find?_bind, marked other]
  by_cases same : id = other
  · simp [same]
  · simp [same, Ne.symm same]

/-- The ids of the stages on a stack, from the bottom. -/
def framePath (frames : List Frame) : List String :=
  (frames.map (·.stage.id)).reverse

/-- With a visit that has this outcome behind it, the search ends with the result. -/
def EndsAfter (stages roots : List Stage) (below : List Frame) (result : Except CompileError Unit) :
    Except (List String) (List String) → Prop
  | .ok finished =>
      ∀ marks, Marked marks finished (framePath below) →
        Search.Ends stages { roots, frames := below, marks } result
  | .error ring => result = .error (.cycle ring)

section Moves

variable {stage : Stage} {followed : Nat} {below : List Frame} {id : String}

/-- A dependency that is finished, or that is not listed, is passed over. -/
theorem move_passes_over (one : stage.dependsOn[followed]? = some id)
    (marked : Marked marks finished path)
    (passed : id ∈ finished ∨ id ∉ path ∧ (stages.find? fun s => s.id = id) = none) :
    Search.move stages { roots, frames := ⟨stage, followed⟩ :: below, marks } =
      .goOn { roots, frames := ⟨stage, followed + 1⟩ :: below, marks } := by
  have state := marked id
  by_cases done : id ∈ finished
  · rw [if_pos done] at state
    simp only [Search.move, one, state]
  · obtain ⟨fresh, unlisted⟩ := passed.resolve_left done
    rw [if_neg done, if_neg fresh] at state
    simp only [Search.move, one, state, unlisted]

theorem move_closes (one : stage.dependsOn[followed]? = some id)
    (marked : Marked marks finished path) (onPath : framePath below ++ [stage.id] = path)
    (unfinished : id ∉ finished) (met : id ∈ path) :
    Search.move stages { roots, frames := ⟨stage, followed⟩ :: below, marks } =
      .ring (ringFrom path id) := by
  have state := marked id
  have stacked : framePath (⟨stage, followed⟩ :: below) = path := by simp [framePath, ← onPath]
  rw [if_neg unfinished, if_pos met] at state
  simp only [Search.move, one, state, Search.path]
  exact congrArg (fun ids => Move.ring (ringFrom ids id)) stacked

theorem move_enters {next : Stage} (one : stage.dependsOn[followed]? = some id)
    (marked : Marked marks finished path) (unfinished : id ∉ finished) (fresh : id ∉ path)
    (found : (stages.find? fun s => s.id = id) = some next) :
    Search.move stages { roots, frames := ⟨stage, followed⟩ :: below, marks } =
      .goOn { roots
              frames := ⟨next, 0⟩ :: ⟨stage, followed + 1⟩ :: below
              marks := marks.bind next.id .visiting } := by
  have state := marked id
  rw [if_neg unfinished, if_neg fresh] at state
  simp only [Search.move, one, state, found]
  rfl

end Moves

/-- The search follows the dependencies that are left of the stage at the end of the path. -/
theorem ends_of_dependencies {fuel followed : Nat} {stage : Stage} {below : List Frame}
    {remaining : List String} (onPath : framePath below ++ [stage.id] = path)
    (deeper : ∀ (next : Stage) (followed : Nat) (finished : List String) (marks : Bindings Mark),
      next ∈ stages → next.id ∈ stage.dependsOn → next.id ∉ path →
      Marked marks finished (path ++ [next.id]) →
      EndsAfter stages roots (⟨stage, followed⟩ :: below) result
        (visit stages fuel path finished next) →
      Search.Ends stages
        { roots, frames := ⟨next, 0⟩ :: ⟨stage, followed⟩ :: below, marks } result)
    (left : stage.dependsOn.drop followed = remaining) (marked : Marked marks finished path)
    (after : EndsAfter stages roots below result
      ((remaining.foldlM (follow stages fuel path) finished).map (stage.id :: ·))) :
    Search.Ends stages { roots, frames := ⟨stage, followed⟩ :: below, marks } result := by
  induction remaining generalizing followed finished marks with
  | nil =>
      have all : stage.dependsOn[followed]? = none := by
        rw [List.getElem?_eq_none_iff]
        exact List.drop_eq_nil_iff.mp left
      apply Search.Ends.step
      · simp only [Search.move, all]
        rfl
      · apply after
        apply Marked.leave
        rwa [onPath]
  | cons id rest ih =>
      have one : stage.dependsOn[followed]? = some id := by
        rw [← List.head?_drop, left, List.head?_cons]
      have others : stage.dependsOn.drop (followed + 1) = rest := by
        rw [← List.tail_drop, left, List.tail_cons]
      rw [List.foldlM_cons] at after
      by_cases passed : id ∈ finished ∨ id ∉ path ∧ (stages.find? fun s => s.id = id) = none
      · have skipped : follow stages fuel path finished id = .ok finished := by
          rcases passed with done | ⟨fresh, unlisted⟩
          · simp [follow, done]
          · simp [follow, fresh, unlisted]
        rw [skipped] at after
        exact .step (move_passes_over one marked passed) (ih others marked after)
      obtain ⟨unfinished, listed⟩ := not_or.mp passed
      by_cases met : id ∈ path
      · have closed : follow stages fuel path finished id = .error (ringFrom path id) := by
          simp [follow, unfinished, met]
        rw [closed] at after
        have found : result = .error (.cycle (ringFrom path id)) := after
        exact found ▸ .ring (move_closes one marked onPath unfinished met)
      · obtain ⟨next, found⟩ := Option.ne_none_iff_exists'.mp fun none => listed ⟨met, none⟩
        obtain rfl : next.id = id := by simpa using List.find?_some found
        have entered : follow stages fuel path finished next.id =
            visit stages fuel path finished next := by
          simp [follow, unfinished, met, found]
        rw [entered] at after
        apply Search.Ends.step (move_enters one marked unfinished met found)
        apply deeper next (followed + 1) finished _ (List.mem_of_find?_eq_some found)
          (List.mem_of_getElem? one) met (marked.enter unfinished)
        -- what the visit leaves finished is where the rest of the dependencies begins
        cases outcome : visit stages fuel path finished next with
        | error ring =>
            rw [outcome] at after
            exact after
        | ok more =>
            rw [outcome] at after
            intro marks marked
            have stacked : framePath (⟨stage, followed + 1⟩ :: below) = path := by
              simp [framePath, ← onPath]
            rw [stacked] at marked
            exact ih others marked after

/-- A stage that comes onto the path stays there for as long as its visit takes. -/
theorem ends_of_visit {fuel : Nat} {stage : Stage} {below : List Frame} (member : stage ∈ stages)
    (onPath : framePath below = path) (walked : IsPath stages (path ++ [stage.id]))
    (enough : stages.length < fuel + path.length)
    (marked : Marked marks finished (path ++ [stage.id]))
    (after : EndsAfter stages roots below result (visit stages fuel path finished stage)) :
    Search.Ends stages { roots, frames := ⟨stage, 0⟩ :: below, marks } result := by
  induction fuel generalizing path below finished marks stage with
  | zero =>
      have short := (walked.distinct.subperm walked.listed).length_le
      simp only [List.length_append, List.length_map, List.length_singleton] at short
      omega
  | succ fuel ih =>
      rw [visit_succ] at after
      refine ends_of_dependencies (by rw [onPath]) ?_ List.drop_zero marked after
      intro next followed finished marks listed named fresh marked after
      apply ih listed _ _ _ marked after
      · simp [framePath, ← onPath]
      · apply walked.concat _ (List.mem_map_of_mem listed) fresh
        intro last atEnd
        rw [List.getLast?_concat, Option.mem_some_iff] at atEnd
        exact atEnd ▸ .of_mem member named
      · simp only [List.length_append, List.length_singleton]
        omega

/-- Begins the search from a stage, unless it has been finished. -/
def beginAt (stages : List Stage) (finished : List String) (root : Stage) :
    Except (List String) (List String) :=
  if finished.contains root.id then .ok finished
  else visit stages (stages.length + 1) [] finished root

theorem findRing?_eq (stages : List Stage) :
    findRing? stages =
      match stages.foldlM (beginAt stages) [] with
      | .ok _ => none
      | .error ring => some ring := rfl

theorem ends_of_roots (listed : roots ⊆ stages) (marked : Marked marks finished [])
    (after : EndsAfter stages [] [] result (roots.foldlM (beginAt stages) finished)) :
    Search.Ends stages { roots, marks } result := by
  induction roots generalizing finished marks with
  | nil => exact after marks marked
  | cons root rest ih =>
      obtain ⟨member, others⟩ := List.cons_subset.mp listed
      rw [List.foldlM_cons] at after
      have known : marks.has root.id = decide (root.id ∈ finished) := by
        rw [Bindings.has_eq_isSome, marked root.id]
        by_cases done : root.id ∈ finished <;> simp [done]
      by_cases done : root.id ∈ finished
      · have skipped : beginAt stages finished root = .ok finished := by simp [beginAt, done]
        rw [skipped] at after
        apply Search.Ends.step
        · simp [Search.move, known, done]
          rfl
        · exact ih others marked after
      · have entered : beginAt stages finished root =
            visit stages (stages.length + 1) [] finished root := by simp [beginAt, done]
        rw [entered] at after
        apply Search.Ends.step
        · simp [Search.move, known, done]
          rfl
        have bottom : framePath [] = [] := rfl
        have enough : stages.length < stages.length + 1 + ([] : List String).length := by simp
        apply ends_of_visit member bottom (.single member) enough (marked.enter done)
        cases outcome : visit stages (stages.length + 1) [] finished root with
        | error ring =>
            rw [outcome] at after
            exact after
        | ok more =>
            rw [outcome] at after
            intro marks marked
            exact ih others marked after

/-- The search on a stack comes to an end, with what `checkCycles` reports. -/
theorem ends_checkCycles (stages : List Stage) :
    Search.Ends stages { roots := stages } (checkCycles stages) := by
  have unmarked : Marked [] [] [] := fun _ => rfl
  apply ends_of_roots (fun _ listed => listed) unmarked
  cases outcome : stages.foldlM (beginAt stages) [] with
  | error ring =>
      rw [checkCycles, findRing?_eq, outcome]
      rfl
  | ok finished =>
      intro marks marked
      rw [checkCycles, findRing?_eq, outcome]
      exact .done rfl

/-- The search always ends: with success if no listed stages depend on each other in a ring, and
with a ring of them otherwise. -/
theorem checkCycles_finds_rings (distinct : (stages.map (·.id)).Nodup) :
    (∀ result, Search.Ends stages { roots := stages } result ↔ result = checkCycles stages) ∧
      (checkCycles stages = .ok () ↔ ∀ id, ¬ TransGen (DependsInside stages) id id) ∧
      ∀ e, checkCycles stages = .error e → ∃ ring, e = .cycle ring ∧ IsRing stages ring := by
  have ends := ends_checkCycles stages
  refine ⟨fun result => ⟨ends.unique, fun same => same ▸ ends⟩, ?_, ?_⟩
  · rw [checkCycles_eq_ok distinct, acyclic_iff_inside]
  · intro e failed
    unfold checkCycles at failed
    split at failed
    · rename_i ring found
      cases failed
      exact ⟨ring, rfl, isRing_of_findRing? found⟩
    · cases failed

/-- A ring that the search comes to from outside, past a stage that is not listed and a dependency
that is written twice. -/
def gates : List Stage :=
  [{ id := "release", dependsOn := ["archive", "scan", "scan"] },
    { id := "sign", dependsOn := ["scan", "approve"] },
    { id := "scan", dependsOn := ["sign"] },
    { id := "approve" }]

theorem checkCycles_finds_rings_gates :
    (gates.map (·.id)).Nodup ∧ checkCycles gates = .error (.cycle ["scan", "sign", "scan"]) ∧
      IsRing gates ["scan", "sign", "scan"] := by
  have distinct : (gates.map (·.id)).Nodup := by decide
  have failed : checkCycles gates = .error (.cycle ["scan", "sign", "scan"]) := by decide +kernel
  obtain ⟨_, _, reports⟩ := checkCycles_finds_rings distinct
  obtain ⟨ring, same, isRing⟩ := reports _ failed
  cases same
  exact ⟨distinct, failed, isRing⟩

end StagePlan.Graph
