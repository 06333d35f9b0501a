import Mathlib.Data.List.Induction
import StagePlan.Graph.Placement

namespace StagePlan.Graph

/-!
Lists without later copies of their members. Copies may be dropped early or late: what is put
together from lists has the same members in the same order if copies are dropped in the parts as well.
-/

variable {found first second ids : List String} {next id : String}

/-- The list with the ids behind it that it does not have yet. -/
def noteAll (found ids : List String) : List String :=
  ids.foldl (fun found id => if found.contains id then found else found ++ [id]) found

theorem noteAll_append : noteAll found (first ++ second) = noteAll (noteAll found first) second :=
  List.foldl_append

theorem noteAll_concat : noteAll found (ids ++ [next]) =
    if (noteAll found ids).contains next then noteAll found ids else noteAll found ids ++ [next] :=
  noteAll_append

theorem nodup_noted (distinct : found.Nodup) :
    (if found.contains next then found else found ++ [next]).Nodup := by
  split
  · exact distinct
  · rename_i fresh
    have apart : ∀ old ∈ found, old ≠ next := by
      rintro _ listed rfl
      simp [listed] at fresh
    exact List.nodup_append.mpr ⟨distinct, by simp, by simpa using apart⟩

theorem mem_noteAll : id ∈ noteAll found ids ↔ id ∈ found ∨ id ∈ ids := by
  induction ids using List.reverseRecOn with
  | nil => simp [noteAll]
  | append_singleton front next ih =>
      rw [noteAll_concat, mem_noted, ih, List.mem_append, List.mem_singleton, or_assoc]

theorem noteAll_of_subset (known : ids ⊆ found) : noteAll found ids = found := by
  induction ids with
  | nil => rfl
  | cons next rest ih =>
      obtain ⟨here, others⟩ := List.cons_subset.mp known
      have again : found.contains next = true := by simpa using here
      rw [noteAll, List.foldl_cons, if_pos again]
      exact ih others

theorem dedup_append : dedup (first ++ second) = noteAll (dedup first) second :=
  noteAll_append

theorem dedup_concat_of_mem (known : next ∈ ids) : dedup (ids ++ [next]) = dedup ids := by
  rw [dedup_append, noteAll_of_subset]
  simpa using mem_dedup.mpr known

theorem dedup_concat_of_notMem (fresh : next ∉ ids) : dedup (ids ++ [next]) = dedup ids ++ [next] := by
  have unknown : ¬ (dedup ids).contains next = true := by simpa using mt mem_dedup.mp fresh
  rw [dedup_append, noteAll, List.foldl_cons, if_neg unknown]
  rfl

theorem dedup_eq_eraseDups (ids : List String) : dedup ids = ids.eraseDups := by
  induction ids using List.reverseRecOn with
  | nil => rfl
  | append_singleton front next ih =>
      rw [List.eraseDups_append, ← ih]
      by_cases known : next ∈ front
      · simp [dedup_concat_of_mem known, List.removeAll, known]
      · simp [dedup_concat_of_notMem known, List.removeAll, known, List.eraseDups_cons]

/-- Copies in what is noted make no difference. -/
theorem noteAll_dedup (found ids : List String) : noteAll found (dedup ids) = noteAll found ids := by
  induction ids using List.reverseRecOn with
  | nil => rfl
  | append_singleton front next ih =>
      by_cases known : next ∈ front
      · have noted : [next] ⊆ noteAll found front := by
          simpa using mem_noteAll.mpr (.inr known)
        rw [dedup_concat_of_mem known, ih, noteAll_append, noteAll_of_subset noted]
      · rw [dedup_concat_of_notMem known, noteAll_append, noteAll_append, ih]

@[simp]
theorem dedup_dedup (ids : List String) : dedup (dedup ids) = dedup ids :=
  noteAll_dedup [] ids

theorem dedup_append_congr {first' second' : List String} (front : dedup first = dedup first')
    (back : dedup second = dedup second') : dedup (first ++ second) = dedup (first' ++ second') := by
  rw [dedup_append, dedup_append, front, ← noteAll_dedup _ second, back, noteAll_dedup]

theorem dedup_flatMap_congr {change change' : String → List String}
    (same : ∀ id ∈ ids, dedup (change id) = dedup (change' id)) :
    dedup (ids.flatMap change) = dedup (ids.flatMap change') := by
  induction ids with
  | nil => rfl
  | cons next rest ih =>
      obtain ⟨here, others⟩ := List.forall_mem_cons.mp same
      rw [List.flatMap_cons, List.flatMap_cons]
      exact dedup_append_congr here (ih others)

/-- What comes in for a copy is a copy itself. -/
theorem dedup_flatMap_dedup (ids : List String) (change : String → List String) :
    dedup ((dedup ids).flatMap change) = dedup (ids.flatMap change) := by
  induction ids using List.reverseRecOn with
  | nil => rfl
  | append_singleton front next ih =>
      have behind : dedup ((front ++ [next]).flatMap change) =
          noteAll (dedup ((dedup front).flatMap change)) ([next].flatMap change) := by
        rw [List.flatMap_append, dedup_append, ih]
      rw [behind]
      by_cases known : next ∈ front
      · have copied : [next].flatMap change ⊆ dedup ((dedup front).flatMap change) := by
          intro id member
          rw [List.flatMap_singleton] at member
          exact mem_dedup.mpr (List.mem_flatMap.mpr ⟨next, mem_dedup.mpr known, member⟩)
        rw [dedup_concat_of_mem known, noteAll_of_subset copied]
      · rw [dedup_concat_of_notMem known, List.flatMap_append, dedup_append]

end StagePlan.Graph
