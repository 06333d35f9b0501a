import StagePlan.Proofs.Validation.Places

namespace StagePlan.Validation

/-!
What follows when validation reports no error. Rules only add findings, so that a context without
errors at the end had none at any point between, and no rule on the way had anything to complain of.
-/

/-- No error has been found so far. -/
def Clean (ctx : Context) : Prop :=
  Diagnostics.hasErrors ctx.diagnostics = false

variable {α : Type} {rule : Rule} {ctx : Context} {messages : List String}

theorem complain_eq_nil {condition : Bool} {message : String} :
    complain condition message = [] ↔ condition = false := by
  cases condition <;> simp [complain]

theorem Finds.clean_iff {allowed : Steps} (finds : Finds allowed rule) :
    Clean (rule ctx) ↔ Clean ctx ∧ Diagnostics.hasErrors (findingsAt ctx rule) = false := by
  rw [Clean, finds.adds, Diagnostics.hasErrors, List.any_append, Bool.or_eq_false_iff]
  rfl

theorem Finds.clean {allowed : Steps} (finds : Finds allowed rule) (clean : Clean (rule ctx)) :
    Clean ctx :=
  (finds.clean_iff.mp clean).1

theorem clean_errors (clean : Clean (ctx.errors messages)) : messages = [] := by
  cases messages with
  | nil => rfl
  | cons message rest =>
      have reported : Clean (ctx.error message) := (finds_errors rest).clean clean
      simp [Clean, Context.error, Context.report, Diagnostics.hasErrors, Diagnostic.isError]
        at reported

section Lists

variable {allowed : α → Steps} {place : Nat → α → String} {own : Nat → α → Rule}
  {items : List α} {index : Nat}

/-- Where the rule for a list reports no error, that of an element finds none in its place. -/
theorem FindsEach.none_found (each : FindsEach allowed place own items rule)
    (clean : Clean (rule ctx)) (inside : index < items.length) :
    Diagnostics.hasErrors
      (findingsAt (ctx.push (place index items[index])) (own index items[index])) = false := by
  have whole := (each.finds.clean_iff.mp clean).2
  rw [each.in_turn, Diagnostics.hasErrors, List.any_flatten, List.any_eq_false] at whole
  have listed : findingsAt (ctx.push (place index items[index])) (own index items[index]) ∈
      items.mapIdx fun index item => findingsAt (ctx.push (place index item)) (own index item) :=
    List.mem_mapIdx.mpr ⟨index, inside, rfl⟩
  exact Bool.eq_false_iff.mpr (whole _ listed)

theorem FindsEach.clean (each : FindsEach allowed place own items rule) (clean : Clean (rule ctx))
    (inside : index < items.length) : ∃ before, Clean (own index items[index] before) :=
  ⟨{ ctx.push (place index items[index]) with diagnostics := [] }, each.none_found clean inside⟩

/-- Where the elements have lists of faults and no error is reported, the lists are empty. -/
theorem FindsEach.faultless {faults : α → List String}
    (each : FindsEach allowed place (fun _ item => Context.errors (faults item)) items rule)
    (clean : Clean (rule ctx)) {item : α} (listed : item ∈ items) : faults item = [] := by
  obtain ⟨index, inside, rfl⟩ := List.mem_iff_getElem.mp listed
  obtain ⟨_, cleanItem⟩ := each.clean clean inside
  exact clean_errors cleanItem

end Lists

section Named

variable {allowed : α → Steps} {duplicate : String} {place : Nat → α → String}
  {name : α → String} {own : α → Rule} {items : List α} {index : Nat} {item : α}

theorem clean_elementRule (clean : Clean (elementRule duplicate name own items index item ctx)) :
    Clean (own item ctx) ∧ repeats name items index item = false :=
  ⟨(finds_errors _).clean clean, complain_eq_nil.mp (clean_errors clean)⟩

/-- Where the rule for named elements reports no error, neither does that of each element. -/
theorem element_of_clean
    (each : FindsEach allowed place (elementRule duplicate name own items) items rule)
    (clean : Clean (rule ctx)) (listed : item ∈ items) : ∃ before, Clean (own item before) := by
  obtain ⟨index, inside, rfl⟩ := List.mem_iff_getElem.mp listed
  obtain ⟨before, cleanItem⟩ := each.clean clean inside
  exact ⟨before, (clean_elementRule cleanItem).1⟩

/-- If the names are set and none of them repeats an earlier one, they differ. -/
theorem nodup_of_repeats (named : ∀ item ∈ items, (name item).isEmpty = false)
    (fresh : ∀ index, (inside : index < items.length) →
      repeats name items index items[index] = false) : (items.map name).Nodup := by
  rw [List.nodup_iff_pairwise_ne, List.pairwise_map, List.pairwise_iff_getElem]
  intro earlier later inside further before same
  have unseen := fresh later further
  rw [repeats, named _ (List.getElem_mem further), Bool.not_false, Bool.true_and, ← same] at unseen
  have seen : name items[earlier] ∈ (items.take later).map name :=
    List.mem_map_of_mem (List.mem_take_iff_getElem.mpr ⟨earlier, by omega, rfl⟩)
  rw [List.contains_iff_mem.mpr seen] at unseen
  contradiction

/-- Where no error is reported on named elements, none has a fault and, if an unset name is one,
their names differ. -/
theorem faultless_of_clean {faults : α → List String}
    (each : FindsEach allowed place
      (elementRule duplicate name (fun item => Context.errors (faults item)) items) items rule)
    (named : ∀ item, faults item = [] → (name item).isEmpty = false) (clean : Clean (rule ctx)) :
    (items.map name).Nodup ∧ ∀ item ∈ items, faults item = [] := by
  have faultless (item : α) (listed : item ∈ items) : faults item = [] := by
    obtain ⟨_, cleanItem⟩ := element_of_clean each clean listed
    exact clean_errors cleanItem
  refine ⟨nodup_of_repeats (fun item listed => named item (faultless item listed)) ?_, faultless⟩
  intro index inside
  obtain ⟨_, cleanItem⟩ := each.clean clean inside
  exact (clean_elementRule cleanItem).2

end Named

/-- A template without errors passes the rules for its declarations, its stages, the partials that
these name, and its partials, each at some point on the way. -/
theorem rules_of_clean_template {schemaVersion : String} {t : Template}
    (clean : Clean (templateRule schemaVersion t ctx)) :
    (∃ before, Clean (validateVariables t.declared before)) ∧
      (∃ before, Clean (validateStages t.stages before)) ∧
      (∃ before, Clean (checkPartialReferences t.stages t before)) ∧
      ∃ before, Clean (validatePartials t.partials before) := by
  have cleanPartials := (findsEach_validateModules t.modules).finds.clean clean
  have cleanReferences := (findsEach_validatePartials t.partials).finds.clean cleanPartials
  have cleanStages := (findsEach_checkPartialReferences t.stages t).finds.clean cleanReferences
  have cleanVariables := (findsEach_validateStages t.stages).finds.clean cleanStages
  exact ⟨⟨_, cleanVariables⟩, ⟨_, cleanStages⟩, ⟨_, cleanReferences⟩, ⟨_, cleanPartials⟩⟩

end StagePlan.Validation
