import StagePlan.Proofs.Validation.Findings

namespace StagePlan.Validation

/-!
The rules for templates report errors and nothing else. A template without errors therefore has no
findings at all, and one such template is to a resolution like any other.
-/

/-- Where the rule leaves no error, it has added no finding. -/
def OnlyErrors (rule : Rule) : Prop :=
  ∀ ctx, Clean (rule ctx) → (rule ctx).diagnostics = ctx.diagnostics

variable {α : Type} {allowed : α → Steps} {rule : Rule} {ctx : Context}

theorem OnlyErrors.comp {later : Rule} (second : OnlyErrors later) (first : OnlyErrors rule) :
    OnlyErrors fun ctx => later (rule ctx) := by
  intro ctx clean
  have kept : (later (rule ctx)).diagnostics = (rule ctx).diagnostics := second _ clean
  have cleanFirst : Clean (rule ctx) := by
    rw [Clean, ← kept]
    exact clean
  exact kept.trans (first ctx cleanFirst)

theorem onlyErrors_id : OnlyErrors fun ctx => ctx :=
  fun _ _ => rfl

theorem OnlyErrors.ite {other : Rule} (first : OnlyErrors rule) (condition : Prop)
    [Decidable condition] (second : OnlyErrors other) :
    OnlyErrors fun ctx => if condition then rule ctx else other ctx := by
  by_cases holds : condition
  · simpa only [holds, if_true] using first
  · simpa only [holds, if_false] using second

theorem onlyErrors_errors (messages : List String) : OnlyErrors (Context.errors messages) := by
  intro ctx clean
  rw [clean_errors clean]
  rfl

theorem onlyErrors_within (component : String) (only : OnlyErrors rule) :
    OnlyErrors (Context.within component rule) :=
  fun ctx clean => only (ctx.push component) clean

theorem onlyErrors_error (message : String) : OnlyErrors (Context.error message) :=
  onlyErrors_errors [message]

/-- A rule that reports nothing else for each element reports nothing else for the list. -/
theorem FindsEach.onlyErrors {place : Nat → α → String} {own : Nat → α → Rule} {items : List α}
    (each : FindsEach allowed place own items rule)
    (only : ∀ index item, OnlyErrors (own index item)) : OnlyErrors rule := by
  intro ctx clean
  have none_added : findingsAt ctx rule = [] := by
    rw [each.in_turn, List.flatten_eq_nil_iff]
    intro found listed
    obtain ⟨index, inside, rfl⟩ := List.mem_mapIdx.mp listed
    exact only index items[index] _ (each.none_found clean inside)
  rw [each.finds.adds, none_added, List.append_nil]

theorem onlyErrors_elementRule (duplicate : String) (name : α → String) {own : α → Rule}
    (only : ∀ item, OnlyErrors (own item)) (items : List α) (index : Nat) (item : α) :
    OnlyErrors (elementRule duplicate name own items index item) :=
  (onlyErrors_errors _).comp (only item)

theorem onlyErrors_validateVariables (declared : List Variable) :
    OnlyErrors (validateVariables declared) :=
  (findsEach_validateVariables declared).onlyErrors
    (onlyErrors_elementRule _ _ (fun _ => onlyErrors_errors _) declared)

theorem onlyErrors_validateStages (stages : List Stage) : OnlyErrors (validateStages stages) :=
  (findsEach_validateStages stages).onlyErrors
    (onlyErrors_elementRule _ _ (fun _ => onlyErrors_errors _) stages)

theorem onlyErrors_validateModule (m : Module) : OnlyErrors (validateModule m) :=
  (onlyErrors_validateVariables m.declared).comp (onlyErrors_errors _)

theorem onlyErrors_validateModules (modules : List Module) :
    OnlyErrors (validateModules modules) :=
  (findsEach_validateModules modules).onlyErrors
    (onlyErrors_elementRule _ _ onlyErrors_validateModule modules)

theorem onlyErrors_validatePartial (p : Partial) : OnlyErrors (validatePartial p) :=
  ((findsEach_memberRules p).onlyErrors fun _ _ => onlyErrors_errors _).comp <|
    (onlyErrors_validateStages p.stages).comp <|
    (onlyErrors_validateVariables p.declared).comp (onlyErrors_errors _)

theorem onlyErrors_validatePartials (partials : List Partial) :
    OnlyErrors (validatePartials partials) :=
  (findsEach_validatePartials partials).onlyErrors
    (onlyErrors_elementRule _ _ onlyErrors_validatePartial partials)

theorem onlyErrors_checkSchemaVersion (expected actual : String) :
    OnlyErrors (checkSchemaVersion expected actual) :=
  onlyErrors_id.ite _ (onlyErrors_within _ (onlyErrors_error _))

theorem onlyErrors_checkPartialReferences (stages : List Stage) (template : Template) :
    OnlyErrors (checkPartialReferences stages template) :=
  (findsEach_checkPartialReferences stages template).onlyErrors fun _ _ => onlyErrors_errors _

theorem onlyErrors_templateRule (schemaVersion : String) (template : Template) :
    OnlyErrors (templateRule schemaVersion template) :=
  (onlyErrors_validateModules template.modules).comp <|
    (onlyErrors_validatePartials template.partials).comp <|
    (onlyErrors_checkPartialReferences template.stages template).comp <|
    (onlyErrors_validateStages template.stages).comp <|
    (onlyErrors_validateVariables template.declared).comp <|
    ((onlyErrors_within "id" (onlyErrors_error _)).ite _ onlyErrors_id).comp <|
    onlyErrors_checkSchemaVersion schemaVersion template.schemaVersion

theorem validateTemplate_eq_nil {schemaVersion : String} {template : Template}
    (accepted : Diagnostics.hasErrors (validateTemplate schemaVersion template) = false) :
    validateTemplate schemaVersion template = [] :=
  onlyErrors_templateRule schemaVersion template { source := templateSource } accepted

end StagePlan.Validation
