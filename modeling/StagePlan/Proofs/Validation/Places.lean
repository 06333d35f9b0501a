import StagePlan.Validation.Schema

namespace StagePlan.Validation

/-!
Where rules report. A rule comes back to the place where it was run and only adds findings, each
there or below, whatever was found before. Of a list, every element is looked at in its own place.
-/

/-- The places that a rule may report at, as the steps from where it is run. -/
abbrev Steps := List String → Prop

def Here : Steps :=
  fun steps => steps = []

def HereOrBelow : Steps :=
  fun _ => True

/-- At an element of a list that is looked at here. -/
def AtElement {α : Type} (place : Nat → α → String) (items : List α) : Steps :=
  fun steps => ∃ index item, items[index]? = some item ∧ steps = [place index item]

namespace Context

variable {ctx : Context} {allowed wider : Steps} {d : Diagnostic}

def below (steps : List String) (ctx : Context) : Context :=
  { ctx with path := ctx.path ++ steps }

/-- The finding is at one of the allowed places. -/
def Locates (ctx : Context) (allowed : Steps) (d : Diagnostic) : Prop :=
  ∃ steps, allowed steps ∧ d.location = (ctx.below steps).location

theorem Locates.imp (wide : ∀ steps, allowed steps → wider steps)
    (located : ctx.Locates allowed d) : ctx.Locates wider d := by
  obtain ⟨steps, permitted, place⟩ := located
  exact ⟨steps, wide steps permitted, place⟩

theorem locates_here (message : String) (severity : Severity) :
    ctx.Locates Here ⟨message, ctx.location, severity⟩ := by
  refine ⟨[], rfl, ?_⟩
  rw [below, List.append_nil]

theorem below_push (component : String) (steps : List String) (ctx : Context) :
    (ctx.push component).below steps = ctx.below (component :: steps) := by
  simp only [below, push, List.append_assoc, List.singleton_append]

/-- What is below a component is below the place of the component. -/
theorem Locates.of_push {component : String} (located : (ctx.push component).Locates allowed d) :
    ctx.Locates HereOrBelow d := by
  obtain ⟨further, -, place⟩ := located
  exact ⟨component :: further, trivial, below_push component further ctx ▸ place⟩

/-- Going down a step and back leaves the path as it was. -/
theorem pop_push (component : String) (ctx : Context) : (ctx.push component).pop = ctx := by
  simp only [push, pop, List.dropLast_concat]

end Context

/-- A rule that may leave things alone may do so before it goes down. -/
theorem within_ite (component : String) (condition : Prop) [Decidable condition] (rule : Rule) :
    Context.within component (fun ctx => if condition then rule ctx else ctx) =
      fun ctx => if condition then ctx.within component rule else ctx := by
  funext ctx
  by_cases holds : condition
  · simp only [Context.within, holds, if_true]
  · simp only [Context.within, holds, if_false, Context.pop_push]

/-- What a rule finds at the place where the context stands. -/
def findingsAt (ctx : Context) (rule : Rule) : List Diagnostic :=
  (rule { ctx with diagnostics := [] }).diagnostics

/-- Wherever it is run and whatever was found before, the rule adds what it finds there and changes
nothing else, and what it finds is at allowed places. -/
structure Finds (allowed : Steps) (rule : Rule) : Prop where
  adds : ∀ ctx, rule ctx = { ctx with diagnostics := ctx.diagnostics ++ findingsAt ctx rule }
  located : ∀ ctx : Context, ∀ d ∈ findingsAt ctx rule, ctx.Locates allowed d

section Rules

variable {α : Type} {allowed : Steps} {rule later : Rule}

theorem finds_id : Finds allowed fun ctx => ctx where
  adds ctx := by
    change ctx = { ctx with diagnostics := ctx.diagnostics ++ [] }
    rw [List.append_nil]
  located _ _ listed := nomatch listed

theorem findingsAt_comp (first : Finds allowed rule) (second : Finds allowed later)
    (ctx : Context) :
    findingsAt ctx (fun ctx => later (rule ctx)) = findingsAt ctx rule ++ findingsAt ctx later := by
  change (later (rule { ctx with diagnostics := [] })).diagnostics = _
  rw [first.adds, second.adds]
  rfl

theorem Finds.comp (second : Finds allowed later) (first : Finds allowed rule) :
    Finds allowed fun ctx => later (rule ctx) where
  adds ctx := by
    rw [findingsAt_comp first second, first.adds ctx, second.adds, ← List.append_assoc]
    rfl
  located ctx d listed := by
    rw [findingsAt_comp first second] at listed
    rcases List.mem_append.mp listed with earlier | behind
    · exact first.located ctx d earlier
    · exact second.located ctx d behind

theorem Finds.ite (first : Finds allowed rule) (condition : Prop) [Decidable condition]
    (second : Finds allowed later) :
    Finds allowed fun ctx => if condition then rule ctx else later ctx := by
  by_cases holds : condition
  · simpa only [holds, if_true] using first
  · simpa only [holds, if_false] using second

theorem Finds.imp {wider : Steps} (wide : ∀ steps, allowed steps → wider steps)
    (finds : Finds allowed rule) : Finds wider rule :=
  ⟨finds.adds, fun ctx d listed => (finds.located ctx d listed).imp wide⟩

theorem Finds.anywhere (finds : Finds allowed rule) : Finds HereOrBelow rule :=
  finds.imp fun _ _ => trivial

theorem finds_report (severity : Severity) (message : String) :
    Finds Here (Context.report severity message) where
  adds _ := rfl
  located ctx d listed := by
    obtain rfl := List.mem_singleton.mp listed
    exact ctx.locates_here message severity

theorem finds_errors (messages : List String) : Finds Here (Context.errors messages) := by
  induction messages with
  | nil => exact finds_id
  | cons message rest ih =>
      have first : Finds Here (Context.error message) := finds_report .error message
      exact ih.comp first

theorem Finds.within (component : String) (finds : Finds allowed rule) :
    Finds HereOrBelow (Context.within component rule) where
  adds ctx := by
    change (rule (ctx.push component)).pop = _
    rw [finds.adds]
    simp only [Context.push, Context.pop, List.dropLast_concat]
    rfl
  located ctx d listed := (finds.located (ctx.push component) d listed).of_push

theorem finds_eachFrom {rule : Nat → α → Rule}
    (finds : ∀ index item, Finds allowed (rule index item)) (items : List α) (index : Nat) :
    Finds allowed (eachFrom rule index items) := by
  induction items generalizing index with
  | nil => exact finds_id
  | cons item rest ih => exact (ih (index + 1)).comp (finds index item)

theorem findingsAt_eachFrom {rule : Nat → α → Rule}
    (finds : ∀ index item, Finds allowed (rule index item)) (items : List α) (index : Nat)
    (ctx : Context) :
    findingsAt ctx (eachFrom rule index items) =
      (items.mapIdx fun offset item => findingsAt ctx (rule (index + offset) item)).flatten := by
  induction items generalizing index with
  | nil => rfl
  | cons item rest ih =>
      have behind := ih (index + 1)
      simp only [Nat.add_right_comm index 1] at behind
      rw [List.mapIdx_cons, List.flatten_cons, Nat.add_zero]
      have split := findingsAt_comp (finds index item) (finds_eachFrom finds rest (index + 1)) ctx
      refine split.trans ?_
      rw [behind]
      rfl

end Rules

section Lists

variable {α : Type} {allowed : α → Steps}

/-- The rule for a list finds, one element after the other, what the elements' own rules find, each
in the place of its element and from there on where it is allowed to the element. -/
structure FindsEach (allowed : α → Steps) (place : Nat → α → String) (own : Nat → α → Rule)
    (items : List α) (rule : Rule) : Prop where
  finds : Finds HereOrBelow rule
  own_finds : ∀ index item, Finds (allowed item) (own index item)
  in_turn : ∀ ctx, findingsAt ctx rule =
    (items.mapIdx fun index item =>
      findingsAt (ctx.push (place index item)) (own index item)).flatten

theorem findsEach_each {own : Nat → α → Rule}
    (own_finds : ∀ index item, Finds (allowed item) (own index item)) (place : Nat → α → String)
    (items : List α) :
    FindsEach allowed place own items
      (each (fun index item => Context.within (place index item) (own index item)) items) where
  finds := finds_eachFrom (fun index item => (own_finds index item).within _) items 0
  own_finds := own_finds
  in_turn ctx := by
    refine (findingsAt_eachFrom (fun index item => (own_finds index item).within _) items 0
      ctx).trans ?_
    simp only [Nat.zero_add]
    rfl

/-- Where elements are not looked into, all that is found in a list is at one of them. -/
theorem FindsEach.at_element {place : Nat → α → String} {own : Nat → α → Rule} {items : List α}
    {rule : Rule} (each : FindsEach (fun _ => Here) place own items rule) :
    Finds (AtElement place items) rule where
  adds := each.finds.adds
  located ctx d listed := by
    rw [each.in_turn] at listed
    obtain ⟨_, among, member⟩ := List.mem_flatten.mp listed
    obtain ⟨index, inside, rfl⟩ := List.mem_mapIdx.mp among
    obtain ⟨_, rfl, location⟩ := (each.own_finds index items[index]).located _ d member
    rw [Context.below_push] at location
    exact ⟨_, ⟨index, _, List.getElem?_eq_getElem inside, rfl⟩, location⟩

/-- Whether an element has a name that an earlier one has. -/
def repeats (name : α → String) (items : List α) (index : Nat) (item : α) : Bool :=
  !(name item).isEmpty && ((items.take index).map name).contains (name item)

/-- The names that were seen on the way are those of the earlier elements. -/
theorem eachNamedFrom_eq {name : α → String} {rule : Nat → Bool → α → Rule}
    (earlier rest : List α) {seen : List String}
    (known : ∀ other, seen.contains other = (earlier.map name).contains other) (ctx : Context) :
    eachNamedFrom name rule seen earlier.length rest ctx =
      eachFrom (fun index item => rule index (repeats name (earlier ++ rest) index item) item)
        earlier.length rest ctx := by
  induction rest generalizing earlier seen ctx with
  | nil => rfl
  | cons item rest ih =>
      have repeated : (!(name item).isEmpty && seen.contains (name item)) =
          repeats name (earlier ++ item :: rest) earlier.length item := by
        rw [repeats, List.take_left, known]
      have seen_now (other : String) : (name item :: seen).contains other =
          ((earlier ++ [item]).map name).contains other := by
        rw [List.contains_cons, known, Bool.eq_iff_iff]
        simp [or_comm]
      have further := ih (earlier ++ [item]) seen_now
        (rule earlier.length (repeats name (earlier ++ item :: rest) earlier.length item) item ctx)
      rw [List.length_append, List.append_assoc] at further
      rw [eachNamedFrom, eachFrom, repeated]
      exact further

theorem eachNamed_eq (name : α → String) (rule : Nat → Bool → α → Rule) (items : List α) :
    eachNamed name rule items =
      each (fun index item => rule index (repeats name items index item) item) items :=
  funext (eachNamedFrom_eq [] items fun _ => rfl)

/-- The rule for an element of a list: that of the element by itself, and a complaint where the
element repeats a name. -/
def elementRule (duplicate : String) (name : α → String) (rule : α → Rule) (items : List α)
    (index : Nat) (item : α) : Rule := fun ctx =>
  (rule item ctx).errors
    (complain (repeats name items index item) (duplicate ++ " '" ++ name item ++ "'"))

/-- The component of an element by its name, or its place if it has none. -/
def componentOf (collection : String) (name : α → String) (index : Nat) (item : α) : String :=
  component collection (name item) index

theorem findsEach_validateNamed (collection duplicate : String) (name : α → String)
    {rule : α → Rule} (finds : ∀ item, Finds (allowed item) (rule item))
    (here : ∀ item, allowed item []) (items : List α) :
    FindsEach allowed (componentOf collection name)
      (elementRule duplicate name rule items) items
      (validateNamed collection duplicate name rule items) := by
  have own (index : Nat) (item : α) :
      Finds (allowed item) (elementRule duplicate name rule items index item) :=
    ((finds_errors _).imp fun _ none_left => none_left ▸ here item).comp (finds item)
  rw [validateNamed, eachNamed_eq]
  exact findsEach_each own _ items

end Lists

section Elements

theorem finds_validateStage (stage : Stage) : Finds Here (validateStage stage) :=
  finds_errors _

theorem finds_validateVariable (v : Variable) : Finds Here (validateVariable v) :=
  finds_errors _

theorem findsEach_validateVariables (declared : List Variable) :
    FindsEach (fun _ => Here) (componentOf "variables" Variable.name)
      (elementRule "Duplicate variable name" Variable.name validateVariable declared) declared
      (validateVariables declared) :=
  findsEach_validateNamed _ _ _ finds_validateVariable (fun _ => rfl) declared

theorem findsEach_validateStages (stages : List Stage) :
    FindsEach (fun _ => Here) (componentOf "stages" Stage.id)
      (elementRule "Duplicate stage ID" Stage.id validateStage stages) stages
      (validateStages stages) :=
  findsEach_validateNamed _ _ _ finds_validateStage (fun _ => rfl) stages

/-- At a module, or at one of its variables. -/
def AtModule (m : Module) : Steps :=
  fun steps => Here steps ∨ AtElement (componentOf "variables" Variable.name) m.declared steps

theorem finds_validateModule (m : Module) : Finds (AtModule m) (validateModule m) :=
  ((findsEach_validateVariables m.declared).at_element.imp fun _ => .inr).comp <|
    (finds_errors _).imp fun _ => .inl

theorem findsEach_memberRules (p : Partial) :
    FindsEach (fun _ => Here) (componentOf "stages" Stage.id)
      (fun _ stage => Context.errors (memberFaults p stage)) p.stages
      (each (fun index stage => Context.within (stageComponent stage index)
        (Context.errors (memberFaults p stage))) p.stages) :=
  findsEach_each (fun _ _ => finds_errors _) _ p.stages

/-- At a partial, or at one of its variables or stages. -/
def AtPartial (p : Partial) : Steps :=
  fun steps => Here steps ∨ AtElement (componentOf "variables" Variable.name) p.declared steps ∨
    AtElement (componentOf "stages" Stage.id) p.stages steps

theorem finds_validatePartial (p : Partial) : Finds (AtPartial p) (validatePartial p) := by
  have named : Finds (AtPartial p) (Context.errors (complain p.id.isEmpty "Partial ID is unset")) :=
    (finds_errors _).imp fun _ => .inl
  have declared : Finds (AtPartial p) (validateVariables p.declared) :=
    (findsEach_validateVariables p.declared).at_element.imp fun _ place => .inr (.inl place)
  have stages : Finds (AtPartial p) (validateStages p.stages) :=
    (findsEach_validateStages p.stages).at_element.imp fun _ place => .inr (.inr place)
  have members : Finds (AtPartial p) (each (fun index stage => Context.within
      (stageComponent stage index) (Context.errors (memberFaults p stage))) p.stages) :=
    (findsEach_memberRules p).at_element.imp fun _ place => .inr (.inr place)
  exact members.comp (stages.comp (declared.comp named))

theorem findsEach_validateModules (modules : List Module) :
    FindsEach AtModule (componentOf "modules" Module.id)
      (elementRule "Duplicate module ID" Module.id validateModule modules) modules
      (validateModules modules) :=
  findsEach_validateNamed _ _ _ finds_validateModule (fun _ => .inl rfl) modules

theorem findsEach_validatePartials (partials : List Partial) :
    FindsEach AtPartial (componentOf "partials" Partial.id)
      (elementRule "Duplicate partial ID" Partial.id validatePartial partials) partials
      (validatePartials partials) :=
  findsEach_validateNamed _ _ _ finds_validatePartial (fun _ => .inl rfl) partials

/-- What is wrong with the partial that a stage names. -/
def referenceFaults (template : Template) (stage : Stage) : List String :=
  match stage.partialId? with
  | some id => complain (template.partial? id).isNone ("Unknown partial '" ++ id ++ "'")
  | none => []

/-- Stages with nothing wrong are gone past, as if something had been looked for there. -/
theorem checkPartialReferences_eq (stages : List Stage) (template : Template) :
    checkPartialReferences stages template =
      each (fun index stage => Context.within (componentOf "stages" Stage.id index stage)
        (Context.errors (referenceFaults template stage))) stages := by
  rw [checkPartialReferences]
  congr 1
  funext index stage ctx
  rw [referenceFaults]
  cases stage.partialId? with
  | none => exact (ctx.pop_push _).symm
  | some id =>
      dsimp only
      cases template.partial? id with
      | none => rfl
      | some p => exact (ctx.pop_push _).symm

theorem findsEach_checkPartialReferences (stages : List Stage) (template : Template) :
    FindsEach (fun _ => Here) (componentOf "stages" Stage.id)
      (fun _ stage => Context.errors (referenceFaults template stage)) stages
      (checkPartialReferences stages template) := by
  rw [checkPartialReferences_eq]
  exact findsEach_each (fun _ _ => finds_errors _) _ stages

end Elements

section Documents

theorem finds_checkSchemaVersion (expected actual : String) :
    Finds HereOrBelow (checkSchemaVersion expected actual) :=
  finds_id.ite _ ((finds_errors [_]).within _)

theorem finds_templateRule (schemaVersion : String) (t : Template) :
    Finds HereOrBelow (templateRule schemaVersion t) :=
  (findsEach_validateModules t.modules).finds.comp <|
    (findsEach_validatePartials t.partials).finds.comp <|
    (findsEach_checkPartialReferences t.stages t).finds.comp <|
    (findsEach_validateStages t.stages).finds.comp <|
    (findsEach_validateVariables t.declared).finds.comp <|
    (((finds_errors [_]).within "id").ite _ finds_id).comp <|
    finds_checkSchemaVersion schemaVersion t.schemaVersion

/-- A warning about a stage that stands by itself. -/
def loosenessRule (templateStageIds : List String) (stage : Stage) : Rule := fun ctx =>
  if isLoose templateStageIds stage then
    ctx.warn "Stage should have either dependsOn or an inject rule defined"
  else ctx

theorem finds_loosenessRule (templateStageIds : List String) (stage : Stage) :
    Finds Here (loosenessRule templateStageIds stage) :=
  (finds_report .warn _).ite _ finds_id

theorem findsEach_looseness (templateStageIds : List String) (stages : List Stage) :
    FindsEach (fun _ => Here) (componentOf "stages" Stage.id)
      (fun _ stage => loosenessRule templateStageIds stage) stages
      (each (fun index stage ctx =>
        if isLoose templateStageIds stage then
          ctx.within (stageComponent stage index) (Context.warn
            "Stage should have either dependsOn or an inject rule defined")
        else ctx) stages) := by
  have inside := findsEach_each (fun _ stage => finds_loosenessRule templateStageIds stage)
    (componentOf "stages" Stage.id) stages
  unfold loosenessRule at inside ⊢
  simp only [within_ite] at inside
  exact inside

theorem finds_configurationRule (schemaVersion : String) (templateStageIds : List String)
    (c : Configuration) :
    Finds HereOrBelow (configurationRule schemaVersion templateStageIds c) :=
  (findsEach_looseness templateStageIds c.stages).finds.comp <|
    (findsEach_validateStages c.stages).finds.comp <|
    (((finds_errors [_]).within "pipeline.application").ite _ finds_id).comp <|
    finds_checkSchemaVersion schemaVersion c.schemaVersion

theorem findsEach_variableValuesRule (c : Configuration) (t : Template) :
    FindsEach (fun _ => Here) (fun _ v => "variableValues." ++ v.name)
      (fun _ v => Context.errors (valueFaults c v)) t.declared (variableValuesRule c t) :=
  findsEach_each (fun _ _ => finds_errors _) _ t.declared

end Documents

end StagePlan.Validation
