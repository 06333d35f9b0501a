import StagePlan.Proofs.Validation.Places

namespace StagePlan.Validation

/-!
Places as texts. A location joins the names on a path with points, whatever is in the names, so that
a place below one element may read like the place of another one. It is shown exactly when it does;
otherwise what is found in a list is located at the element that it was found in, and at no other.
-/

section Texts

/-- What stands in front of the steps below a place. -/
def Context.lead (ctx : Context) : String :=
  if ctx.path.isEmpty then ctx.source ++ ":" else ctx.location ++ "."

theorem location_below (ctx : Context) {steps : List String} (some_left : steps ≠ []) :
    (ctx.below steps).location = ctx.lead ++ ".".intercalate steps := by
  obtain ⟨source, path, diagnostics⟩ := ctx
  cases path with
  | nil => simp [Context.location, Context.below, Context.lead, some_left]
  | cons first rest =>
      have joined := String.intercalate_append_of_ne_nil (s := ".") (List.cons_ne_nil first rest)
        some_left
      simp only [Context.location, Context.below, Context.lead, List.cons_append, List.isEmpty_cons,
        Bool.false_eq_true, if_false] at joined ⊢
      rw [joined]
      simp only [String.append_assoc]

/-- The text of a place below extends that of the place. -/
theorem location_prefix_below (ctx : Context) (steps : List String) :
    ctx.location.toList <+: (ctx.below steps).location.toList := by
  by_cases none_left : steps = []
  · have same : (ctx.below steps).location = ctx.location := by
      rw [none_left, Context.below, List.append_nil]
    exact same ▸ List.prefix_refl _
  · have led : ctx.location.toList <+: ctx.lead.toList := by
      rw [Context.lead]
      split
      · rename_i top
        rw [Context.location, if_pos top, String.toList_append]
        exact List.prefix_append _ _
      · rw [String.toList_append]
        exact List.prefix_append _ _
    rw [location_below ctx none_left, String.toList_append]
    exact led.trans (List.prefix_append _ _)

theorem repr_inj {m n : Nat} : m.repr = n.repr ↔ m = n := by
  refine ⟨fun same => ?_, congrArg _⟩
  have digits : Nat.toDigits 10 m = Nat.toDigits 10 n := by
    rw [← Nat.toList_repr, ← Nat.toList_repr, same]
  have read := congrArg (Nat.ofDigitChars 10 · 0) digits
  simpa only [Nat.ofDigitChars_ten_toDigits] using read

theorem location_below_unnamed (ctx : Context) (collection : String) (index : Nat)
    (steps : List String) :
    (ctx.below (component collection "" index :: steps)).location =
      ctx.lead ++ (collection ++ ("[" ++ index.repr ++ "]" ++ ".".intercalate ("" :: steps))) := by
  have spelled : component collection "" index =
      collection ++ ("[" ++ index.repr ++ "]" ++ "") := by
    rw [component, if_pos (by simp), String.append_empty]
    simp only [String.append_assoc]
    rfl
  rw [location_below ctx (List.cons_ne_nil _ _), spelled, String.intercalate_cons_append,
    String.intercalate_cons_append]

theorem location_below_named (ctx : Context) (collection : String) {name : String}
    (named : name ≠ "") (index : Nat) (steps : List String) :
    (ctx.below (component collection name index :: steps)).location =
      ctx.lead ++ (collection ++ ("." ++ ".".intercalate (name :: steps))) := by
  have spelled : component collection name index = collection ++ ("." ++ name) := by
    rw [component, if_neg (by simpa using named), String.append_assoc]
  rw [location_below ctx (List.cons_ne_nil _ _), spelled, String.intercalate_cons_append,
    String.intercalate_cons_append]

theorem bracketed_ne_dotted (index : Nat) (rest name : String) :
    "[" ++ index.repr ++ "]" ++ rest ≠ "." ++ name := by
  intro same
  have first := congrArg (fun text => text.toList.head?) same
  simp at first

theorem bracket_notMem_repr (index : Nat) : ']' ∉ index.repr.toList := by
  intro listed
  rw [Nat.toList_repr] at listed
  have digit := Nat.isDigit_of_mem_toDigits (by decide) (by decide) listed
  contradiction

/-- Texts without a mark end where the first mark stands. -/
theorem before_mark_inj {first second behind rest : List Char} {mark : Char}
    (unmarked : mark ∉ first) (unmarkedSecond : mark ∉ second) :
    first ++ mark :: behind = second ++ mark :: rest ↔ first = second ∧ behind = rest := by
  induction first generalizing second with
  | nil =>
      cases second with
      | nil => simp
      | cons c second =>
          have other : mark ≠ c := List.ne_of_not_mem_cons unmarkedSecond
          simp [other]
  | cons c first ih =>
      cases second with
      | nil =>
          have other : c ≠ mark := (List.ne_of_not_mem_cons unmarked).symm
          simp [other]
      | cons c' second =>
          have inner := ih (List.not_mem_of_not_mem_cons unmarked)
            (List.not_mem_of_not_mem_cons unmarkedSecond)
          simp only [List.cons_append, List.cons.injEq, inner, and_assoc]

theorem bracketed_inj {i j : Nat} {behind rest : String} :
    "[" ++ i.repr ++ "]" ++ behind = "[" ++ j.repr ++ "]" ++ rest ↔ i = j ∧ behind = rest := by
  have marked (index : Nat) (text : String) : ("[" ++ index.repr ++ "]" ++ text).toList =
      '[' :: (index.repr.toList ++ ']' :: text.toList) := by
    simp
  rw [← String.toList_inj, marked, marked, List.cons_inj_right,
    before_mark_inj (bracket_notMem_repr i) (bracket_notMem_repr j), String.toList_inj,
    String.toList_inj, repr_inj]

/-- Paths that go on below two elements of a list read alike if they spell the same names, with
points between them. Without a name, an element is told from all others by its place. -/
theorem location_below_component (ctx : Context) {collection first second : String} {i j : Nat}
    {steps further : List String} :
    (ctx.below (component collection first i :: steps)).location =
        (ctx.below (component collection second j :: further)).location ↔
      ".".intercalate (first :: steps) = ".".intercalate (second :: further) ∧
        (first = "" ↔ second = "") ∧ (first = "" → i = j) := by
  by_cases unnamed : first = "" <;> by_cases other : second = ""
  · subst unnamed other
    rw [location_below_unnamed, location_below_unnamed, String.append_right_inj,
      String.append_right_inj, bracketed_inj]
    simp [and_comm]
  · subst unnamed
    rw [location_below_unnamed, location_below_named _ _ other, String.append_right_inj,
      String.append_right_inj]
    simp [bracketed_ne_dotted, other]
  · subst other
    rw [location_below_named _ _ unnamed, location_below_unnamed, String.append_right_inj,
      String.append_right_inj]
    simp [(bracketed_ne_dotted _ _ _).symm, unnamed]
  · rw [location_below_named _ _ unnamed, location_below_named _ _ other, String.append_right_inj,
      String.append_right_inj, String.append_right_inj]
    simp [unnamed, other]

/-- A path that goes on below one element reads like the place of another. -/
theorem location_below_eq_push (ctx : Context) {collection first second : String} {i j : Nat}
    {steps : List String} :
    (ctx.below (component collection first i :: steps)).location =
        (ctx.push (component collection second j)).location ↔
      ".".intercalate (first :: steps) = second ∧
        (first = "" ↔ second = "") ∧ (first = "" → i = j) := by
  change _ = (ctx.below [component collection second j]).location ↔ _
  rw [location_below_component, String.intercalate_singleton]

theorem location_push_component (ctx : Context) {collection first second : String} {i j : Nat} :
    (ctx.push (component collection first i)).location =
        (ctx.push (component collection second j)).location ↔
      first = second ∧ (first = "" → i = j) := by
  change (ctx.below [component collection first i]).location = _ ↔ _
  rw [location_below_eq_push, String.intercalate_singleton]
  constructor
  · intro ⟨same, _, place⟩
    exact ⟨same, place⟩
  · intro ⟨same, place⟩
    exact ⟨same, same ▸ .rfl, place⟩

end Texts

/-- What is validated: an element by itself, a list of elements, or a document. -/
inductive Subject where
  | ofStage (stage : Stage)
  | ofVariable (v : Variable)
  | ofModule (m : Module)
  | ofPartial (p : Partial)
  | ofVariables (declared : List Variable)
  | ofStages (stages : List Stage)
  | ofReferences (stages : List Stage) (t : Template)
  | ofTemplate (schemaVersion : String) (t : Template)
  | ofConfiguration (schemaVersion : String) (templateStageIds : List String) (c : Configuration)
  | ofValues (c : Configuration) (t : Template)

namespace Subject

def rule : Subject → Rule
  | .ofStage stage => validateStage stage
  | .ofVariable v => validateVariable v
  | .ofModule m => validateModule m
  | .ofPartial p => validatePartial p
  | .ofVariables declared => validateVariables declared
  | .ofStages stages => validateStages stages
  | .ofReferences stages t => checkPartialReferences stages t
  | .ofTemplate schemaVersion t => templateRule schemaVersion t
  | .ofConfiguration schemaVersion templateStageIds c =>
      configurationRule schemaVersion templateStageIds c
  | .ofValues c t => variableValuesRule c t

theorem finds (subject : Subject) : Finds HereOrBelow subject.rule := by
  cases subject with
  | ofStage stage => exact (finds_validateStage stage).anywhere
  | ofVariable v => exact (finds_validateVariable v).anywhere
  | ofModule m => exact (finds_validateModule m).anywhere
  | ofPartial p => exact (finds_validatePartial p).anywhere
  | ofVariables declared => exact (findsEach_validateVariables declared).finds
  | ofStages stages => exact (findsEach_validateStages stages).finds
  | ofReferences stages t => exact (findsEach_checkPartialReferences stages t).finds
  | ofTemplate schemaVersion t => exact finds_templateRule schemaVersion t
  | ofConfiguration schemaVersion ids c => exact finds_configurationRule schemaVersion ids c
  | ofValues c t => exact (findsEach_variableValuesRule c t).finds

end Subject

/-- The rule for a list of elements that are placed by their names. What it finds in an element is
located at the element or below. This is also the location of another element exactly if the names
on the way, with points between them, are the other one's name; an element without a name shares no
location. -/
structure FindsByName {α : Type} (allowed : α → Steps) (collection : String) (name : α → String)
    (own : Nat → α → Rule) (items : List α) (rule : Rule) : Prop
    extends FindsEach allowed (componentOf collection name) own items rule where
  at_other : ∀ (ctx : Context) (i : Nat) (item : α),
    ∀ d ∈ findingsAt (ctx.push (componentOf collection name i item)) (own i item),
      ∃ steps, allowed item steps ∧
        d.location = (ctx.below (componentOf collection name i item :: steps)).location ∧
        ∀ (j : Nat) (other : α),
          d.location = (ctx.push (componentOf collection name j other)).location ↔
            ".".intercalate (name item :: steps) = name other ∧
              (name item = "" ↔ name other = "") ∧ (name item = "" → i = j)

theorem FindsEach.byName {α : Type} {allowed : α → Steps} {collection : String}
    {name : α → String} {own : Nat → α → Rule} {items : List α} {rule : Rule}
    (each : FindsEach allowed (componentOf collection name) own items rule) :
    FindsByName allowed collection name own items rule where
  toFindsEach := each
  at_other ctx i item d listed := by
    obtain ⟨steps, permitted, location⟩ := (each.own_finds i item).located _ d listed
    rw [Context.below_push] at location
    refine ⟨steps, permitted, location, fun j other => ?_⟩
    rw [location]
    exact location_below_eq_push ctx

/-- Every rule leaves the path and the earlier findings as they were and adds findings at the place
where it is run or below, whose texts extend that of the place. A list is found to have what its
elements by themselves have, each in its own place: at it where elements are variables or stages, at
it or at one of their own elements where they are modules or partials. As texts, places at or below
two elements are the same exactly if the names on both ways are, with points between them, and the
elements' own places only for equal names. -/
theorem rules_stay_in_place :
    (∀ subject : Subject, Finds HereOrBelow subject.rule) ∧
      (∀ (ctx : Context) (steps : List String),
        ctx.location.toList <+: (ctx.below steps).location.toList) ∧
      (∀ declared, FindsByName (fun _ => Here) "variables" Variable.name
        (elementRule "Duplicate variable name" Variable.name validateVariable declared) declared
        (validateVariables declared)) ∧
      (∀ stages, FindsByName (fun _ => Here) "stages" Stage.id
        (elementRule "Duplicate stage ID" Stage.id validateStage stages) stages
        (validateStages stages)) ∧
      (∀ stages t, FindsByName (fun _ => Here) "stages" Stage.id
        (fun _ stage => Context.errors (referenceFaults t stage)) stages
        (checkPartialReferences stages t)) ∧
      (∀ p : Partial, FindsByName (fun _ => Here) "stages" Stage.id
        (fun _ stage => Context.errors (memberFaults p stage)) p.stages
        (each (fun index stage => Context.within (stageComponent stage index)
          (Context.errors (memberFaults p stage))) p.stages)) ∧
      (∀ templateStageIds stages, FindsByName (fun _ => Here) "stages" Stage.id
        (fun _ stage => loosenessRule templateStageIds stage) stages
        (each (fun index stage ctx =>
          if isLoose templateStageIds stage then
            ctx.within (stageComponent stage index) (Context.warn
              "Stage should have either dependsOn or an inject rule defined")
          else ctx) stages)) ∧
      (∀ modules, FindsByName AtModule "modules" Module.id
        (elementRule "Duplicate module ID" Module.id validateModule modules) modules
        (validateModules modules)) ∧
      (∀ partials, FindsByName AtPartial "partials" Partial.id
        (elementRule "Duplicate partial ID" Partial.id validatePartial partials) partials
        (validatePartials partials)) ∧
      (∀ (ctx : Context) (collection first second : String) (i j : Nat)
          (steps further : List String),
        (ctx.below (component collection first i :: steps)).location =
            (ctx.below (component collection second j :: further)).location ↔
          ".".intercalate (first :: steps) = ".".intercalate (second :: further) ∧
            (first = "" ↔ second = "") ∧ (first = "" → i = j)) ∧
      ∀ (ctx : Context) (collection first second : String) (i j : Nat),
        (ctx.push (component collection first i)).location =
            (ctx.push (component collection second j)).location ↔
          first = second ∧ (first = "" → i = j) :=
  ⟨Subject.finds, location_prefix_below,
    fun declared => (findsEach_validateVariables declared).byName,
    fun stages => (findsEach_validateStages stages).byName,
    fun stages t => (findsEach_checkPartialReferences stages t).byName,
    fun p => (findsEach_memberRules p).byName,
    fun templateStageIds stages => (findsEach_looseness templateStageIds stages).byName,
    fun modules => (findsEach_validateModules modules).byName,
    fun partials => (findsEach_validatePartials partials).byName,
    fun ctx _ _ _ _ _ _ _ => location_below_component ctx,
    fun ctx _ _ _ _ _ => location_push_component ctx⟩

/-- Two partials, the second one with the name of a stage's place in the first one. -/
def crossed : Template where
  schemaVersion := "1"
  id := "crossed"
  partials := [
    { id := "a", stages := [{ id := "x", config? := some (.map []) }] },
    { id := "a.stages.x" }]

/-- The fault of the stage is located at the second partial, which has none. -/
theorem fault_located_at_other_partial :
    ∃ (first second : Partial) (d : Diagnostic), crossed.partials = [first, second] ∧
      validateTemplate "1" crossed = [d] ∧
      d ∈ findingsAt (Context.push (componentOf "partials" Partial.id 0 first)
        { source := templateSource }) (validatePartial first) ∧
      findingsAt (Context.push (componentOf "partials" Partial.id 1 second)
        { source := templateSource }) (elementRule "Duplicate partial ID" Partial.id
          validatePartial crossed.partials 1 second) = [] ∧
      d.location = (Context.push (componentOf "partials" Partial.id 1 second)
        { source := templateSource }).location := by
  refine ⟨_, _, ⟨"Stage is missing type", "template:partials.a.stages.x", .error⟩, rfl, ?_⟩
  decide +kernel

end StagePlan.Validation
