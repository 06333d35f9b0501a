import Mathlib.Data.Finset.Card
import Mathlib.Data.Finset.Filter
import Mathlib.Logic.Relation
import Mathlib.Order.RelClasses
import StagePlan.Graph.Placement

namespace StagePlan.Graph

open Relation

/-!
Dependence among listed stages, seen as a relation between ids. A list may name stages that it does
not hold; such ids depend on nothing.
-/

/-- A listed stage of the first id names the second one among its dependencies. -/
def Depends (stages : List Stage) (dependent id : String) : Prop :=
  ∃ stage ∈ stages, stage.id = dependent ∧ id ∈ stage.dependsOn

/-- Dependence through any number of listed stages, at least one. -/
def Reaches (stages : List Stage) : String → String → Prop :=
  TransGen (Depends stages)

def Acyclic (stages : List Stage) : Prop :=
  ∀ id, ¬ Reaches stages id id

def Closed (stages : List Stage) : Prop :=
  ∀ stage ∈ stages, ∀ id ∈ stage.dependsOn, id ∈ stages.map (·.id)

/-- Every stage stands behind those on which it depends. -/
def InOrder (stages : List Stage) : Prop :=
  ∀ before stage after, stages = before ++ stage :: after →
    ∀ id ∈ stage.dependsOn, id ∈ before.map (·.id)

variable {stages others : List Stage} {stage : Stage} {a b : String}

theorem Depends.of_mem (member : stage ∈ stages) (named : a ∈ stage.dependsOn) :
    Depends stages stage.id a :=
  ⟨stage, member, rfl, named⟩

theorem Depends.mono (included : stages ⊆ others) (edge : Depends stages a b) :
    Depends others a b := by
  obtain ⟨stage, member, named, listed⟩ := edge
  exact ⟨stage, included member, named, listed⟩

theorem Reaches.single (edge : Depends stages a b) : Reaches stages a b :=
  TransGen.single edge

/-- Paths are kept where every edge is kept as a path. -/
theorem Reaches.lift (kept : ∀ a b, Depends stages a b → Reaches others a b)
    (path : Reaches stages a b) : Reaches others a b :=
  TransGen.closed kept a b path

theorem reflTransGen_lift (kept : ∀ a b, Depends stages a b → Reaches others a b)
    (path : ReflTransGen (Depends stages) a b) : ReflTransGen (Depends others) a b :=
  reflTransGen_closed (fun a b edge => (kept a b edge).to_reflTransGen) a b path

theorem Reaches.mono (included : stages ⊆ others) (path : Reaches stages a b) :
    Reaches others a b :=
  path.lift fun _ _ edge => .single (edge.mono included)

theorem reaches_perm (same : stages.Perm others) : Reaches stages a b ↔ Reaches others a b :=
  ⟨.mono same.subset, .mono same.symm.subset⟩

theorem Reaches.source_listed (path : Reaches stages a b) : a ∈ stages.map (·.id) := by
  obtain ⟨_, ⟨stage, member, rfl, _⟩, _⟩ := TransGen.head'_iff.mp path
  exact List.mem_map_of_mem member

theorem Reaches.target_named (path : Reaches stages a b) : b ∈ stages.flatMap (·.dependsOn) := by
  obtain ⟨_, _, stage, member, _, named⟩ := TransGen.tail'_iff.mp path
  exact List.mem_flatMap.mpr ⟨stage, member, named⟩

theorem Closed.target_listed (closed : Closed stages) (path : Reaches stages a b) :
    b ∈ stages.map (·.id) := by
  obtain ⟨stage, member, named⟩ := List.mem_flatMap.mp path.target_named
  exact closed stage member b named

theorem Acyclic.of_lift (acyclic : Acyclic others)
    (kept : ∀ a b, Depends stages a b → Reaches others a b) : Acyclic stages :=
  fun id ring => acyclic id (ring.lift kept)

theorem Acyclic.mono (acyclic : Acyclic others) (included : stages ⊆ others) : Acyclic stages :=
  acyclic.of_lift fun _ _ edge => .single (edge.mono included)

/-- A transitive relation without rings is well-founded if only listed ids lie below others. -/
theorem wellFounded_of_listed {below : String → String → Prop} (listed : List String)
    (irreflexive : ∀ a, ¬ below a a)
    (transitive : ∀ a b c, below a b → below b c → below a c)
    (covered : ∀ a b, below a b → a ∈ listed) : WellFounded below := by
  classical
  let lower (b : String) : Finset String := listed.toFinset.filter fun a => below a b
  have grows : ∀ a b, below a b → (lower a).card < (lower b).card := by
    intro a b smaller
    have inside : a ∈ lower b := by
      simp only [lower, Finset.mem_filter, List.mem_toFinset]
      exact ⟨covered a b smaller, smaller⟩
    have outside : a ∉ lower a := by
      simp only [lower, Finset.mem_filter]
      exact fun found => irreflexive a found.2
    refine Finset.card_lt_card ⟨fun c found => ?_, fun back => outside (back inside)⟩
    simp only [lower, Finset.mem_filter] at found ⊢
    exact ⟨found.1, transitive c a b found.2 smaller⟩
  exact Subrelation.wf (grows _ _) (InvImage.wf (fun b => (lower b).card) Nat.lt_wfRel.wf)

theorem Acyclic.wellFounded (acyclic : Acyclic stages) :
    WellFounded fun a b => Reaches stages b a :=
  wellFounded_of_listed (stages.flatMap (·.dependsOn)) acyclic
    (fun _ _ _ first second => second.trans first) fun _ _ path => path.target_named

theorem Acyclic.wellFounded_dependents (acyclic : Acyclic stages) :
    WellFounded (Reaches stages) :=
  wellFounded_of_listed (stages.map (·.id)) acyclic
    (fun _ _ _ first second => first.trans second) fun _ _ path => path.source_listed

theorem acyclic_of_wellFounded
    (founded : WellFounded fun a b => Depends stages b a) : Acyclic stages := by
  intro id ring
  have swapped : TransGen (fun a b => Depends stages b a) id id := transGen_swap.mpr ring
  exact founded.transGen.asymmetric id id swapped swapped

/-- From every stage one comes to a stage without dependencies. -/
theorem Acyclic.exists_root (acyclic : Acyclic stages) (closed : Closed stages)
    (member : stage ∈ stages) :
    ∃ root ∈ stages, root.dependsOn = [] ∧
      ReflTransGen (Depends stages) stage.id root.id := by
  induction named : stage.id using acyclic.wellFounded.induction generalizing stage with
  | _ id ih =>
      subst named
      cases upstream : stage.dependsOn with
      | nil => exact ⟨stage, member, upstream, .refl⟩
      | cons next rest =>
          have edge : Depends stages stage.id next := .of_mem member (by simp [upstream])
          obtain ⟨before, listed, same⟩ :=
            List.mem_map.mp (closed stage member next (by simp [upstream]))
          obtain ⟨root, rootListed, isRoot, path⟩ := ih next (.single edge) listed same
          exact ⟨root, rootListed, isRoot, path.head edge⟩

theorem mem_leaves {id : String} :
    id ∈ leaves stages ↔ id ∈ stages.map (·.id) ∧ ∀ other, ¬ Depends stages other id := by
  simp only [leaves, List.mem_map, List.mem_filter, Bool.not_eq_true', List.any_eq_false,
    List.contains_eq_mem, decide_eq_true_eq]
  constructor
  · rintro ⟨leaf, ⟨member, free⟩, rfl⟩
    refine ⟨⟨leaf, member, rfl⟩, ?_⟩
    rintro _ ⟨other, listed, rfl, named⟩
    exact free other listed named
  · rintro ⟨⟨leaf, member, rfl⟩, free⟩
    exact ⟨leaf, ⟨member, fun other listed named => free other.id (.of_mem listed named)⟩, rfl⟩

theorem Acyclic.exists_leaf (acyclic : Acyclic stages) (listed : a ∈ stages.map (·.id)) :
    ∃ leaf ∈ leaves stages, ReflTransGen (Depends stages) leaf a := by
  induction a using acyclic.wellFounded_dependents.induction with
  | _ id ih =>
      by_cases free : ∀ other, ¬ Depends stages other id
      · exact ⟨id, mem_leaves.mpr ⟨listed, free⟩, .refl⟩
      · simp only [not_forall, not_not] at free
        obtain ⟨other, edge⟩ := free
        have path : Reaches stages other id := .single edge
        obtain ⟨leaf, isLeaf, toOther⟩ := ih other path path.source_listed
        exact ⟨leaf, isLeaf, toOther.tail edge⟩

/-- Checks the order of stages of which some stand ahead already. -/
def isInOrder : List String → List Stage → Bool
  | _, [] => true
  | ahead, stage :: rest =>
      stage.dependsOn.all ahead.contains && isInOrder (ahead ++ [stage.id]) rest

theorem isInOrder_iff {ahead : List String} :
    isInOrder ahead stages = true ↔
      ∀ before stage after, stages = before ++ stage :: after →
        ∀ id ∈ stage.dependsOn, id ∈ ahead ++ before.map (·.id) := by
  induction stages generalizing ahead with
  | nil => simp [isInOrder]
  | cons first rest ih =>
      simp only [isInOrder, Bool.and_eq_true, ih, List.all_eq_true, List.contains_eq_mem,
        decide_eq_true_eq]
      constructor
      · rintro ⟨known, later⟩ before stage after split id named
        cases before with
        | nil =>
            obtain ⟨rfl, rfl⟩ := List.cons.inj split
            simpa using known id named
        | cons head front =>
            obtain ⟨rfl, tail⟩ := List.cons.inj split
            simpa using later front stage after tail id named
      · intro all
        refine ⟨fun id named => by simpa using all [] first rest rfl id named, ?_⟩
        intro before stage after split id named
        simpa using all (first :: before) stage after (by rw [split]; rfl) id named

instance (stages : List Stage) : Decidable (InOrder stages) :=
  decidable_of_iff (isInOrder [] stages = true) isInOrder_iff

theorem depends_map (change : Stage → Stage) (sameId : ∀ s, (change s).id = s.id)
    (sameDependencies : ∀ s, (change s).dependsOn = s.dependsOn) :
    Depends (stages.map change) a b ↔ Depends stages a b := by
  simp [Depends, sameId, sameDependencies]

theorem reaches_map (change : Stage → Stage) (sameId : ∀ s, (change s).id = s.id)
    (sameDependencies : ∀ s, (change s).dependsOn = s.dependsOn) :
    Reaches (stages.map change) a b ↔ Reaches stages a b := by
  have same : Depends (stages.map change) = Depends stages := by
    funext a b
    exact propext (depends_map change sameId sameDependencies)
  rw [Reaches, Reaches, same]

theorem InOrder.map {change : Stage → Stage} (ordered : InOrder stages)
    (sameId : ∀ s, (change s).id = s.id)
    (sameDependencies : ∀ s, (change s).dependsOn = s.dependsOn) :
    InOrder (stages.map change) := by
  intro before stage after split id named
  obtain ⟨front, back, rfl, rfl, second⟩ := List.map_eq_append_iff.mp split
  obtain ⟨original, rest, rfl, rfl, rfl⟩ := List.map_eq_cons_iff.mp second
  rw [sameDependencies] at named
  have earlier := ordered front original rest rfl id named
  rw [List.map_map]
  simpa [Function.comp_def, sameId] using earlier

end StagePlan.Graph
