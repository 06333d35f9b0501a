import StagePlan.Proofs.Graph.Reachability
import StagePlan.Proofs.Matching
import StagePlan.Proofs.Success
import StagePlan.Resolution.Stages

namespace StagePlan

open StagePlan.Graph

/-!
What rendering leaves alone. A rendered stage differs from the written one in nothing but its
configuration and its conditions; a placeholder stands where it was written, and the stages that
come in for it are copies of it or the stages of its partial.
-/

/-- Two stages that stand at one place of the order. -/
structure SamePlace (written rendered : Stage) : Prop where
  id_eq : rendered.id = written.id
  dependsOn_eq : rendered.dependsOn = written.dependsOn
  inject_eq : rendered.inject? = written.inject?

/-- Two stages that differ in nothing but their configurations and conditions. -/
def SameOutline (written rendered : Stage) : Prop :=
  rendered = { written with config? := rendered.config?, conditions := rendered.conditions }

theorem SameOutline.samePlace {written rendered : Stage} (same : SameOutline written rendered) :
    SamePlace written rendered := by
  rw [SameOutline] at same
  exact ⟨by rw [same], by rw [same], by rw [same]⟩

/-- Every stage of the partials depends only on others of its partial. -/
def ClosedPartials (partials : List Partial) : Prop :=
  ∀ p ∈ partials, Closed p.stages

variable {r : Renderer} {ctx : RenderContext} {s : StageRenderer} {stage : Stage}
  {stages : List Stage} {conditions : List Value}

namespace StageRenderer

theorem renderStage_outline {rendered : Stage} (done : renderStage r ctx stage = .ok rendered) :
    SameOutline stage rendered := by
  unfold renderStage at done
  split at done
  · contradiction
  · split at done
    · contradiction
    · cases done
      rfl

/-- Each copy is what the stage is rendered to for its element, which it sees with its position. -/
theorem renderCopies_renderStage {position : Nat} {elements : List Value} {copies : List Stage}
    (done : renderCopies r ctx stage position elements = .ok copies) :
    List.Forall₂ (fun (element, position) copy =>
        renderStage r (loopContext ctx position element) (loopCopy stage position) = .ok copy)
      (elements.zipIdx position) copies := by
  induction elements generalizing position copies with
  | nil =>
      cases done
      exact .nil
  | cons element rest ih =>
      unfold renderCopies at done
      split at done
      · contradiction
      · rename_i copy first
        split at done
        · contradiction
        · rename_i others later
          cases done
          exact .cons first (ih later)

theorem renderCopies_outlines {position : Nat} {elements : List Value} {copies : List Stage}
    (done : renderCopies r ctx stage position elements = .ok copies) :
    List.Forall₂ SameOutline ((List.range' position elements.length).map (loopCopy stage))
      copies := by
  rw [← List.zipIdx_map_snd position elements, List.map_map, List.forall₂_map_left_iff]
  exact (renderCopies_renderStage done).imp fun _ _ => renderStage_outline

theorem renderLoop_outlines {elements : Value} {copies : List Stage}
    (done : s.renderLoop stage elements = .ok copies) :
    ∃ count, List.Forall₂ SameOutline ((List.range count).map (loopCopy stage)) copies := by
  unfold renderLoop at done
  split at done
  · contradiction
  · rename_i elements _
    refine ⟨elements.length, ?_⟩
    rw [List.range_eq_range']
    exact renderCopies_outlines done
  · contradiction

/-- Each stage that comes in for a placeholder is what a stage of the partial is rendered to, with
the conditions of the placeholder behind its own. -/
theorem renderMembers_renderStage {members : List Stage}
    (done : renderMembers r ctx stage conditions stages = .ok members) :
    List.Forall₂ (fun member part => ∃ rendered,
        renderStage r ctx (memberOf stage member) = .ok rendered ∧
          part = { rendered with conditions := rendered.conditions ++ conditions })
      stages members := by
  induction stages generalizing members with
  | nil =>
      cases done
      exact .nil
  | cons member rest ih =>
      unfold renderMembers at done
      split at done
      · contradiction
      · rename_i rendered first
        split at done
        · contradiction
        · rename_i others later
          cases done
          exact .cons ⟨rendered, first, rfl⟩ (ih later)

theorem renderMembers_outlines {members : List Stage}
    (done : renderMembers r ctx stage conditions stages = .ok members) :
    List.Forall₂ SameOutline (stages.map (memberOf stage)) members := by
  rw [List.forall₂_map_left_iff]
  refine (renderMembers_renderStage done).imp fun member part => ?_
  rintro ⟨rendered, first, rfl⟩
  have same := renderStage_outline first
  rw [SameOutline] at same ⊢
  rw [same]

theorem renderPartial_outlines {id : String} {members : List Stage}
    (done : s.renderPartial stage id = .ok members) :
    ∃ p ∈ s.partials, p.id = id ∧
      List.Forall₂ SameOutline (p.stages.map (memberOf stage)) members := by
  unfold renderPartial at done
  split at done
  · contradiction
  · rename_i p found
    refine ⟨p, List.mem_of_find?_eq_some found, by simpa using List.find?_some found, ?_⟩
    split at done
    · contradiction
    · split at done
      · contradiction
      · split at done
        · contradiction
        · exact renderMembers_outlines done

/-- What a written stage comes to when it is rendered. -/
inductive RendersTo (partials : List Partial) (replaced : List String) (written : Stage) :
    RenderedStage → Prop
  | kept : written.id ∈ replaced → RendersTo partials replaced written (.single written)
  | plain {rendered : Stage} : written.loopWith? = none → written.partialId? = none →
      SameOutline written rendered → RendersTo partials replaced written (.single rendered)
  | copies {count : Nat} {copies : List Stage} : written.loopWith? ≠ none →
      List.Forall₂ SameOutline ((List.range count).map (loopCopy written)) copies →
      RendersTo partials replaced written (.group written.placeholder copies)
  | members {p : Partial} {members : List Stage} : written.loopWith? = none →
      written.partialId? = some p.id → p ∈ partials →
      List.Forall₂ SameOutline (p.stages.map (memberOf written)) members →
      RendersTo partials replaced written (.group written.placeholder members)

theorem renderOne_of_replaced {replaced : List String} (named : stage.id ∈ replaced) :
    s.renderOne replaced stage = .ok (.single stage) := by
  simp [renderOne, named]

theorem renderOne_rendersTo {replaced : List String} {rendered : RenderedStage}
    (done : s.renderOne replaced stage = .ok rendered) :
    RendersTo s.partials replaced stage rendered := by
  unfold renderOne at done
  split at done
  · rename_i named
    cases done
    exact .kept (by simpa using named)
  · split at done
    · rename_i elements looped
      obtain ⟨copies, expanded, rfl⟩ := map_eq_ok.mp done
      obtain ⟨count, outlines⟩ := renderLoop_outlines expanded
      exact .copies (by simp [looped]) outlines
    · rename_i id once named
      obtain ⟨members, expanded, rfl⟩ := map_eq_ok.mp done
      obtain ⟨p, listed, rfl, outlines⟩ := renderPartial_outlines expanded
      exact .members once named listed outlines
    · rename_i once own
      obtain ⟨out, alone, rfl⟩ := map_eq_ok.mp done
      exact .plain once own (renderStage_outline alone)

theorem renderAll_renderOne {replaced : List String} {rendered : List RenderedStage}
    (done : s.renderAll replaced stages = .ok rendered) :
    List.Forall₂ (fun stage one => s.renderOne replaced stage = .ok one) stages rendered := by
  induction stages generalizing rendered with
  | nil =>
      cases done
      exact .nil
  | cons stage rest ih =>
      unfold renderAll at done
      split at done
      · contradiction
      · rename_i first one
        split at done
        · contradiction
        · rename_i others later
          cases done
          exact .cons one (ih later)

theorem renderAll_rendersTo {replaced : List String} {rendered : List RenderedStage}
    (done : s.renderAll replaced stages = .ok rendered) :
    List.Forall₂ (RendersTo s.partials replaced) stages rendered :=
  (renderAll_renderOne done).imp fun _ _ one => renderOne_rendersTo one

end StageRenderer

theorem ids_of_samePlace {written rendered : List Stage}
    (same : List.Forall₂ SamePlace written rendered) :
    rendered.map (·.id) = written.map (·.id) := by
  induction same with
  | nil => rfl
  | cons first _ ih => rw [List.map_cons, List.map_cons, first.id_eq, ih]

theorem closed_of_samePlace {written rendered : List Stage}
    (same : List.Forall₂ SamePlace written rendered) (closed : Closed written) :
    Closed rendered := by
  intro b listed id named
  obtain ⟨a, member, place⟩ := exists_left same listed
  rw [ids_of_samePlace same]
  exact closed a member id (place.dependsOn_eq ▸ named)

theorem closed_memberOf (closed : Closed stages) (placeholder : Stage) :
    Closed (stages.map (StageRenderer.memberOf placeholder)) := by
  intro renamed listed id named
  obtain ⟨member, inPartial, rfl⟩ := List.mem_map.mp listed
  obtain ⟨written, among, rfl⟩ := List.mem_map.mp named
  obtain ⟨other, otherListed, rfl⟩ := List.mem_map.mp (closed member inPartial written among)
  exact List.mem_map.mpr ⟨_, List.mem_map_of_mem otherListed, rfl⟩

theorem samePlace_of_outlines {written rendered : List Stage}
    (same : List.Forall₂ SameOutline written rendered) : List.Forall₂ SamePlace written rendered :=
  same.imp fun _ _ one => one.samePlace

namespace StageRenderer

/-- What a rendered stage keeps of the one that was written. -/
structure RenderedFrom (written : Stage) (rendered : RenderedStage) : Prop where
  place : SamePlace written rendered.stage
  closed : ∀ id members, rendered.group? = some (id, members) → Closed members

theorem RendersTo.renderedFrom {partials : List Partial} {replaced : List String}
    {rendered : RenderedStage} (closed : ClosedPartials partials)
    (renders : RendersTo partials replaced stage rendered) : RenderedFrom stage rendered := by
  cases renders with
  | kept => exact ⟨⟨rfl, rfl, rfl⟩, by simp [RenderedStage.group?]⟩
  | plain _ _ outline => exact ⟨outline.samePlace, by simp [RenderedStage.group?]⟩
  | copies _ outlines =>
      refine ⟨⟨rfl, rfl, rfl⟩, fun id members found => ?_⟩
      cases found
      refine closed_of_samePlace (samePlace_of_outlines outlines) fun copy listed id named => ?_
      obtain ⟨position, _, rfl⟩ := List.mem_map.mp listed
      simp [loopCopy] at named
  | members _ _ listed outlines =>
      refine ⟨⟨rfl, rfl, rfl⟩, fun id members found => ?_⟩
      cases found
      exact closed_of_samePlace (samePlace_of_outlines outlines)
        (closed_memberOf (closed _ listed) stage)

theorem loopCopy_id_injective (written : Stage) :
    Function.Injective fun position => (loopCopy written position).id := by
  intro first second same
  have shown : toString first = toString second := (String.append_right_inj _).mp same
  have digits : Nat.toDigits 10 first = Nat.toDigits 10 second := by
    simpa [Nat.toString_eq_ofList_toDigits] using congrArg String.toList shown
  rw [← Nat.ofDigitChars_ten_toDigits (n := first), digits, Nat.ofDigitChars_ten_toDigits]

theorem memberOf_id_injective (placeholder : Stage) :
    Function.Injective fun id : String => placeholder.id ++ "." ++ id :=
  fun _ _ same => (String.append_right_inj _).mp same

theorem RendersTo.distinct_members {partials : List Partial} {replaced : List String}
    {rendered : RenderedStage} (distinct : ∀ p ∈ partials, (p.stages.map (·.id)).Nodup)
    (renders : RendersTo partials replaced stage rendered) {id : String} {members : List Stage}
    (grouped : rendered.group? = some (id, members)) : (members.map (·.id)).Nodup := by
  cases renders with
  | kept | plain => contradiction
  | copies _ outlines =>
      cases grouped
      rw [ids_of_samePlace (samePlace_of_outlines outlines), List.map_map]
      exact List.nodup_range.map (loopCopy_id_injective stage)
  | @members p _ _ _ listed outlines =>
      cases grouped
      have ids : (p.stages.map (memberOf stage)).map (·.id) =
          (p.stages.map (·.id)).map fun id => stage.id ++ "." ++ id := by
        rw [List.map_map, List.map_map]
        rfl
      rw [ids_of_samePlace (samePlace_of_outlines outlines), ids]
      exact (distinct p listed).map (memberOf_id_injective stage)

theorem samePlace_of_rendered {rendered : List RenderedStage}
    (all : List.Forall₂ RenderedFrom stages rendered) :
    List.Forall₂ SamePlace stages (rendered.map RenderedStage.stage) :=
  List.forall₂_map_right_iff.mpr (all.imp fun _ _ one => one.place)

end StageRenderer

theorem mem_of_find?_groups {rendered : List RenderedStage} {id : String} {members : List Stage}
    (found : (RenderedStage.groups rendered).find? id = some members) :
    ∃ one ∈ rendered, one.group? = some (id, members) :=
  List.mem_filterMap.mp (Bindings.mem_of_find?_ofPairs found)

theorem find?_groups_ne_none {rendered : List RenderedStage} {one : RenderedStage} {id : String}
    {members : List Stage} (listed : one ∈ rendered) (grouped : one.group? = some (id, members)) :
    (RenderedStage.groups rendered).find? id ≠ none := by
  rw [Ne, Bindings.find?_eq_none, RenderedStage.groups, Bindings.mem_names_ofPairs, not_not]
  exact List.mem_map.mpr ⟨(id, members), List.mem_filterMap.mpr ⟨one, listed, grouped⟩, rfl⟩

theorem single_of_find?_groups {rendered : List RenderedStage} {one : RenderedStage}
    (listed : one ∈ rendered)
    (plain : (RenderedStage.groups rendered).find? one.stage.id = none) :
    one = .single one.stage := by
  cases one with
  | single stage => rfl
  | group placeholder members => exact absurd plain (find?_groups_ne_none listed rfl)

end StagePlan
