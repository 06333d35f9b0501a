import StagePlan.Proofs.Rendering.Calls
import StagePlan.Proofs.Rendering.Spots

namespace StagePlan.Rendering

/-!
The calls of trees. A tree is rendered in the order of the document, a key before the value under
it, and nothing behind the first failure is looked at.
-/

variable {interpret other : Interpret} {asked : String → List ModuleCall}
  {relevant : ModuleCall → Prop} {cause : RenderCause}

/-- The calls of a key. -/
def keyCalls (asked : String → List ModuleCall) (key : String) : List ModuleCall :=
  if Markup.hasMarkers key then asked key else []

mutual

/-- The calls of a tree, given those of a single string. -/
def treeCalls (interpret : Interpret) (asked : String → List ModuleCall) (path : List String) :
    Value → List ModuleCall
  | .string source => asked source
  | .list items => itemCalls interpret asked path 0 items
  | .map entries => entryCalls interpret asked path [] entries
  | _ => []

def itemCalls (interpret : Interpret) (asked : String → List ModuleCall) (path : List String) :
    Nat → List Value → List ModuleCall
  | _, [] => []
  | position, item :: rest =>
      treeCalls interpret asked (path ++ [toString position]) item ++
        match renderTree interpret (path ++ [toString position]) item with
        | .error _ => []
        | .ok _ => itemCalls interpret asked path (position + 1) rest

def entryCalls (interpret : Interpret) (asked : String → List ModuleCall) (path : List String) :
    List String → List (String × Value) → List ModuleCall
  | _, [] => []
  | known, (source, item) :: rest =>
      keyCalls asked source ++
        match renderKey interpret (path ++ [source]) source with
        | .error _ => []
        | .ok key =>
            treeCalls interpret asked (path ++ [source]) item ++
              match renderTree interpret (path ++ [source]) item with
              | .error _ => []
              | .ok _ =>
                  if known.contains key then []
                  else entryCalls interpret asked path (key :: known) rest

end

/-- Strings with none but relevant calls come out alike. -/
def Agree (interpret other : Interpret) (asked : String → List ModuleCall)
    (relevant : ModuleCall → Prop) : Prop :=
  ∀ path source, (∀ call ∈ asked source, relevant call) →
    other path source = interpret path source

theorem renderKey_eq_of_calls (strings : Agree interpret other asked relevant)
    {path : List String} {key : String}
    (agree : ∀ call ∈ keyCalls asked key, relevant call) :
    renderKey other path key = renderKey interpret path key := by
  unfold renderKey
  unfold keyCalls at agree
  split
  · rename_i marked
    rw [if_pos marked] at agree
    rw [strings path key agree]
  · rfl

mutual

/-- Trees are rendered alike where the strings of all relevant calls are. -/
theorem renderTree_eq_of_calls (strings : Agree interpret other asked relevant)
    (path : List String) :
    ∀ v : Value, (∀ call ∈ treeCalls interpret asked path v, relevant call) →
      renderTree other path v = renderTree interpret path v
  | .string source, agree => by
      rw [treeCalls] at agree
      rw [renderTree, renderTree]
      exact strings path source agree
  | .list items, agree => by
      rw [treeCalls] at agree
      rw [renderTree, renderTree, renderItems_eq_of_calls strings path 0 items agree]
  | .map entries, agree => by
      rw [treeCalls] at agree
      rw [renderTree, renderTree, renderEntries_eq_of_calls strings path [] entries agree]
  | .null, _ | .bool _, _ | .number _, _ => by simp only [renderTree]

theorem renderItems_eq_of_calls (strings : Agree interpret other asked relevant)
    (path : List String) :
    ∀ (position : Nat) (items : List Value),
      (∀ call ∈ itemCalls interpret asked path position items, relevant call) →
        renderItems other path position items = renderItems interpret path position items
  | _, [], _ => by simp only [renderItems]
  | position, item :: rest, agree => by
      rw [itemCalls, List.forall_mem_append] at agree
      rw [renderItems, renderItems, renderTree_eq_of_calls strings _ item agree.1]
      cases done : renderTree interpret (path ++ [toString position]) item with
      | error e => rfl
      | ok rendered =>
          simp only [done] at agree
          rw [renderItems_eq_of_calls strings path (position + 1) rest agree.2]

theorem renderEntries_eq_of_calls (strings : Agree interpret other asked relevant)
    (path : List String) :
    ∀ (known : List String) (entries : List (String × Value)),
      (∀ call ∈ entryCalls interpret asked path known entries, relevant call) →
        renderEntries other path known entries = renderEntries interpret path known entries
  | _, [], _ => by simp only [renderEntries]
  | known, (source, item) :: rest, agree => by
      rw [entryCalls, List.forall_mem_append] at agree
      rw [renderEntries, renderEntries, renderKey_eq_of_calls strings agree.1]
      cases named : renderKey interpret (path ++ [source]) source with
      | error e => rfl
      | ok key =>
          simp only [named, List.forall_mem_append] at agree
          dsimp only
          rw [renderTree_eq_of_calls strings _ item agree.2.1]
          cases done : renderTree interpret (path ++ [source]) item with
          | error e => rfl
          | ok rendered =>
              simp only [done] at agree
              dsimp only
              split
              · rfl
              · rename_i fresh
                rw [if_neg fresh] at agree
                rw [renderEntries_eq_of_calls strings path (key :: known) rest agree.2.2]

end

/-- The calls that are made at a spot. -/
def spotCalls (asked : String → List ModuleCall) : Spot → List ModuleCall
  | .text source => asked source
  | .key source => keyCalls asked source
  | .keys _ => []

mutual

/-- A call of a tree is made at a spot of it, and if that spot fails, so does the tree. -/
theorem spot_of_call {call : ModuleCall} (path : List String) :
    ∀ v : Value, call ∈ treeCalls interpret asked path v →
      ∃ steps spot, Leads v steps spot ∧ call ∈ spotCalls asked spot ∧
        ∀ e, FailsAt interpret (path ++ steps) e spot → renderTree interpret path v = .error e
  | .string source, made => by
      rw [treeCalls] at made
      refine ⟨[], .text source, .text source, made, ?_⟩
      intro e failed
      rw [List.append_nil] at failed
      rw [renderTree]
      exact failed
  | .list items, made => by
      rw [treeCalls] at made
      obtain ⟨i, item, steps, spot, found, leads, here, fails⟩ := spot_of_itemCall path 0 items made
      refine ⟨toString i :: steps, spot, .item found leads, here, ?_⟩
      intro e failed
      rw [Nat.zero_add] at fails
      rw [renderTree, fails e failed]
  | .map entries, made => by
      rw [treeCalls] at made
      obtain ⟨steps, spot, leads, here, fails⟩ := spot_of_entryCall path [] [] entries made
      refine ⟨steps, spot, leads, here, ?_⟩
      intro e failed
      rw [renderTree, fails e failed]
  | .null, made | .bool _, made | .number _, made => by simp [treeCalls] at made

theorem spot_of_itemCall {call : ModuleCall} (path : List String) :
    ∀ (position : Nat) (items : List Value), call ∈ itemCalls interpret asked path position items →
      ∃ (i : Nat) (item : Value) (steps : List String) (spot : Spot), items[i]? = some item ∧
        Leads item steps spot ∧ call ∈ spotCalls asked spot ∧
        ∀ e, FailsAt interpret (path ++ toString (position + i) :: steps) e spot →
          renderItems interpret path position items = .error e
  | _, [], made => by simp [itemCalls] at made
  | position, item :: rest, made => by
      rw [itemCalls, List.mem_append] at made
      rcases made with here | later
      · obtain ⟨steps, spot, leads, here, fails⟩ := spot_of_call _ item here
        refine ⟨0, item, steps, spot, rfl, leads, here, ?_⟩
        intro e failed
        rw [List.append_assoc] at fails
        rw [renderItems, fails e failed]
      · cases done : renderTree interpret (path ++ [toString position]) item with
        | error e =>
            rw [done] at later
            simp at later
        | ok rendered =>
            simp only [done] at later
            obtain ⟨i, other, steps, spot, found, leads, here, fails⟩ :=
              spot_of_itemCall path (position + 1) rest later
            refine ⟨i + 1, other, steps, spot, found, leads, here, ?_⟩
            intro e failed
            rw [show position + (i + 1) = position + 1 + i by omega] at failed
            rw [renderItems, done]
            dsimp only
            rw [fails e failed]

theorem spot_of_entryCall {call : ModuleCall} (path : List String) :
    ∀ (before : List (String × Value)) (known : List String) (entries : List (String × Value)),
      call ∈ entryCalls interpret asked path known entries →
        ∃ steps spot, Leads (.map (before ++ entries)) steps spot ∧ call ∈ spotCalls asked spot ∧
          ∀ e, FailsAt interpret (path ++ steps) e spot →
            renderEntries interpret path known entries = .error e
  | _, _, [], made => by simp [entryCalls] at made
  | before, known, (source, item) :: rest, made => by
      have listed : (source, item) ∈ before ++ (source, item) :: rest := by simp
      rw [entryCalls, List.mem_append] at made
      rcases made with here | later
      · refine ⟨[source], .key source, .key listed, here, ?_⟩
        intro e failed
        rw [FailsAt] at failed
        rw [renderEntries, failed]
      · cases named : renderKey interpret (path ++ [source]) source with
        | error e => simp [named] at later
        | ok key =>
            simp only [named, List.mem_append] at later
            rcases later with here | later
            · obtain ⟨steps, spot, leads, here, fails⟩ := spot_of_call _ item here
              refine ⟨source :: steps, spot, .value listed leads, here, ?_⟩
              intro e failed
              rw [List.append_assoc] at fails
              rw [renderEntries, named]
              dsimp only
              rw [fails e failed]
            · cases done : renderTree interpret (path ++ [source]) item with
              | error e => simp [done] at later
              | ok rendered =>
                  simp only [done] at later
                  split at later
                  · simp at later
                  · rename_i fresh
                    obtain ⟨steps, spot, leads, here, fails⟩ :=
                      spot_of_entryCall path (before ++ [(source, item)]) (key :: known) rest later
                    rw [List.append_assoc] at leads
                    refine ⟨steps, spot, leads, here, ?_⟩
                    intro e failed
                    rw [renderEntries, named]
                    dsimp only
                    rw [done]
                    dsimp only
                    rw [if_neg fresh, fails e failed]

end

mutual

/-- A tree fails as a spot of it does, the calls of which are made. -/
theorem spot_of_failure {e : RenderError} (asked : String → List ModuleCall) (path : List String) :
    ∀ v : Value, renderTree interpret path v = .error e →
      ∃ steps spot, Leads v steps spot ∧ FailsAt interpret (path ++ steps) e spot ∧
        spotCalls asked spot ⊆ treeCalls interpret asked path v
  | .string source, failed => by
      rw [renderTree] at failed
      refine ⟨[], .text source, .text source, ?_, ?_⟩
      · rw [List.append_nil]
        exact failed
      · rw [treeCalls]
        exact List.Subset.refl _
  | .list items, failed => by
      rw [renderTree] at failed
      split at failed
      · cases failed
      · rename_i inner items_failed
        cases failed
        obtain ⟨i, item, steps, spot, found, leads, fails, calls⟩ :=
          spot_of_itemFailure asked path 0 items items_failed
        rw [Nat.zero_add] at fails
        rw [treeCalls]
        exact ⟨toString i :: steps, spot, .item found leads, fails, calls⟩
  | .map entries, failed => by
      rw [renderTree] at failed
      split at failed
      · cases failed
      · rename_i inner entries_failed
        cases failed
        obtain ⟨steps, spot, leads, fails, calls⟩ :=
          spot_of_entryFailure asked path [] [] (by simp) entries entries_failed
        rw [treeCalls]
        exact ⟨steps, spot, leads, fails, calls⟩
  | .null, failed | .bool _, failed | .number _, failed => by simp [renderTree] at failed

theorem spot_of_itemFailure {e : RenderError} (asked : String → List ModuleCall)
    (path : List String) :
    ∀ (position : Nat) (items : List Value),
      renderItems interpret path position items = .error e →
        ∃ (i : Nat) (item : Value) (steps : List String) (spot : Spot), items[i]? = some item ∧
          Leads item steps spot ∧
          FailsAt interpret (path ++ toString (position + i) :: steps) e spot ∧
          spotCalls asked spot ⊆ itemCalls interpret asked path position items
  | _, [], failed => by simp [renderItems] at failed
  | position, item :: rest, failed => by
      rw [renderItems] at failed
      rw [itemCalls]
      cases done : renderTree interpret (path ++ [toString position]) item with
      | error inner =>
          rw [done] at failed
          cases failed
          obtain ⟨steps, spot, leads, fails, calls⟩ := spot_of_failure asked _ item done
          rw [List.append_assoc] at fails
          exact ⟨0, item, steps, spot, rfl, leads, fails, List.subset_append_of_subset_left _ calls⟩
      | ok rendered =>
          simp only [done] at failed
          split at failed
          · rename_i inner rest_failed
            cases failed
            obtain ⟨i, other, steps, spot, found, leads, fails, calls⟩ :=
              spot_of_itemFailure asked path (position + 1) rest rest_failed
            rw [show position + 1 + i = position + (i + 1) by omega] at fails
            exact ⟨i + 1, other, steps, spot, found, leads, fails,
              List.subset_append_of_subset_right _ calls⟩
          · cases failed

/-- The keys that are known are the texts of keys of entries before. -/
theorem spot_of_entryFailure {e : RenderError} (asked : String → List ModuleCall)
    (path : List String) :
    ∀ (before : List (String × Value)) (known : List String),
      (∀ key ∈ known, ∃ entry ∈ before,
        renderKey interpret (path ++ [entry.1]) entry.1 = .ok key) →
      ∀ entries : List (String × Value), renderEntries interpret path known entries = .error e →
        ∃ steps spot, Leads (.map (before ++ entries)) steps spot ∧
          FailsAt interpret (path ++ steps) e spot ∧
          spotCalls asked spot ⊆ entryCalls interpret asked path known entries
  | _, _, _, [], failed => by simp [renderEntries] at failed
  | before, known, earlier, (source, item) :: rest, failed => by
      have listed : (source, item) ∈ before ++ (source, item) :: rest := by simp
      rw [renderEntries] at failed
      rw [entryCalls]
      cases named : renderKey interpret (path ++ [source]) source with
      | error inner =>
          obtain rfl : inner = e := by simpa [named] using failed
          exact ⟨[source], .key source, .key listed, named, List.subset_append_left _ _⟩
      | ok key =>
          simp only [named] at failed
          dsimp only
          cases done : renderTree interpret (path ++ [source]) item with
          | error inner =>
              obtain rfl : inner = e := by simpa [done] using failed
              obtain ⟨steps, spot, leads, fails, calls⟩ := spot_of_failure asked _ item done
              rw [List.append_assoc] at fails
              refine ⟨source :: steps, spot, .value listed leads, fails, ?_⟩
              exact List.subset_append_of_subset_right _ (List.subset_append_of_subset_left _ calls)
          | ok rendered =>
              simp only [done] at failed
              split at failed
              · rename_i repeated
                cases failed
                obtain ⟨other, among, same⟩ := earlier key (List.contains_iff_mem.mp repeated)
                refine ⟨[], .keys _, .keys _, ?_, List.nil_subset _⟩
                rw [List.append_nil]
                refine ⟨other, (source, item), key, ?_, same, named, rfl⟩
                exact (List.singleton_sublist.mpr among).append
                  (List.singleton_sublist.mpr List.mem_cons_self)
              · rename_i fresh
                split at failed
                · rename_i inner rest_failed
                  cases failed
                  have longer : ∀ text ∈ key :: known, ∃ entry ∈ before ++ [(source, item)],
                      renderKey interpret (path ++ [entry.1]) entry.1 = .ok text := by
                    intro text among
                    rcases List.mem_cons.mp among with here | known_before
                    · exact ⟨(source, item), by simp, here ▸ named⟩
                    · obtain ⟨entry, among, same⟩ := earlier text known_before
                      exact ⟨entry, List.mem_append_left _ among, same⟩
                  obtain ⟨steps, spot, leads, fails, calls⟩ :=
                    spot_of_entryFailure asked path _ (key :: known) longer rest rest_failed
                  rw [List.append_assoc] at leads
                  refine ⟨steps, spot, leads, fails, ?_⟩
                  dsimp only
                  rw [if_neg fresh]
                  exact List.subset_append_of_subset_right _
                    (List.subset_append_of_subset_right _ calls)
                · cases failed

end

/-- A relevant call makes a string fail. -/
def CallsFail (interpret : Interpret) (asked : String → List ModuleCall)
    (relevant : ModuleCall → Prop) (cause : RenderCause) : Prop :=
  ∀ path source, (∃ call ∈ asked source, relevant call) → FailsFor (interpret path source) cause

theorem renderKey_fails (strings : CallsFail interpret asked relevant cause)
    {path : List String} {key : String}
    (made : ∃ call ∈ keyCalls asked key, relevant call) :
    FailsFor (renderKey interpret path key) cause := by
  unfold keyCalls at made
  unfold renderKey
  split at made
  · rename_i marked
    obtain ⟨e, failed, same⟩ := strings path key made
    rw [if_pos marked, failed]
    exact ⟨e, rfl, same⟩
  · simp at made

/-- A relevant call in any string of a tree makes the tree fail. -/
theorem renderTree_fails (strings : CallsFail interpret asked relevant cause)
    (path : List String) (v : Value)
    (made : ∃ call ∈ treeCalls interpret asked path v, relevant call) :
    FailsFor (renderTree interpret path v) cause := by
  obtain ⟨call, listed, matters⟩ := made
  obtain ⟨steps, spot, _, here, fails⟩ := spot_of_call path v listed
  cases spot with
  | text source =>
      obtain ⟨e, failed, same⟩ := strings (path ++ steps) source ⟨call, here, matters⟩
      exact ⟨e, fails e failed, same⟩
  | key source =>
      obtain ⟨e, failed, same⟩ := renderKey_fails strings ⟨call, here, matters⟩
      exact ⟨e, fails e failed, same⟩
  | keys entries => simp [spotCalls] at here

/-- A string fails for a cause only where it has a relevant call. -/
def FailuresCall (interpret : Interpret) (asked : String → List ModuleCall)
    (relevant : ModuleCall → Prop) (cause : RenderCause) : Prop :=
  ∀ path source, FailsFor (interpret path source) cause → ∃ call ∈ asked source, relevant call

theorem call_of_renderKey_fails (runaway : Runaway cause)
    (strings : FailuresCall interpret asked relevant cause) {path : List String} {key : String}
    (fails : FailsFor (renderKey interpret path key) cause) :
    ∃ call ∈ keyCalls asked key, relevant call := by
  obtain ⟨e, failed, rfl⟩ := fails
  unfold renderKey at failed
  unfold keyCalls
  split at failed
  · rename_i marked
    rw [if_pos marked]
    split at failed
    · rename_i v rendered
      -- a value without a text is no failure of a module
      unfold textAt at failed
      split at failed
      · cases failed
      · cases failed
        cases runaway
    · rename_i inner rendered
      cases failed
      exact strings path key ⟨_, rendered, rfl⟩
  · cases failed

/-- Where a tree fails for a cause that only calls have, there is such a call. -/
theorem call_of_renderTree_fails (runaway : Runaway cause)
    (strings : FailuresCall interpret asked relevant cause) (path : List String) (v : Value)
    (fails : FailsFor (renderTree interpret path v) cause) :
    ∃ call ∈ treeCalls interpret asked path v, relevant call := by
  obtain ⟨e, failed, same⟩ := fails
  obtain ⟨steps, spot, _, here, calls⟩ := spot_of_failure asked path v failed
  cases spot with
  | text source =>
      obtain ⟨call, listed, matters⟩ := strings (path ++ steps) source ⟨e, here, same⟩
      exact ⟨call, calls listed, matters⟩
  | key source =>
      obtain ⟨call, listed, matters⟩ := call_of_renderKey_fails runaway strings ⟨e, here, same⟩
      exact ⟨call, calls listed, matters⟩
  | keys entries =>
      -- two equal keys are no failure of a module either
      obtain ⟨_, _, _, _, _, _, rfl⟩ := here
      cases same
      cases runaway

end StagePlan.Rendering
