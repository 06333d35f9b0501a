import StagePlan.Proofs.Rendering.Calls
import StagePlan.Proofs.Rendering.TypedMarker

namespace StagePlan

/-!
A string that is one output marker, and the same behind letters, where it becomes a text. The letters
are followed by the text of the value that the string alone becomes, and where the expression cannot
be read it can be read in neither.
-/

open Expression Rendering

namespace Rendering

variable {source source' : List Char} {whole? whole?' : Option (List Char)} {fault : Fault}
  {place? place?' : Option Place} {cause : MalformedCause}

/-- Whether something is malformed does not depend on where that comes up. -/
theorem causeOf_eq_malformed (same : causeOf source whole? fault place? = .malformed cause) :
    causeOf source' whole?' fault place?' = .malformed cause := by
  cases fault <;> first | exact same | cases same

/-- A value as it comes back from its document, and its text behind another text. -/
theorem readBack_alike {w : Value} (formed : w.WellFormed) (path : List String) (lead : String) :
    let shownBehind : Except RenderError Value := do
      let shown ← textAt path w
      pure (.string (lead ++ shown))
    (∀ cause : MalformedCause,
      FailsFor (readBack path w) (.malformed cause) ↔ FailsFor shownBehind (.malformed cause)) ∧
      ∀ v t, readBack path w = .ok v → shownBehind = .ok t → ∃ shown,
        Json.value? w.document = some v ∧ w.text = .ok shown ∧ t = .string (lead ++ shown) ∧
          (w.ReadsBack → v = w) := by
  intro shownBehind
  have unbroken (cause : MalformedCause) : ¬ FailsFor (readBack path w) (.malformed cause) := by
    rw [readBack]
    split <;> simp
  cases written : w.text with
  | error x =>
      have failed : shownBehind = .error ⟨.encoding (.nonFinite x), path⟩ := by
        simp only [shownBehind, textAt, written]
        rfl
      rw [failed]
      exact ⟨fun cause => iff_of_false (unbroken cause) (by simp), by simp⟩
  | ok shown =>
      have done : shownBehind = .ok (.string (lead ++ shown)) := by
        simp only [shownBehind, textAt, written]
        rfl
      rw [done]
      refine ⟨fun cause => iff_of_false (unbroken cause) (by simp), ?_⟩
      rintro v _ back ⟨⟩
      have read := value?_of_readBack back
      refine ⟨shown, read, rfl, rfl, fun exact_ => ?_⟩
      rw [Json.documented_of_value? formed exact_ read,
        w.documented_eq_iff.mpr (Value.nonFinite?_of_text written)]

end Rendering

namespace Renderer

variable (r : Renderer) {frame : Bindings Value} {path : List String} {source : String}
  {e lead text : List Char} {v : Value} {place : Place} {node : Expr Place}

section Behind

variable (untagged : Markup.Untagged text) (opens : ∃ rest, text = Markup.openOutput ++ rest)
  (lead_ : Markup.IsLead lead)

include untagged opens lead_

/-- Behind letters, the text of the value of an expression follows. -/
theorem renderIn_behind (read : readBody (lead ++ text) = .ok [.text lead, .emit place node]) :
    r.renderIn frame path (.string (String.ofList (lead ++ text))) =
      (do
        let value ← r.valueOf frame path (lead ++ text) place node
        let shown ← textAt path value
        pure (.string (String.ofList lead ++ shown))) := by
  have tags : Markup.expandTags (String.ofList (lead ++ text)).toList = .ok (lead ++ text) := by
    rw [String.toList_ofList]
    exact lead_.expandTags_eq untagged
  have written : plainText? [.text lead] = some (String.ofList lead) := by
    simp [plainText?]
  rw [renderIn, renderTree]
  refine (renderString_of_emit (Markup.hasMarkers_of_opens opens lead) tags
    lead_.wholeExpression?_eq_none read written rfl).trans ?_
  simp only [String.append_empty]
  rfl

theorem renderIn_behind_of_fault {fault : SourceFault} (faulty : readBody (lead ++ text) = .error fault) :
    r.renderIn frame path (.string (String.ofList (lead ++ text))) =
      .error ⟨faultCause fault, path⟩ := by
  rw [renderIn, renderTree, renderString, Markup.hasMarkers_of_opens opens lead,
    String.toList_ofList, lead_.expandTags_eq untagged]
  simp only [Bool.not_true, Bool.false_eq_true, if_false, lead_.wholeExpression?_eq_none,
    renderTemplate_of_fault faulty]

end Behind

/-- A string that is one output marker, and the same behind letters. Alone it becomes the value of its
expression, as that comes back from its document, and behind letters the text of the value follows
them; something is malformed in both or in neither. The lexer reads the marker as its expression, the
expression closes no bracket that it does not open and has its commas between brackets, and two more
levels make no difference to whether it can be read: alone it is read within parentheses. -/
theorem typed_and_text_rendering_agree (untagged : Markup.Untagged source.toList)
    (whole : Markup.wholeExpression? source.toList = some e)
    (spelled : kinds (Text.trim source.toList) = kinds (Markup.marker e))
    (enclosed : (level 0 (innerTokens e)).isSome = true)
    (room : faultAt 2 (Markup.marker e) = faultAt 0 (Markup.marker e))
    (lead_ : Markup.IsLead lead) :
    let typed := r.renderIn frame path (.string source)
    let text := r.renderIn frame path (.string (String.ofList (lead ++ Text.trim source.toList)))
    (∀ cause : MalformedCause,
      FailsFor typed (.malformed cause) ↔ FailsFor text (.malformed cause)) ∧
      ∀ v t, typed = .ok v → text = .ok t → ∃ w shown, Json.value? w.document = some v ∧
        w.text = .ok shown ∧ t = .string (String.ofList lead ++ shown) ∧ (w.ReadsBack → v = w) := by
  intro typed text
  have parts := Markup.isWhole_of_wholeExpression? whole
  have untagged' := untagged.infix (Text.trim_infix source.toList)
  obtain ⟨n, reached⟩ := Option.isSome_iff_exists.mp enclosed
  have lexed : kinds (lead ++ Text.trim source.toList) = .text lead :: kinds (Markup.marker e) := by
    rw [lead_.kinds_eq parts.opens, spelled]
  rcases documentTemplate_cases parts.unended (innerTokens_ne_nil parts) reached with
    ⟨fault, faulty, deep⟩ | ⟨-, place, inner, node, document, read⟩
  · have faulty' : readBody (lead ++ Text.trim source.toList) = .error fault := by
      rw [room] at deep
      rcases marker_cases parts.unended reached with ⟨bare, read⟩ | ⟨other, found, behind⟩
      · rw [read.faultAt_eq_none] at deep
        cases deep
      · rw [found] at deep
        cases deep
        exact behind lead _ lexed
    have failed : typed = _ := r.renderIn_of_fault untagged whole faulty
    have failed' : text = _ := r.renderIn_behind_of_fault untagged' parts.opens lead_ faulty'
    rw [failed, failed']
    exact ⟨fun _ => Iff.rfl, by simp⟩
  · obtain ⟨place', node', behind, same⟩ := read.readBody_behind lexed
    have through : typed = _ := r.renderIn_of_document untagged whole document
    have through' : text = _ := r.renderIn_behind untagged' parts.opens lead_ behind
    rw [through, through', valueOf]
    rcases valueIn_of_bare same.symm with
      ⟨w, value, value'⟩ | ⟨fault, place?, place?', failed, failed'⟩ | ⟨failure, failed, failed'⟩
    · obtain ⟨alike, shows⟩ :=
        readBack_alike (wellFormed_of_valueIn value) path (String.ofList lead)
      rw [value, value']
      exact ⟨alike, fun v t back shown => ⟨w, shows v t back shown⟩⟩
    · rw [failed, failed']
      refine ⟨fun cause => ?_, by rintro v t ⟨⟩⟩
      change FailsFor (.error _) _ ↔ FailsFor (.error _) _
      rw [failsFor_error, failsFor_error]
      exact ⟨causeOf_eq_malformed, causeOf_eq_malformed⟩
    · rw [failed, failed']
      refine ⟨fun _ => Iff.rfl, ?_⟩
      rintro v t ⟨⟩

/-- A sum in a marker that takes away the blanks around it. -/
def counted : String := " \x7b\x7b- count * 2 + 1 -\x7d\x7d\n"

theorem typed_and_text_rendering_agree_counted :
    let frame : Bindings Value := [("count", .ofInt 3)]
    let typed := ({} : Renderer).renderIn frame ["config"] (.string counted)
    let text := ({} : Renderer).renderIn frame ["config"]
      (.string (String.ofList ("size".toList ++ Text.trim counted.toList)))
    typed = .ok (.ofInt 7) ∧ text = .ok (.string "size7") ∧
      (∀ cause : MalformedCause,
        FailsFor typed (.malformed cause) ↔ FailsFor text (.malformed cause)) ∧
      ∃ (w : Value) (shown : String), Json.value? w.document = some (.ofInt 7) ∧
        w.text = .ok shown ∧
        Value.string "size7" = .string (String.ofList "size".toList ++ shown) := by
  intro frame typed text
  have untagged : Markup.Untagged counted.toList := Markup.untagged_of_notMem (by decide)
  have whole : Markup.wholeExpression? counted.toList = some "count * 2 + 1".toList := by
    decide +kernel
  have spelled : kinds (Text.trim counted.toList) =
      kinds (Markup.marker "count * 2 + 1".toList) := by
    decide +kernel
  have enclosed : (level 0 (innerTokens "count * 2 + 1".toList)).isSome = true := by
    decide +kernel
  have room : faultAt 2 (Markup.marker "count * 2 + 1".toList) =
      faultAt 0 (Markup.marker "count * 2 + 1".toList) := by
    decide +kernel
  have lead_ : Markup.IsLead "size".toList := Markup.isLead_of_letters (by decide) (by decide)
  have number : typed = .ok (.ofInt 7) := eq_ok_of_toOption (by decide +kernel)
  have written : text = .ok (.string "size7") := eq_ok_of_toOption (by decide +kernel)
  obtain ⟨alike, shows⟩ := typed_and_text_rendering_agree {} untagged whole spelled enclosed room lead_
  obtain ⟨w, shown, read, text_of, behind, -⟩ := shows _ _ number written
  exact ⟨number, written, alike, w, shown, read, text_of, behind⟩

/-- Two numbers with a comma between them are an expression within parentheses alone. -/
theorem typed_rendering_reads_bare_pair :
    let pair := "\x7b\x7b 1, 2 \x7d\x7d"
    Markup.Untagged pair.toList ∧ Markup.wholeExpression? pair.toList = some "1, 2".toList ∧
      ({} : Renderer).renderIn [] [] (.string pair) = .ok (.list [.ofInt 1, .ofInt 2]) ∧
      FailsFor
        (({} : Renderer).renderIn [] [] (.string (String.ofList ("x".toList ++ Text.trim pair.toList))))
        (.malformed .expression) := by
  intro pair
  have untagged : Markup.Untagged pair.toList := Markup.untagged_of_notMem (by decide)
  exact ⟨untagged, by decide +kernel, eq_ok_of_toOption (by decide +kernel), by decide +kernel⟩

end Renderer

end StagePlan
