import StagePlan.Proofs.Expression.Carried
import StagePlan.Proofs.Expression.Readers
import StagePlan.Proofs.Json.Values
import StagePlan.Proofs.Rendering.NameMarker
import StagePlan.Rendering.Renderer

namespace StagePlan

/-!
What becomes of a string that is an output marker of a name: the value that the name is bound to.
The value leaves the evaluation as a document, which a template with one output and one filter
writes, and the document is read again.
-/

namespace Rendering

open Expression

variable {name : String}

theorem tokens_documentTemplate {name : List Char} (named : isName name = true) :
    (tokens (documentTemplate name)).map (·.token) =
      [.openOutput, .symbol .openParen, .word (String.ofList name), .symbol .closeParen,
        .symbol .bar, .word Library.documentFilter, .closeOutput] := by
  have whole : documentTemplate name =
      Markup.openOutput ++ ([' ', '('] ++ (name ++ ") | __typed__ \x7d\x7d".toList)) := by
    simp [documentTemplate, Library.documentFilter, Markup.closeOutput]
  have closing : Lexes (.marker .output 0) " \x7d\x7d".toList [.closeOutput] :=
    Lexes.closeOutput rfl Lexes.done
  have filter : Lexes (.marker .output 0) " __typed__ \x7d\x7d".toList
      [.word Library.documentFilter, .closeOutput] :=
    Lexes.token "__typed__".toList rfl (by decide) (.inr rfl)
      (tokenAt_name rfl rfl) (by simp) closing
  have bar : Lexes (.marker .output 0) " | __typed__ \x7d\x7d".toList
      [.symbol .bar, .word Library.documentFilter, .closeOutput] :=
    Lexes.token ['|'] rfl (by decide) (.inr rfl) rfl (by simp) filter
  have paren : Lexes (.marker .output 1) ") | __typed__ \x7d\x7d".toList
      [.symbol .closeParen, .symbol .bar, .word Library.documentFilter, .closeOutput] :=
    Lexes.token [')'] rfl (by decide) (.inl (by decide)) rfl (by simp) bar
  have word : Lexes (.marker .output 1) (name ++ ") | __typed__ \x7d\x7d".toList)
      [.word (String.ofList name), .symbol .closeParen, .symbol .bar,
        .word Library.documentFilter, .closeOutput] :=
    Lexes.token name (dropWhile_name named _) (by rintro rfl; cases named) (.inl (by decide))
      (tokenAt_name named rfl) (by simp) paren
  have grouped : Lexes (.marker .output 0) ([' ', '('] ++ (name ++ ") | __typed__ \x7d\x7d".toList))
      [.symbol .openParen, .word (String.ofList name), .symbol .closeParen, .symbol .bar,
        .word Library.documentFilter, .closeOutput] :=
    Lexes.token ['('] rfl (by decide) (.inr rfl) (tokenAt_openParen _) (by simp) word
  rw [whole]
  exact Lexes.map_tokens (Lexes.openOutput rfl grouped)

/-- The names of variables: no literal is written so, and no operator. -/
structure IsVariable (name : String) : Prop where
  named : isName name.toList = true
  no_literal : Reader.literalWord? name = none
  no_operator : name ≠ "not"

/-- The template, read: an output of the name with the filter. -/
theorem readStatements_documentTemplate (variable_ : IsVariable name) :
    ∃ span inner, readStatements (documentTemplate name.toList) =
      .ok [.emit span (.filter span Library.documentFilter (.variable inner name) [])] := by
  have lexed := tokens_documentTemplate variable_.named
  rw [String.ofList_toList] at lexed
  have seven : (tokens (documentTemplate name.toList)).length = 7 := by
    rw [← List.length_map (·.token), lexed]
    rfl
  have filtered : Reader.Takes 0 (Reader.expression 274)
      [.symbol .openParen, .word name, .symbol .closeParen, .symbol .bar,
        .word Library.documentFilter, .closeOutput] [.closeOutput] fun node =>
        ∃ span inner, node = .filter span Library.documentFilter (.variable inner name) [] :=
    Reader.takes_filtered_word .output variable_.no_literal variable_.no_operator (by decide)
  have output : Reader.Takes 0 (Reader.body 275 []) (.openOutput :: _) [] _ :=
    Reader.takes_body_output filtered
  obtain ⟨statements, after, done, -, -, node, ⟨span, inner, rfl⟩, rfl⟩ :=
    output { tokens := tokens (documentTemplate name.toList) } lexed rfl
  refine ⟨span, inner, ?_⟩
  rw [readStatements]
  -- seven tokens make fuel for 275 readers
  simp only [seven, done]
  rfl

/-- The same with places. -/
theorem readBody_documentTemplate (variable_ : IsVariable name) :
    ∃ place filtered inner, readBody (documentTemplate name.toList) =
      .ok [.emit place (.filter filtered Library.documentFilter (.variable inner name) [])] := by
  obtain ⟨span, inner, statements⟩ := readStatements_documentTemplate variable_
  exact ⟨_, _, _, by rw [readBody, statements]; rfl⟩

variable (library : Library) (invoke : Invoke) {visible : Bindings Value} {source : String}
  {v : Value}

/-- Under a scope that binds the name to a value, the template becomes the document of the value. -/
theorem renderTemplate_documentTemplate (variable_ : IsVariable name)
    (bound : visible.find? name = some v) (formed : v.WellFormed) (path : List String)
    (whole? : Option (List Char)) :
    renderTemplate library invoke visible path (documentTemplate name.toList) whole? =
      .ok v.document := by
  obtain ⟨place, filtered, inner, body⟩ := readBody_documentTemplate variable_
  rw [renderTemplate, body]
  dsimp only
  rw [writeTemplate_documentFilter library bound formed]
  rfl

/-- The value of a name comes back from its document, unless it is nested too deep to be read. -/
theorem renderString_of_isMarkerOf (variable_ : IsVariable name)
    (marker : Markup.IsMarkerOf name.toList source.toList) (bound : visible.find? name = some v)
    (formed : v.WellFormed) (back : v.ReadsBack) (path : List String) :
    renderString library invoke visible path source =
      if v.nesting ≤ Json.depthLimit then .ok v.documented
      else .error ⟨.encoding .unreadable, path⟩ := by
  rw [renderString, Markup.hasMarkers_of_isMarkerOf marker,
    Markup.expandTags_of_isMarkerOf variable_.named marker]
  simp only [Bool.not_true, Bool.false_eq_true, if_false,
    Markup.wholeExpression?_of_isMarkerOf variable_.named marker,
    renderTemplate_documentTemplate library invoke variable_ bound formed,
    Json.value?_document formed back]
  by_cases shallow : v.nesting ≤ Json.depthLimit
  · rw [if_pos shallow, if_pos shallow]
  · rw [if_neg shallow, if_neg shallow]

end Rendering

namespace Renderer

open Expression Rendering

variable (r : Renderer) {name source : String} {v : Value} (path : List String)

theorem renderIn_of_isMarkerOf {frame : Bindings Value} (variable_ : IsVariable name)
    (marker : Markup.IsMarkerOf name.toList source.toList) (bound : frame.find? name = some v)
    (formed : v.WellFormed) (back : v.ReadsBack) :
    r.renderIn frame path (.string source) =
      if v.nesting ≤ Json.depthLimit then .ok v.documented
      else .error ⟨.encoding .unreadable, path⟩ := by
  rw [renderIn, renderTree]
  exact renderString_of_isMarkerOf r.library _ variable_ marker bound formed back path

/-- No name is the name of a slot, so what the scope binds to a name is what expressions see. -/
theorem find?_frame_of_name {ctx : RenderContext} {chain : List String}
    (named : isName name.toList = true) (bound : ctx.scope.find? name = some v) :
    (ctx.frame chain).find? name = some v := by
  have no_slot (slot : String) (odd : isName slot.toList = false) : name ≠ slot := by
    rintro rfl
    rw [odd] at named
    cases named
  rw [ctx.find?_frame, if_neg (no_slot Caller.chainSlot (by decide)),
    if_neg (no_slot Caller.templateRefSlot (by decide)),
    if_neg (no_slot Caller.applicationSlot (by decide)), RenderContext.find?_visible bound]

/-- A value comes back as it was or not at all, unless a number in it is not finite: null is in the
place of such a number. -/
theorem whole_value_kept_where_finite (ctx : RenderContext) (variable_ : IsVariable name)
    (marker : Markup.IsMarkerOf name.toList source.toList)
    (bound : ctx.scope.find? name = some v) (formed : v.WellFormed) (back : v.ReadsBack) :
    (r.renderAt ctx path (.string source) =
      if v.nesting ≤ Json.depthLimit then .ok v.documented
      else .error ⟨.encoding .unreadable, path⟩) ∧
    (v.documented = v ↔ v.nonFinite? = none) :=
  ⟨r.renderIn_of_isMarkerOf path variable_ marker (find?_frame_of_name variable_.named bound)
    formed back, v.documented_eq_iff⟩

/-- A map with a whole number, a decimal and a list in it. -/
def limits : Value :=
  .map [("replicas", .number (.integer 3)), ("share", .float (.ofRatio false 1 2)),
    ("zones", .list [.string "north", .null])]

/-- Blanks around the marker make no difference. -/
theorem whole_value_kept_where_finite_limits :
    ({} : Renderer).renderAt { scope := [("limits", limits)] } ["config"]
      (.string " \x7b\x7b limits \x7d\x7d\n") = .ok limits := by
  have marker : Markup.IsMarkerOf "limits".toList " \x7b\x7b limits \x7d\x7d\n".toList :=
    ⟨" limits ".toList, ⟨[' '], [' '], by decide, rfl⟩, [' '], ['\n'], by decide, rfl⟩
  have variable_ : IsVariable "limits" := ⟨by decide, by decide, by decide⟩
  have formed : limits.WellFormed := by
    refine ⟨?_, trivial, trivial, ⟨trivial, trivial, trivial⟩, trivial⟩
    unfold Bindings.Distinct
    decide
  have half : Json.number? (Number.float (.ofRatio false 1 2)).documentChars =
      some (.float (.ofRatio false 1 2)) := by
    decide +kernel
  have back : limits.ReadsBack :=
    ⟨trivial, fun _ => half, ⟨trivial, trivial, trivial⟩, trivial⟩
  obtain ⟨rendered, same⟩ := whole_value_kept_where_finite {} ["config"]
    { scope := [("limits", limits)] } variable_ marker rfl formed back
  rw [rendered, if_pos (by decide +kernel), same.mpr (by decide +kernel)]

theorem whole_value_loses_infinity :
    let ctx : RenderContext := { scope := [("k", .float (.infinity false))] }
    ctx.scope.find? "k" = some (.float (.infinity false)) ∧
      ({} : Renderer).render ctx (.string "\x7b\x7b k \x7d\x7d") = .ok .null := by
  intro ctx
  refine ⟨rfl, ?_⟩
  have marker : Markup.IsMarkerOf "k".toList "\x7b\x7b k \x7d\x7d".toList :=
    ⟨" k ".toList, ⟨[' '], [' '], by decide, rfl⟩, [], [], by decide, rfl⟩
  have infinite : (Binary64.infinity false).isFinite = false := by decide +kernel
  have back : (Value.float (.infinity false)).ReadsBack := by
    intro finite
    rw [infinite] at finite
    cases finite
  have bound : (ctx.frame []).find? "k" = some (.float (.infinity false)) :=
    find?_frame_of_name (by decide) rfl
  have rendered := renderIn_of_isMarkerOf {} [] ⟨by decide, by decide, by decide⟩ marker bound
    trivial back
  rw [render, renderAt, rendered, if_pos (by decide +kernel)]
  simp [Value.float, Value.documented, infinite]

end Renderer

end StagePlan
