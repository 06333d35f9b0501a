import StagePlan.Proofs.Json.Kinds
import StagePlan.Proofs.Rendering.MarkerReading
import StagePlan.Proofs.Rendering.MarkerValue
import StagePlan.Proofs.Rendering.WholeExpression
import StagePlan.Value.Equality

namespace StagePlan

/-!
What becomes of a string that is one output marker of any expression: the value of the expression, as
it comes back from its document. That is so where the string is taken for such a marker; a marker is
not taken for one if a piece of another marker stands in one of its string literals.
-/

open Expression Rendering

namespace Renderer

variable (r : Renderer) {frame : Bindings Value} {path : List String} {source : String}
  {e : List Char} {place : Place} {node : Expr Place} {v : Value}

/-- What an expression of a template comes to. -/
def valueOf (r : Renderer) (frame : Bindings Value) (path : List String) (template : List Char)
    (place : Place) (node : Expr Place) : Except RenderError Value :=
  valueIn r.library (r.expandModule (.ofFrame frame)) frame path template none place node

theorem hasMarkers_of_isWhole (whole : Markup.IsWhole source.toList e) :
    Markup.hasMarkers source = true := by
  obtain ⟨rest, opens⟩ := whole.opens
  have opened : Text.occurs Markup.openOutput (Text.trim source.toList) = true :=
    Text.occurs_iff.mpr ⟨[], rest, opens⟩
  have within := Text.trim_infix source.toList
  rw [Markup.hasMarkers, Bool.or_eq_true]
  refine .inl ?_
  by_contra absent
  rw [Text.occurs_of_infix (Bool.eq_false_iff.mpr absent) within] at opened
  cases opened

/-- A string that is taken for a marker is rendered through the document of a value. -/
theorem renderIn_of_document {inner : Place} (untagged : Markup.Untagged source.toList)
    (whole : Markup.wholeExpression? source.toList = some e)
    (read : readBody (documentTemplate e) =
      .ok [.emit place (.filter inner Library.documentFilter node [])]) :
    r.renderIn frame path (.string source) =
      valueIn r.library (r.expandModule (.ofFrame frame)) frame path (documentTemplate e) (some e)
        inner node >>= readBack path := by
  rw [renderIn, renderTree]
  exact renderString_of_document (hasMarkers_of_isWhole (Markup.isWhole_of_wholeExpression? whole))
    (Markup.expandTags_of_untagged untagged) whole read

theorem renderIn_of_fault {fault : SourceFault} (untagged : Markup.Untagged source.toList)
    (whole : Markup.wholeExpression? source.toList = some e)
    (read : readBody (documentTemplate e) = .error fault) :
    r.renderIn frame path (.string source) = .error ⟨faultCause fault, path⟩ := by
  rw [renderIn, renderTree, renderString,
    hasMarkers_of_isWhole (Markup.isWhole_of_wholeExpression? whole),
    Markup.expandTags_of_untagged untagged]
  simp only [Bool.not_true, Bool.false_eq_true, if_false, whole,
    renderTemplate_of_fault read]

/-- A string that is one output marker becomes the value of its expression, null being in the place
of numbers that are not finite, if it is taken for such a marker and can be rendered. Its decimals are
what their texts are read as, and it is a string only if the value is one. -/
theorem typed_value_of_whole_marker (untagged : Markup.Untagged source.toList)
    (whole : Markup.wholeExpression? source.toList = some e)
    (spelled : kinds (Text.trim source.toList) = kinds (Markup.marker e))
    (single : readBody (Text.trim source.toList) = .ok [.emit place node])
    (rendered : r.renderIn frame path (.string source) = .ok v) :
    ∃ w, r.valueOf frame path (Text.trim source.toList) place node = .ok w ∧
      Json.value? w.document = some v ∧ (w.ReadsBack → v = w.documented) ∧
      ∀ text, v = .string text ↔ w = .string text := by
  have parts := Markup.isWhole_of_wholeExpression? whole
  have enclosed := level_of_readBody parts.unended spelled single
  rcases documentTemplate_cases parts.unended (innerTokens_ne_nil parts) enclosed with
    ⟨fault, faulty, -⟩ | ⟨-, place', inner, node', document, read⟩
  · rw [r.renderIn_of_fault untagged whole faulty] at rendered
    cases rendered
  · obtain ⟨_, _, alone, same⟩ := read.readBody_eq spelled
    rw [single] at alone
    cases alone
    rw [r.renderIn_of_document untagged whole document] at rendered
    obtain ⟨w, value, back⟩ := bind_eq_ok.mp rendered
    have comes : r.valueOf frame path (Text.trim source.toList) place node = .ok w := by
      rcases valueIn_of_bare same.symm with
        ⟨w', typed, plain⟩ | ⟨fault, place?, place?', typed, -⟩ | ⟨failure, typed, -⟩
      · rw [value] at typed
        cases typed
        exact plain
      · rw [value] at typed
        cases typed
      · rw [value] at typed
        cases typed
    have read_back : Json.value? w.document = some v := value?_of_readBack back
    have formed : w.WellFormed := wellFormed_of_valueIn value
    refine ⟨w, comes, read_back, fun exact_ => ?_, fun text => ⟨?_, ?_⟩⟩
    · exact Json.documented_of_value? formed exact_ read_back
    · rintro rfl
      exact Json.string_of_value?_document read_back
    · rintro rfl
      have text_back : (Value.string text).ReadsBack := trivial
      exact Json.documented_of_value? formed text_back read_back

/-- What a template is read as that has an output alone, by reading it. -/
theorem exists_output {template : List Char} {p : Place → Expr Place → Bool}
    (checked : (match readBody template with
      | .ok [.emit place node] => p place node
      | _ => false) = true) :
    ∃ place node, readBody template = .ok [.emit place node] ∧ p place node = true := by
  split at checked
  · rename_i place node read
    exact ⟨place, node, read, checked⟩
  · cases checked

/-- A list that is computed, in a marker with blanks around it that takes blanks away. -/
def doubled : String := " \x7b\x7b- [n, n * 2, \x7b'of': n / 2\x7d] \x7d\x7d\n"

theorem typed_value_of_whole_marker_doubled :
    ∃ place node w, readBody (Text.trim doubled.toList) = .ok [.emit place node] ∧
      ({} : Renderer).valueOf [("n", .ofInt 3)] ["config"] (Text.trim doubled.toList) place node =
        .ok w ∧
      Json.value? w.document =
        some (.list [.ofInt 3, .ofInt 6, .map [("of", .float (.ofRatio false 3 2))]]) ∧
      ∀ text, w ≠ .string text := by
  have untagged : Markup.Untagged doubled.toList := Markup.untagged_of_notMem (by decide)
  have whole : Markup.wholeExpression? doubled.toList =
      some "[n, n * 2, \x7b'of': n / 2\x7d]".toList := by
    decide +kernel
  have spelled : kinds (Text.trim doubled.toList) =
      kinds (Markup.marker "[n, n * 2, \x7b'of': n / 2\x7d]".toList) := by
    decide +kernel
  have rendered : ({} : Renderer).renderIn [("n", .ofInt 3)] ["config"] (.string doubled) =
      .ok (.list [.ofInt 3, .ofInt 6, .map [("of", .float (.ofRatio false 3 2))]]) :=
    eq_ok_of_toOption (by decide +kernel)
  have checked : (match readBody (Text.trim doubled.toList) with
      | .ok [.emit _ _] => true
      | _ => false) = true := by
    decide +kernel
  obtain ⟨place, node, single, -⟩ := exists_output checked
  obtain ⟨w, value, back, -, strings⟩ :=
    typed_value_of_whole_marker {} untagged whole spelled single rendered
  exact ⟨place, node, w, single, value, back, fun text same => nomatch (strings text).mpr same⟩

/-- A string with the end of a marker in it, in a list. -/
def bracketed : String := "\x7b\x7b [\"\x7d\x7d\"] \x7d\x7d"

/-- Its marker is not taken for one, and becomes the text of the list. -/
theorem whole_marker_comes_back_as_text :
    (∃ place node, readBody (Text.trim bracketed.toList) = .ok [.emit place node] ∧
      ({} : Renderer).valueOf [] [] (Text.trim bracketed.toList) place node =
        .ok (.list [.string "\x7d\x7d"])) ∧
      ({} : Renderer).renderIn [] [] (.string bracketed) = .ok (.string "[\"\x7d\x7d\"]") := by
  refine ⟨?_, eq_ok_of_toOption (by decide +kernel)⟩
  have checked : (match readBody (Text.trim bracketed.toList) with
      | .ok [.emit place node] =>
          decide ((({} : Renderer).valueOf [] [] (Text.trim bracketed.toList) place node).toOption =
            some (.list [.string "\x7d\x7d"]))
      | _ => false) = true := by
    decide +kernel
  obtain ⟨place, node, single, value⟩ := exists_output checked
  exact ⟨place, node, single, eq_ok_of_toOption (of_decide_eq_true value)⟩

end Renderer

end StagePlan
