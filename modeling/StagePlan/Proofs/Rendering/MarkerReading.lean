import StagePlan.Proofs.Expression.Parentheses
import StagePlan.Rendering.Marker

namespace StagePlan

open Expression Reader

/-!
Templates that are an output marker of an expression, and what is made of them for the document of
its value. The expression is read alike in both, if it keeps to its marker.
-/

namespace Markup

/-- An output marker with a text as its expression. -/
def marker (expression : List Char) : List Char :=
  openOutput ++ ' ' :: (expression ++ ' ' :: closeOutput)

end Markup

namespace Expression

variable {source : List Char} {fault : SourceFault} {depth : Nat}

/-- The fault that keeps a source from being read by readers that are at work so deep. -/
def faultAt (depth : Nat) (source : List Char) : Option SourceFault :=
  match (body (25 * (tokens source).length + 100) []).run { tokens := tokens source, depth } with
  | .ok _ => none
  | .error fault => some fault

section Sources

variable {before : List Token} {f : Nat}

theorem faultAt_of_fails
    (fails : Fails depth (body (25 * (kinds source).length + 100) []) (kinds source) fault) :
    faultAt depth source = some fault := by
  rw [kinds, List.length_map] at fails
  rw [faultAt, fails { tokens := tokens source, depth } rfl rfl]

theorem faultAt_of_takes {after : List Token} {kind : List (Statement Span) → Prop}
    (takes : Takes depth (body (25 * (kinds source).length + 100) []) (kinds source) after kind) :
    faultAt depth source = none := by
  rw [kinds, List.length_map] at takes
  obtain ⟨statements, s', done, -⟩ := takes { tokens := tokens source, depth } rfl rfl
  rw [faultAt, done]

theorem readBody_of_fails
    (fails : Fails 0 (body (25 * (kinds source).length + 100) []) (kinds source) fault) :
    readBody source = .error fault := by
  rw [kinds, List.length_map] at fails
  rw [readBody, readStatements]
  rw [fails { tokens := tokens source } rfl rfl]

theorem readBody_of_takes {after : List Token} {kind : List (Statement Span) → Prop}
    (takes : Takes 0 (body (25 * (kinds source).length + 100) []) (kinds source) after kind) :
    ∃ statements, kind statements ∧
      readBody source = .ok ((Statement.placedAll none statements).run 1).1 := by
  rw [kinds, List.length_map] at takes
  obtain ⟨statements, s', done, -, -, holds⟩ := takes { tokens := tokens source } rfl rfl
  refine ⟨statements, holds, ?_⟩
  rw [readBody, readStatements]
  rw [done]

end Sources

namespace Statement

/-- A placed output has a placed expression, and nothing is done with it besides. -/
theorem gives_emit (inside : Option Span) (span : Span) (node : Expr Span) :
    (Statement.placed inside (.emit span node)).Gives
      fun placed => ∃ place e, placed = .emit place e ∧ e.bare = node.bare := by
  rw [Statement.placed]
  split
  · exact .bind (Expr.bare_placed inside node) fun e same => .seq fun place =>
      .pure ⟨place, e, rfl, same⟩
  · exact .seq fun _ => .bind (Expr.bare_placed _ node) fun e same => .seq fun place =>
      .pure ⟨place, e, rfl, same⟩

theorem gives_only (span : Span) (node : Expr Span) :
    (placedAll none [.emit span node]).Gives
      fun body => ∃ place e, body = [.emit place e] ∧ e.bare = node.bare := by
  rw [placedAll]
  refine .bind (gives_emit none span node) ?_
  rintro _ ⟨place, e, rfl, same⟩
  exact .pure ⟨place, e, rfl, same⟩

theorem gives_behind (chars : List Char) (span : Span) (node : Expr Span) :
    (placedAll none [.text chars, .emit span node]).Gives
      fun body => ∃ place e, body = [.text chars, .emit place e] ∧ e.bare = node.bare := by
  rw [placedAll]
  have text : (Statement.placed none (.text chars : Statement Span)).Gives (· = .text chars) := .pure rfl
  refine .bind text ?_
  rintro _ rfl
  refine .bind (gives_only span node) ?_
  rintro _ ⟨place, e, rfl, same⟩
  exact .pure ⟨place, e, rfl, same⟩

end Statement

theorem Expr.eq_filter_of_bare {μ : Type} {e : Expr μ} {name : String} {input : Expr Place}
    (same : e.bare = .filter default name input []) :
    ∃ mark inner, e = .filter mark name inner [] ∧ inner.bare = input := by
  cases e <;> simp only [bare, reduceCtorEq, filter.injEq, true_and] at same
  rename_i mark _ inner arguments
  obtain ⟨rfl, rfl, none_⟩ := same
  cases arguments with
  | nil => exact ⟨mark, inner, rfl, rfl⟩
  | cons argument rest => cases none_

end Expression

namespace Rendering

variable {e : List Char} {n : Nat}

theorem kinds_documentTemplate (unended : Text.occurs Markup.closeOutput e = false)
    (enclosed : level 0 (innerTokens e) = some n) :
    kinds (documentTemplate e) =
      .openOutput :: .symbol .openParen ::
        upToFault (innerTokens e) (closing Library.documentFilter n) := by
  have whole : documentTemplate e =
      Markup.openOutput ++ ' ' :: '(' :: (e ++ ')' :: " | __typed__ \x7d\x7d".toList) := by
    simp [documentTemplate, Library.documentFilter, Markup.closeOutput]
  have blank : ([] : List Char).dropWhile isTokenBlank = [] := rfl
  have filter : Lexes (.marker .output n) " __typed__ \x7d\x7d".toList
      (.word Library.documentFilter :: ending n) :=
    .token "__typed__".toList rfl (by decide) (.inr rfl) (tokenAt_name rfl rfl) (by simp)
      (.ending n blank)
  have bar : Lexes (.marker .output n) " | __typed__ \x7d\x7d".toList
      (.symbol .bar :: .word Library.documentFilter :: ending n) :=
    .token ['|'] rfl (by decide) (.inr rfl) rfl (by simp) filter
  have unquoted : (" | __typed__ \x7d\x7d".toList.all fun c => c ≠ '"' && c ≠ '\x27') = true := by
    decide
  rw [whole]
  refine kinds_parenthesized unended enclosed (fun c among => ?_) bar
  simpa using List.all_eq_true.mp unquoted c among

theorem kinds_marker_of_level (unended : Text.occurs Markup.closeOutput e = false)
    (enclosed : level 0 (innerTokens e) = some n) :
    kinds (Markup.marker e) = .openOutput :: upToFault (innerTokens e) (ending n) := by
  have opened : openedBy e = n := foldl_depthBehind enclosed
  rw [Markup.marker, kinds_marker unended, opened]

/-- A marker that is not closed in its expression ends its template, if it is closed. -/
theorem eq_of_ending {inner taken after : List Token} (absent : .closeOutput ∉ inner)
    (split : upToFault inner (ending n) = taken ++ .closeOutput :: after) :
    n = 0 ∧ inner = taken ∧ after = [] := by
  have among : Token.closeOutput ∈ taken ++ .closeOutput :: after :=
    List.mem_append_right _ List.mem_cons_self
  by_cases faulty : inner.any Token.isFault = true
  · rw [upToFault, if_pos faulty] at split
    exact absurd (split ▸ among) absent
  · rw [upToFault, if_neg faulty] at split
    cases n with
    | zero =>
        obtain ⟨same, -, none_⟩ := (List.append_cons_inj_of_notMem absent List.not_mem_nil).mp split
        exact ⟨rfl, same, none_.symm⟩
    | succ n =>
        rw [← split] at among
        rcases List.mem_append.mp among with within | behind
        · exact absurd within absent
        · simp [ending] at behind

section Readings

variable {bare : Expr Place} {source : List Char} {inner : List Token}

/-- The marker of an expression can be read, and that is the expression but for its marks. -/
def IsReadAs (e : List Char) (bare : Expr Place) : Prop :=
  ∀ fuel, 25 * (kinds (Markup.marker e)).length + 100 ≤ fuel →
    Takes 0 (body fuel []) (kinds (Markup.marker e)) [] fun statements =>
      ∃ node, node.bare = bare ∧ statements = [.emit node.mark node]

theorem isReadAs_of_takes
    (alone : kinds (Markup.marker e) = .openOutput :: inner) {g : Nat}
    (takes : Takes 0 (output g) inner [] (·.bare = bare)) (enough : 25 * inner.length + 21 ≤ g) :
    IsReadAs e bare := by
  intro fuel room
  rw [alone, List.length_cons] at room
  obtain ⟨fuel, rfl⟩ := Nat.exists_eq_add_of_le' (show 2 ≤ fuel by omega)
  rw [alone]
  exact takes_body_of_output (takes.refueled_output enough (by omega))

/-- What a template is read as that is such a marker. -/
theorem IsReadAs.readBody_eq (read : IsReadAs e bare)
    (lexed : kinds source = kinds (Markup.marker e)) :
    ∃ place node, readBody source = .ok [.emit place node] ∧ node.bare = bare := by
  have takes := read (25 * (kinds source).length + 100) (by rw [lexed])
  rw [← lexed] at takes
  obtain ⟨_, ⟨node, same, rfl⟩, written⟩ := readBody_of_takes takes
  obtain ⟨place, placed, only, equal⟩ := Statement.gives_only node.mark node 1
  exact ⟨place, placed, by rw [written, ← only], equal.trans same⟩

/-- What a template is read as that has a text in front of such a marker. -/
theorem IsReadAs.readBody_behind (read : IsReadAs e bare) {chars : List Char}
    (lexed : kinds source = .text chars :: kinds (Markup.marker e)) :
    ∃ place node, readBody source = .ok [.text chars, .emit place node] ∧ node.bare = bare := by
  have takes : Takes 0 (body (25 * (kinds source).length + 100) []) (kinds source) []
      fun statements => ∃ rest, (∃ node, node.bare = bare ∧ rest = [.emit node.mark node]) ∧
        statements = .text chars :: rest := by
    rw [lexed]
    exact takes_body_text (read _ (by simp only [List.length_cons]; omega))
  obtain ⟨_, ⟨_, ⟨node, same, rfl⟩, rfl⟩, written⟩ := readBody_of_takes takes
  obtain ⟨place, placed, behind, equal⟩ := Statement.gives_behind chars node.mark node 1
  exact ⟨place, placed, by rw [written, ← behind], equal.trans same⟩

/-- If a marker can be read, what it is read from closes its brackets. -/
theorem level_of_readBody {body : Body} (unended : Text.occurs Markup.closeOutput e = false)
    (lexed : kinds source = kinds (Markup.marker e)) (read : readBody source = .ok body) :
    level 0 (innerTokens e) = some 0 := by
  have whole := lexed
  rw [Markup.marker, kinds_marker unended] at whole
  rcases output_cases 0 (upToFault (innerTokens e) (ending (openedBy e)))
    (f := 25 * (upToFault (innerTokens e) (ending (openedBy e))).length + 124) (by omega) with
    ⟨fault, fails⟩ | ⟨bare, taken, after, takes, split, phrase⟩
  · have failed : readBody source = .error fault := by
      refine readBody_of_fails ?_
      rw [whole]
      exact fails_body_of_output fails
    rw [failed] at read
    cases read
  · have absent := (inside_innerTokens unended).ne_closeOutput
    obtain ⟨-, rfl, -⟩ := eq_of_ending absent split
    exact phrase.balanced 0

theorem IsReadAs.faultAt_eq_none (read : IsReadAs e bare) : faultAt 0 (Markup.marker e) = none :=
  faultAt_of_takes (read _ (Nat.le_refl _))

/-- A marker can be read, or there is the same fault in it behind a text. -/
theorem marker_cases (unended : Text.occurs Markup.closeOutput e = false)
    (enclosed : level 0 (innerTokens e) = some n) :
    (∃ bare, IsReadAs e bare) ∨
    ∃ fault, faultAt 0 (Markup.marker e) = some fault ∧
      ∀ (chars source : List Char), kinds source = .text chars :: kinds (Markup.marker e) →
        readBody source = .error fault := by
  have alone := kinds_marker_of_level unended enclosed
  rcases output_cases 0 (upToFault (innerTokens e) (ending n))
    (f := 25 * (upToFault (innerTokens e) (ending n)).length + 124) (by omega) with
    ⟨fault, fails⟩ | ⟨bare, taken, after, takes, split, -⟩
  · refine .inr ⟨fault, faultAt_of_fails ?_, fun chars source lexed => readBody_of_fails ?_⟩
    · rw [alone]
      exact fails_body_of_output fails
    · rw [lexed, alone]
      refine fails_body_text (fails_body_of_output (fails.refueled_output (by omega) ?_))
      simp only [List.length_cons]
      omega
  · obtain ⟨-, -, rfl⟩ := eq_of_ending (notMem_of_level enclosed) split
    exact .inl ⟨bare, isReadAs_of_takes alone takes (by omega)⟩

/-- The template for the document of an expression has the fault that the marker of the expression
has where readers are two steps deeper, and is otherwise read like the marker. -/
theorem documentTemplate_cases (unended : Text.occurs Markup.closeOutput e = false)
    (some_ : innerTokens e ≠ []) (enclosed : level 0 (innerTokens e) = some n) :
    (∃ fault, readBody (documentTemplate e) = .error fault ∧
      faultAt 2 (Markup.marker e) = some fault) ∨
    faultAt 2 (Markup.marker e) = none ∧ ∃ place inner node,
      readBody (documentTemplate e) =
        .ok [.emit place (.filter inner Library.documentFilter node [])] ∧
      IsReadAs e node.bare := by
  have typed := kinds_documentTemplate unended enclosed
  have alone := kinds_marker_of_level unended enclosed
  generalize innerTokens e = inner at *
  rcases read_alike enclosed some_ Library.documentFilter
    (f := 25 * (upToFault inner (closing Library.documentFilter n)).length + 127)
    (g := 25 * (upToFault inner (ending n)).length + 124) (by omega) (by omega) with
    ⟨fault, fails, fails'⟩ | ⟨bare, takes, takes'⟩
  · refine .inl ⟨fault, readBody_of_fails ?_, faultAt_of_fails ?_⟩
    · rw [typed]
      exact fails_body_of_output fails
    · rw [alone]
      exact fails_body_of_output fails'
  · have deep : Takes 2 (body (25 * (kinds (Markup.marker e)).length + 100) [])
        (kinds (Markup.marker e)) [] fun statements => ∃ node, node.bare = bare ∧
          statements = [.emit node.mark node] := by
      rw [alone]
      exact takes_body_of_output (takes' 2 (Nat.le_refl 2))
    have read : Takes 0 (body (25 * (kinds (documentTemplate e)).length + 100) [])
        (kinds (documentTemplate e)) [] fun statements => ∃ node,
          (∃ span input, node = .filter span Library.documentFilter input [] ∧ input.bare = bare) ∧
            statements = [.emit node.mark node] := by
      rw [typed]
      exact takes_body_of_output takes
    obtain ⟨_, ⟨_, ⟨span, input, rfl, same⟩, rfl⟩, written⟩ := readBody_of_takes read
    obtain ⟨place, placed, only, equal⟩ := Statement.gives_only _ (.filter span _ input []) 1
    obtain ⟨inner, node, rfl, carried⟩ := Expr.eq_filter_of_bare equal
    refine .inr ⟨faultAt_of_takes deep, place, inner, node, by rw [written, ← only], ?_⟩
    rw [carried, same]
    exact isReadAs_of_takes alone (takes' 0 (by decide)) (by omega)

end Readings

end Rendering

end StagePlan
