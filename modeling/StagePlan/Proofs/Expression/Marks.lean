import StagePlan.Expression.Place

namespace StagePlan.Expression

/-!
Marks of expressions. They are left out here, so that expressions can be compared that were read in
different places. Putting places on the nodes of an expression changes nothing but marks.
-/

namespace Expr

variable {μ : Type}

mutual

/-- The expression with one and the same mark on every node. -/
def bare : Expr μ → Expr Place
  | .variable _ name => .variable default name
  | .literal _ value => .literal default value
  | .negate _ operand => .negate default (bare operand)
  | .not _ operand => .not default (bare operand)
  | .binary _ operator left right => .binary default operator (bare left) (bare right)
  | .compared _ first links => .compared default (bare first) (bareLinks links)
  | .choice _ condition yes no => .choice default (bare condition) (bare yes) (bare no)
  | .field _ base name => .field default (bare base) name
  | .item _ base index => .item default (bare base) (bare index)
  | .slice _ base start stop step =>
      .slice default (bare base) (bare start) (bare stop) (bare step)
  | .call _ callee arguments => .call default (bareCallee callee) (bareArguments arguments)
  | .filter _ name input arguments => .filter default name (bare input) (bareArguments arguments)
  | .test _ name input arguments => .test default name (bare input) (bareArguments arguments)
  | .list _ items => .list default (bareItems items)
  | .map _ entries => .map default (bareEntries entries)
  | .blockText _ => .blockText default

def bareLinks : List (μ × Operator × Expr μ) → List (Place × Operator × Expr Place)
  | [] => []
  | (_, operator, right) :: rest => (default, operator, bare right) :: bareLinks rest

def bareCallee : Callee (Expr μ) → Callee (Expr Place)
  | .function name => .function name
  | .block name => .block name
  | .method base name => .method (bare base) name
  | .value callee => .value (bare callee)

def bareItems : List (Expr μ) → List (Expr Place)
  | [] => []
  | first :: rest => bare first :: bareItems rest

def bareEntries : List (Expr μ × Expr μ) → List (Expr Place × Expr Place)
  | [] => []
  | (key, value) :: rest => (bare key, bare value) :: bareEntries rest

def bareArguments : List (ArgumentKind × Expr μ) → List (ArgumentKind × Expr Place)
  | [] => []
  | (kind, value) :: rest => (kind, bare value) :: bareArguments rest

end

theorem bareCallee_asCallee (e : Expr μ) : bareCallee e.asCallee = e.bare.asCallee := by
  cases e <;> try rfl
  rename_i mark base name
  cases base <;> try rfl
  rename_i mark' name'
  by_cases own : name' = "self"
  · subst own
    rfl
  · simp [asCallee, bare, own, bareCallee]

theorem bareItems_append (items more : List (Expr μ)) :
    bareItems (items ++ more) = bareItems items ++ bareItems more := by
  induction items with
  | nil => rfl
  | cons item rest ih => rw [List.cons_append, bareItems, ih]; rfl

theorem bareEntries_append (given more : List (Expr μ × Expr μ)) :
    bareEntries (given ++ more) = bareEntries given ++ bareEntries more := by
  induction given with
  | nil => rfl
  | cons entry rest ih => rw [List.cons_append, bareEntries, ih]; rfl

theorem bareArguments_eq_map (given : List (ArgumentKind × Expr μ)) :
    bareArguments given = given.map fun argument => (argument.1, argument.2.bare) := by
  induction given with
  | nil => rfl
  | cons argument rest ih => rw [bareArguments, ih, List.map_cons]

theorem bareArguments_append (given more : List (ArgumentKind × Expr μ)) :
    bareArguments (given ++ more) = bareArguments given ++ bareArguments more := by
  simp only [bareArguments_eq_map, List.map_append]

theorem bareArguments_filter (given : List (ArgumentKind × Expr μ)) (keep : ArgumentKind → Bool) :
    bareArguments (given.filter fun argument => keep argument.1) =
      (bareArguments given).filter fun argument => keep argument.1 := by
  simp only [bareArguments_eq_map, List.filter_map]
  rfl

theorem isEmpty_eq_of_bareItems {items items' : List (Expr μ)}
    (same : bareItems items = bareItems items') : items.isEmpty = items'.isEmpty := by
  cases items <;> cases items' <;> first | rfl | cases same

theorem isEmpty_eq_of_bareEntries {given given' : List (Expr μ × Expr μ)}
    (same : bareEntries given = bareEntries given') : given.isEmpty = given'.isEmpty := by
  cases given <;> cases given' <;> first | rfl | cases same

theorem isEmpty_eq_of_bareArguments {given given' : List (ArgumentKind × Expr μ)}
    (same : bareArguments given = bareArguments given') : given.isEmpty = given'.isEmpty := by
  cases given <;> cases given' <;> first | rfl | cases same

theorem eq_variable_of_bare {value : Expr μ} {name : String}
    (same : value.bare = .variable default name) : ∃ mark, value = .variable mark name := by
  cases value <;> rw [bare] at same <;> cases same
  exact ⟨_, rfl⟩

end Expr

section Placed

variable {α β : Type} {P : α → Prop} {Q : β → Prop}

/-- Whatever the current line is, an action gives a result of a kind. -/
def Line.Gives (action : Line α) (P : α → Prop) : Prop :=
  ∀ line, P (action.run line).1

namespace Line.Gives

theorem pure {result : α} (holds : P result) : Line.Gives (Pure.pure result) P :=
  fun _ => holds

theorem bind {action : Line α} {next : α → Line β} (first : action.Gives P)
    (others : ∀ result, P result → (next result).Gives Q) : (action >>= next).Gives Q :=
  fun line => others _ (first line) _

/-- The same where it makes no difference what is given first. -/
theorem seq {action : Line α} {next : α → Line β} (others : ∀ result, (next result).Gives Q) :
    (action >>= next).Gives Q :=
  bind (P := fun _ => True) (fun _ => trivial) fun result _ => others result

theorem keeping {still : Bool} {action : Line α} (inner : action.Gives P) :
    (Place.keeping still action).Gives P := by
  refine seq fun line => bind inner fun result holds => ?_
  cases still
  · exact pure holds
  · exact seq fun _ => pure holds

end Line.Gives

end Placed

namespace Expr

open Line

mutual

/-- Induction on the expression; what is inside a node gets its places first. -/
theorem bare_placed (inside : Option Span) :
    ∀ e : Expr Span, (e.placed inside).Gives fun placed => placed.bare = e.bare
  | .variable span name | .literal span name => by
      rw [placed]
      exact .seq fun _ => .seq fun _ => .pure rfl
  | .blockText span => by
      rw [placed]
      exact .seq fun _ => .pure rfl
  | .negate span operand => by
      rw [placed]
      refine .seq fun _ => .bind (bare_placed inside operand) fun inner same => .pure ?_
      rw [bare, bare, same]
  | .not span operand => by
      rw [placed]
      refine .seq fun _ => .bind (bare_placed inside operand) fun inner same => ?_
      refine .seq fun _ => .pure ?_
      rw [bare, bare, same]
  | .binary span operator left right => by
      rw [placed]
      refine .seq fun _ => .bind (bare_placed (some span) left) fun first same => ?_
      refine .seq fun _ => .bind (bare_placed (some span) right) fun second also => ?_
      refine .seq fun _ => .pure ?_
      rw [bare, bare, same, also]
  | .compared span first links => by
      rw [placed]
      refine .seq fun _ => .bind (bare_placed (some span) first) fun left same => ?_
      refine .bind (bare_placedLinks (some span) links) fun others also => ?_
      refine .seq fun _ => .pure ?_
      rw [bare, bare, same, also]
  | .choice span condition yes no => by
      rw [placed]
      refine .seq fun _ => .bind (bare_placed inside condition) fun decided same => ?_
      refine .seq fun _ => .bind (bare_placed inside yes) fun first one => ?_
      refine .bind (bare_placed inside no) fun second other => .pure ?_
      rw [bare, bare, same, one, other]
  | .field span base name => by
      rw [placed]
      refine .seq fun _ => .bind (bare_placed (some span) base) fun inner same => ?_
      refine .seq fun _ => .pure ?_
      rw [bare, bare, same]
  | .item span base index => by
      rw [placed]
      refine .seq fun _ => .bind (bare_placed (some span) base) fun inner same => ?_
      refine .bind (bare_placed (some span) index) fun key also => .seq fun _ => .pure ?_
      rw [bare, bare, same, also]
  | .slice span base start stop step => by
      rw [placed]
      refine .seq fun _ => .bind (bare_placed (some span) base) fun inner same => ?_
      refine .bind (bare_placed (some span) start) fun low first => ?_
      refine .bind (bare_placed (some span) stop) fun high second => ?_
      refine .bind (bare_placed (some span) step) fun stride third => .seq fun _ => .pure ?_
      rw [bare, bare, same, first, second, third]
  | .call span callee arguments => by
      rw [placed]
      refine .seq fun _ => .bind (bare_placedCallee (some span) callee) fun called same => ?_
      refine .bind (bare_placedArguments _ (some span) arguments) fun given also => ?_
      refine .seq fun _ => .pure ?_
      rw [bare, bare, same, also]
  | .filter span name input arguments | .test span name input arguments => by
      rw [placed]
      refine .seq fun _ => .bind (bare_placed (some span) input) fun inner same => ?_
      refine .bind (bare_placedArguments _ (some span) arguments) fun given also => ?_
      refine .seq fun _ => .pure ?_
      rw [bare, bare, same, also]
  | .list span items => by
      have made (still : Bool) : Gives
          (do
            let inner ← Place.keeping still (placedItems inside items)
            pure (Expr.list (← Place.here inside) inner))
          fun placed => placed.bare = (Expr.list span items).bare := by
        refine .bind (.keeping (bare_placedItems inside items)) fun inner same => ?_
        refine .seq fun _ => .pure ?_
        rw [bare, bare, same]
      rw [placed]
      split
      · exact .seq fun _ => made _
      · exact made _
  | .map span entries => by
      have made (still : Bool) : Gives
          (do
            let inner ← Place.keeping still (placedEntries inside entries)
            pure (Expr.map (← Place.here inside) inner))
          fun placed => placed.bare = (Expr.map span entries).bare := by
        refine .bind (.keeping (bare_placedEntries inside entries)) fun inner same => ?_
        refine .seq fun _ => .pure ?_
        rw [bare, bare, same]
      rw [placed]
      split
      · exact .seq fun _ => made _
      · exact made _

theorem bare_placedLinks (inside : Option Span) : ∀ links : List (Span × Operator × Expr Span),
    (placedLinks inside links).Gives fun placed => bareLinks placed = bareLinks links
  | [] => .pure rfl
  | (span, operator, right) :: rest => by
      rw [placedLinks]
      refine .bind (bare_placed inside right) fun inner same => .seq fun _ => ?_
      refine .bind (bare_placedLinks inside rest) fun others also => .pure ?_
      rw [bareLinks, bareLinks, same, also]

theorem bare_placedCallee (inside : Option Span) : ∀ callee : Callee (Expr Span),
    (placedCallee inside callee).Gives fun placed => bareCallee placed = bareCallee callee
  | .function name | .block name => by
      rw [placedCallee]
      exact .pure rfl
  | .method base name => by
      rw [placedCallee]
      refine .bind (bare_placed inside base) fun inner same => .pure ?_
      rw [bareCallee, bareCallee, same]
  | .value callee => by
      rw [placedCallee]
      refine .bind (bare_placed inside callee) fun inner same => .pure ?_
      rw [bareCallee, bareCallee, same]

theorem bare_placedItems (inside : Option Span) : ∀ items : List (Expr Span),
    (placedItems inside items).Gives fun placed => bareItems placed = bareItems items
  | [] => .pure rfl
  | first :: rest => by
      rw [placedItems]
      refine .bind (bare_placed inside first) fun inner same => ?_
      refine .bind (bare_placedItems inside rest) fun others also => .pure ?_
      rw [bareItems, bareItems, same, also]

theorem bare_placedEntries (inside : Option Span) : ∀ entries : List (Expr Span × Expr Span),
    (placedEntries inside entries).Gives fun placed => bareEntries placed = bareEntries entries
  | [] => .pure rfl
  | (key, value) :: rest => by
      rw [placedEntries]
      refine .bind (bare_placed inside key) fun first same => ?_
      refine .bind (bare_placed inside value) fun second also => ?_
      refine .bind (bare_placedEntries inside rest) fun others later => .pure ?_
      rw [bareEntries, bareEntries, same, also, later]

theorem bare_placedArguments (static : Bool) (inside : Option Span) :
    ∀ arguments : List (ArgumentKind × Expr Span),
      (placedArguments static inside arguments).Gives fun placed =>
        bareArguments placed = bareArguments arguments
  | [] => .pure rfl
  | (kind, value) :: rest => by
      unfold placedArguments
      refine .bind (.keeping (bare_placed inside value)) fun inner same => ?_
      refine .bind (bare_placedArguments static inside rest) fun others also => .pure ?_
      rw [bareArguments, bareArguments, same, also]

end

end Expr

end StagePlan.Expression
