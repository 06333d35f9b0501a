import StagePlan.Proofs.Markup.ArgumentTexts

namespace StagePlan.Markup

/-!
Module tags and the calls that are written for them. The arguments of a tag are written each by
itself, and the first closing marker ends the tag, wherever it stands.
-/

open Expression

variable {c : Char} {text rest gap name found id : List Char} {a : TagArgument}
  {arguments : List TagArgument}

/-- An argument of a module tag, and what separates it from what stands before it. -/
structure TagArgument where
  gap : List Char
  name : List Char
  text : List Char

namespace TagArgument

/-- The argument as a tag has it. -/
def inTag (a : TagArgument) : List Char :=
  a.gap ++ (a.name ++ '=' :: a.text)

/-- The argument as a call has it. -/
def inCall (a : TagArgument) : List Char :=
  written a.name a.text

/-- The name and the text are those of an argument, and nothing ends the tag. -/
structure Proper (a : TagArgument) : Prop where
  apart : a.gap ≠ []
  spacing : Spacing a.gap
  named : isName a.name = true
  isValue : IsValue a.text
  single : a.text.head? ≠ some '='
  unclosed : Text.occurs closeStatement a.text = false

theorem Proper.starts {a : TagArgument} (proper : a.Proper) (behind : List Char) :
    argumentAt? (a.name ++ '=' :: (a.text ++ behind)) = some (a.name, a.text ++ behind) := by
  refine argumentAt?_eq_some.mpr ⟨proper.named, ?_, [], by simp, rfl⟩
  rw [List.head?_append, Option.or_of_isSome (List.isSome_head?.mpr proper.isValue.some_)]
  exact proper.single

end TagArgument

/-- The arguments of a tag are cut apart, and each is written by itself. Induction on the arguments
behind the first one. -/
theorem exists_texts (module : List Char) (proper : ∀ x ∈ a :: arguments, x.Proper) :
    ∃ pieces, Cuts a.name false (a.text ++ arguments.flatMap (·.inTag)) pieces ∧
      Yields (argumentTexts module pieces) (a.inCall ++ arguments.flatMap (·.inCall))
        (∀ x ∈ a :: arguments, Joined x.text) := by
  induction arguments generalizing a with
  | nil =>
      have here := proper a List.mem_cons_self
      obtain ⟨pieces, cuts⟩ := exists_cuts a.name a.text false
      have alone : Yields _ a.inCall _ := yields_of_cuts cuts here.isValue.last module
      exact ⟨pieces, by simpa using cuts, by simpa using alone⟩
  | cons b arguments ih =>
      obtain ⟨here, others⟩ := List.forall_mem_cons.mp proper
      obtain ⟨next, _⟩ := List.forall_mem_cons.mp others
      obtain ⟨pieces, cuts⟩ := exists_cuts a.name a.text false
      obtain ⟨more, later, yields⟩ := ih others
      have alone : Yields _ a.inCall _ := yields_of_cuts cuts here.isValue.last module
      refine ⟨extended b.gap pieces ++ more, ?cuts, ?yields⟩
      case cuts =>
        have whole : a.text ++ (b :: arguments).flatMap (·.inTag) =
            a.text ++ (b.gap ++ (b.name ++ '=' :: (b.text ++ arguments.flatMap (·.inTag)))) := by
          simp [TagArgument.inTag]
        rw [whole]
        exact cuts.attach next.apart next.spacing.separators (next.starts _) later
      case yields =>
        rw [List.flatMap_cons, List.forall_mem_cons]
        refine alone.append yields fun out => ?_
        simp only [argumentTexts_append_eq_ok,
          argumentTexts_extended cuts here.isValue.last next.spacing]

/-- A module's id that can be written without quotation marks. -/
structure IsModuleId (id : List Char) : Prop where
  some_ : id ≠ []
  solid : ∀ c ∈ id, separates c = false
  unquoted : ∀ c ∈ id, c ≠ '\x27' ∧ c ≠ '"' ∧ c ≠ '\\'

instance : Decidable (IsModuleId id) :=
  decidable_of_iff (id ≠ [] ∧ (id.all fun c => !separates c) ∧
    id.all fun c => decide (c ≠ '\x27' ∧ c ≠ '"' ∧ c ≠ '\\')) <| by
    simp only [List.all_eq_true, Bool.not_eq_true', decide_eq_true_eq]
    exact ⟨fun ⟨some_, solid, unquoted⟩ => ⟨some_, solid, unquoted⟩,
      fun ⟨some_, solid, unquoted⟩ => ⟨some_, solid, unquoted⟩⟩

/-- What a module tag has between its first word and its closing marker. -/
def tagText (id : List Char) (arguments : List TagArgument) : List Char :=
  id ++ arguments.flatMap (·.inTag)

/-- A module tag. -/
def moduleTag (id : List Char) (arguments : List TagArgument) : List Char :=
  openStatement ++ ' ' :: (moduleWord ++ ' ' :: (tagText id arguments ++ ' ' :: closeStatement))

/-- A call of a module. -/
def callText (id : List Char) (arguments : List TagArgument) : List Char :=
  moduleWord ++ '(' :: '"' :: id ++ '"' :: arguments.flatMap (·.inCall) ++ [')']

/-- An output marker that is a call of a module. -/
def callMarker (id : List Char) (arguments : List TagArgument) : List Char :=
  openOutput ++ ' ' :: callText id arguments ++ ' ' :: closeOutput

theorem escapeLiteral_eq (plain : ∀ c ∈ text, c ≠ '"' ∧ c ≠ '\\') : escapeLiteral text = text := by
  induction text with
  | nil => rfl
  | cons c text ih =>
      obtain ⟨⟨quote, slash⟩, others⟩ := List.forall_mem_cons.mp plain
      have later := ih others
      rw [escapeLiteral] at later
      rw [escapeLiteral, List.flatMap_cons, later]
      simp [quote, slash]

theorem trimBy_eq {class? : Char → Bool} (outside : ∀ c ∈ text, class? c = false) :
    Text.trimBy class? text = text := by
  have kept {chars : List Char} (outside : ∀ c ∈ chars, class? c = false) :
      chars.dropWhile class? = chars := by
    cases chars with
    | nil => rfl
    | cons c rest => exact List.dropWhile_cons_of_neg (by simp [outside c List.mem_cons_self])
  rw [Text.trimBy, kept outside, kept fun c among => outside c (List.mem_reverse.mp among),
    List.reverse_reverse]

theorem trimBy_eq_nil {class? : Char → Bool} (inside : ∀ c ∈ text, class? c = true) :
    Text.trimBy class? text = [] := by
  rw [Text.trimBy, List.dropWhile_eq_nil_iff.mpr inside]
  rfl

theorem TagArgument.Proper.last (proper : a.Proper) (front : List Char) :
    ∀ c ∈ (front ++ a.inTag).getLast?, separates c = false := by
  have regrouped : front ++ a.inTag = (front ++ (a.gap ++ (a.name ++ ['=']))) ++ a.text := by
    simp [TagArgument.inTag]
  rw [regrouped, List.getLast?_append_of_ne_nil _ proper.isValue.some_]
  exact proper.isValue.last

theorem isValue_tagText (plain : IsModuleId id) (proper : ∀ x ∈ arguments, x.Proper) :
    IsValue (tagText id arguments) := by
  refine ⟨by simp [tagText, plain.some_], ?first, ?last⟩
  case first =>
    obtain ⟨c, rest, rfl⟩ := List.exists_cons_of_ne_nil plain.some_
    rintro _ ⟨rfl⟩
    exact isBlank_of_separates_eq_false (plain.solid c List.mem_cons_self)
  case last =>
    rcases List.eq_nil_or_concat arguments with rfl | ⟨front, a, rfl⟩
    · simpa [tagText] using fun c ends => plain.solid c (List.mem_of_getLast? ends)
    · have here := proper a (by simp)
      simpa [tagText] using here.last (id ++ front.flatMap (·.inTag))

/-- The call that is written for a tag has the arguments of the tag exactly if each is joined as
calls join arguments. -/
theorem moduleCall_eq_ok_iff {after : List Char} (plain : IsModuleId id)
    (proper : ∀ x ∈ arguments, x.Proper) (blank : ∀ c ∈ after, Text.isBlank c = true) :
    moduleCall (tagText id arguments ++ after) = .ok (callText id arguments) ↔
      ∀ x ∈ arguments, Joined x.text := by
  have trimmed : Text.trim (tagText id arguments ++ after) = tagText id arguments :=
    trim_of_isValue (isValue_tagText plain proper) (List.forall_mem_nil _) blank
  have split : (tagText id arguments).span (fun c => !separates c) =
      (id, arguments.flatMap (·.inTag)) := by
    refine span_append (fun c among => by simp [plain.solid c among]) ?_
    cases arguments with
    | nil => rfl
    | cons a others =>
        have here := proper a List.mem_cons_self
        obtain ⟨g, gap, same⟩ := List.exists_cons_of_ne_nil here.apart
        have separator := here.spacing.separators g (by simp [same])
        simp [TagArgument.inTag, same, separator]
  have unquoted : Text.trimBy (fun c => c = '\x27' || c = '"') id = id :=
    trimBy_eq fun c among => by simp [plain.unquoted c among]
  have escaped : escapeLiteral id = id := escapeLiteral_eq fun c among => (plain.unquoted c among).2
  have named : id.isEmpty = false := List.isEmpty_eq_false_iff.mpr plain.some_
  rw [moduleCall, trimmed]
  simp only [split, unquoted, named, Bool.false_eq_true, if_false, escaped]
  cases arguments with
  | nil => simp [cutArguments, argumentTexts, callText, Text.trimBy]
  | cons a arguments =>
      obtain ⟨pieces, cuts, yields⟩ := exists_texts id proper
      have here := proper a List.mem_cons_self
      obtain ⟨g, gap, same⟩ := List.exists_cons_of_ne_nil here.apart
      have separators : ∀ c ∈ gap, separates c = true :=
        fun c among => here.spacing.separators c (by simp [same, among])
      have rest : ((a :: arguments).flatMap (·.inTag)).drop 1 =
          gap ++ (a.name ++ '=' :: (a.text ++ arguments.flatMap (·.inTag))) := by
        simp [TagArgument.inTag, same]
      have all : Cuts [] true _ (([], gap) :: pieces) :=
        Cuts.ofSeparators separators (fun _ => rfl) (here.starts _) cuts
      obtain ⟨leading, behind⟩ := List.cons.inj (all.cutArguments (Nat.lt_succ_self _))
      rw [rest, ← yields.eq_ok_iff]
      simp only [(Prod.mk.inj leading).2, behind, trimBy_eq_nil separators]
      cases argumentTexts id pieces with
      | error fault => simp
      | ok texts =>
          simp only [callText, List.isEmpty_nil, Bool.not_true, Bool.false_eq_true, if_false,
            Except.ok.injEq, List.flatMap_cons, List.append_assoc, List.cons_append,
            List.append_cancel_left_eq, List.cons.injEq, true_and]
          rw [← List.append_assoc, List.append_left_inj]

/-- The closing marker stands in one of two texts, or across their border. -/
theorem unclosed_append (front : Text.occurs closeStatement text = false)
    (back : Text.occurs closeStatement rest = false)
    (border : text.getLast? ≠ some '%' ∨ rest.head? ≠ some '\x7d') :
    Text.occurs closeStatement (text ++ rest) = false := by
  rw [Bool.eq_false_iff] at front back ⊢
  intro found
  obtain ⟨before, after, whole⟩ := Text.occurs_iff.mp found
  have regrouped : text ++ rest = (before ++ ['%']) ++ '\x7d' :: after := by
    simpa [closeStatement] using whole
  have across (ends : text = before ++ ['%']) (begins : rest = '\x7d' :: after) : False := by
    rcases border with last | first
    · exact last (by simp [ends])
    · exact first (by simp [begins])
  rcases List.append_eq_append_iff.mp regrouped with ⟨part, sign, same⟩ | ⟨part, same, sign⟩
  · rcases List.eq_nil_or_concat part with rfl | ⟨part, c, rfl⟩
    · exact across (by simpa using sign.symm) (by simpa using same)
    · have ends : '%' = c := by simpa using congrArg List.getLast? sign
      exact back (Text.occurs_iff.mpr ⟨part, after, by simp [same, ← ends, closeStatement]⟩)
  · rcases part with _ | ⟨c, part⟩
    · exact across (by simpa using same) (by simpa using sign.symm)
    · obtain rfl : '\x7d' = c := (List.cons.inj sign).1
      exact front (Text.occurs_iff.mpr ⟨before, part, by simp [same, closeStatement]⟩)

theorem brace_notMem_of_separators (separators : ∀ c ∈ gap, separates c = true) : '\x7d' ∉ gap :=
  fun among => absurd (separators _ among) (by decide)

theorem brace_notMem_of_isName (named : isName name = true) : '\x7d' ∉ name :=
  fun among => absurd (isNameChar_of_isName named _ among) (by decide)

/-- Where no id or argument has the closing marker in it, the tag has none before its end. -/
theorem unclosed_tagText (front : Text.occurs closeStatement text = false)
    (proper : ∀ x ∈ arguments, x.Proper) :
    Text.occurs closeStatement (text ++ (arguments.flatMap (·.inTag) ++ [' '])) = false := by
  induction arguments generalizing text with
  | nil => exact unclosed_append front rfl (.inr (by simp))
  | cons a arguments ih =>
      obtain ⟨here, others⟩ := List.forall_mem_cons.mp proper
      have bare : '\x7d' ∉ a.gap ++ (a.name ++ ['=']) := by
        simp [brace_notMem_of_separators here.spacing.separators, brace_notMem_of_isName here.named]
      have first : (a.gap ++ (a.name ++ ['='])).head? ≠ some '\x7d' :=
        fun begins => bare (List.mem_of_head? begins)
      have inner : Text.occurs closeStatement (a.gap ++ (a.name ++ ['='])) = false :=
        Text.occurs_eq_false (by decide) bare
      have ahead := unclosed_append front inner (.inr first)
      have whole := ih (unclosed_append ahead here.unclosed (.inl (by simp))) others
      simpa [TagArgument.inTag] using whole

/-- A piece that is missing at the head of a text is missing at that of a longer one, if it fits. -/
theorem dropPiece?_append_of_none {piece : List Char} (fits : piece.length ≤ text.length)
    (none_ : Text.dropPiece? piece text = none) (after : List Char) :
    Text.dropPiece? piece (text ++ after) = none := by
  rw [Option.eq_none_iff_forall_ne_some] at none_ ⊢
  intro rest found
  obtain ⟨back, rfl⟩ : piece <+: text :=
    List.prefix_of_prefix_length_le ⟨rest, (Text.dropPiece?_eq_some.mp found).symm⟩
      (List.prefix_append text after) fits
  exact none_ back (Text.dropPiece?_eq_some.mpr rfl)

theorem dropPiece?_closeStatement (some_ : text ≠ [])
    (unclosed : Text.occurs closeStatement text = false) (last : ∀ c ∈ text.getLast?, c ≠ '%')
    (after : List Char) : Text.dropPiece? closeStatement (text ++ after) = none := by
  match text with
  | [] => contradiction
  | [c] => simp [closeStatement, Text.dropPiece?, (last c rfl).symm]
  | c :: d :: text =>
      rw [Text.occurs, Bool.or_eq_false_iff] at unclosed
      exact dropPiece?_append_of_none (by simp [closeStatement])
        (Option.not_isSome_iff_eq_none.mp (Bool.eq_false_iff.mp unclosed.1)) after

theorem tagBody?_of_none (signed : Text.dropPiece? ('-' :: closeStatement) (c :: text) = none)
    (bare : Text.dropPiece? closeStatement (c :: text) = none) :
    tagBody? (c :: text) = (tagBody? text).map fun (body, rest) => (c :: body, rest) := by
  rw [tagBody?, signed, bare]

/-- A tag goes on to the closing marker. -/
theorem tagBody?_eq (unclosed : Text.occurs closeStatement text = false)
    (last : ∀ c ∈ text.getLast?, c ≠ '-' ∧ c ≠ '%') (after : List Char) :
    tagBody? (text ++ (closeStatement ++ after)) = some (text, after) := by
  induction text with
  | nil => rfl
  | cons c text ih =>
      have bare := dropPiece?_closeStatement (List.cons_ne_nil c text) unclosed
        (fun d ends => (last d ends).2) (closeStatement ++ after)
      have unclosedRest : Text.occurs closeStatement text = false := by
        rw [Text.occurs, Bool.or_eq_false_iff] at unclosed
        exact unclosed.2
      have lastRest : ∀ d ∈ text.getLast?, d ≠ '-' ∧ d ≠ '%' := by
        cases text with
        | nil => simp
        | cons => simpa using last
      have signed : Text.dropPiece? ('-' :: closeStatement)
          (c :: (text ++ (closeStatement ++ after))) = none := by
        rw [Text.dropPiece?]
        split
        · rename_i minus
          have some_ : text ≠ [] := by
            rintro rfl
            exact (last c rfl).1 minus.symm
          exact dropPiece?_closeStatement some_ unclosedRest (fun d ends => (lastRest d ends).2) _
        · rfl
      rw [List.cons_append, tagBody?_of_none signed bare, ih unclosedRest lastRest]
      rfl

/-- The first closing marker of a text ends a tag, whatever follows the text. -/
theorem exists_tagBody (closed : Text.occurs closeStatement text = true) :
    ∃ body mark back, text = body ++ mark :: back ∧ (mark = '-' ∨ mark = '%') ∧
      ∀ after, ∃ rest, tagBody? (text ++ after) = some (body, rest) := by
  induction text with
  | nil => cases closed
  | cons c text ih =>
      cases signed : Text.dropPiece? ('-' :: closeStatement) (c :: text) with
      | some rest =>
          rw [Text.dropPiece?_eq_some.mp signed]
          exact ⟨[], '-', _, rfl, .inl rfl, fun after => ⟨rest ++ after, rfl⟩⟩
      | none =>
          cases bare : Text.dropPiece? closeStatement (c :: text) with
          | some rest =>
              rw [Text.dropPiece?_eq_some.mp bare]
              exact ⟨[], '%', _, rfl, .inr rfl, fun after => ⟨rest ++ after, rfl⟩⟩
          | none =>
              rw [Text.occurs, Text.startsWith, bare, Option.isSome_none, Bool.false_or] at closed
              obtain ⟨body, mark, back, rfl, marked, ended⟩ := ih closed
              have fits : ('-' :: closeStatement).length ≤ (c :: (body ++ mark :: back)).length := by
                obtain ⟨before, behind, whole⟩ := Text.occurs_iff.mp closed
                rw [whole, List.length_cons, List.length_cons, List.length_append,
                  List.length_append]
                omega
              refine ⟨c :: body, mark, back, rfl, marked, fun after => ?_⟩
              obtain ⟨rest, found⟩ := ended after
              have longer := tagBody?_of_none (dropPiece?_append_of_none fits signed after)
                (dropPiece?_append_of_none (Nat.le_of_succ_le fits) bare after)
              exact ⟨rest, longer.trans (congrArg _ found)⟩

theorem tagAt?_moduleTag (id : List Char) (arguments : List TagArgument) :
    tagAt? (moduleTag id arguments) = tagBody? (tagText id arguments ++ ' ' :: closeStatement) :=
  rfl

theorem expandFrom_nil (fuel : Nat) : expandFrom fuel [] = .ok [] := by
  cases fuel <;> rfl

/-- A text that begins with a tag has the tag's call, and what is written for the rest. -/
theorem expandTags_eq_ok_iff {body : List Char} (tagged : tagAt? text = some (body, rest)) :
    expandTags text = .ok found ↔ ∃ call, moduleCall body = .ok call ∧
      ∃ others, expandFrom text.length rest = .ok others ∧
        found = openOutput ++ ' ' :: call ++ ' ' :: closeOutput ++ others := by
  cases text with
  | nil => cases tagged
  | cons c text =>
      rw [expandTags, expandFrom, tagged]
      dsimp only
      cases moduleCall body with
      | error fault => simp
      | ok call =>
          cases expandFrom (c :: text).length rest with
          | error fault => simp [Except.map]
          | ok others => simp [Except.map, eq_comm]

/-- A closing marker in the module's id ends a tag, and the call has what stands before it. -/
theorem expandTags_of_closed (plain : IsModuleId id)
    (closed : Text.occurs closeStatement id = true) :
    expandTags (moduleTag id arguments) ≠ .ok (callMarker id arguments) := by
  obtain ⟨front, mark, back, rfl, marked, ended⟩ := exists_tagBody closed
  obtain ⟨rest, body⟩ := ended (arguments.flatMap (·.inTag) ++ ' ' :: closeStatement)
  have tagged : tagAt? (moduleTag (front ++ mark :: back) arguments) = some (front, rest) := by
    rw [tagAt?_moduleTag, ← body, tagText, List.append_assoc]
  rw [ne_eq, expandTags_eq_ok_iff tagged]
  rintro ⟨call, called, others, -, whole⟩
  by_cases some_ : front = []
  · subst some_
    cases called
  · have plainFront : IsModuleId front :=
      ⟨some_, fun c among => plain.solid c (List.mem_append_left _ among),
        fun c among => plain.unquoted c (List.mem_append_left _ among)⟩
    have none_ {p : TagArgument → Prop} : ∀ x ∈ [], p x := List.forall_mem_nil _
    have bare := (moduleCall_eq_ok_iff plainFront none_ (List.forall_mem_nil _)).mpr none_
    rw [tagText, List.flatMap_nil, List.append_nil, List.append_nil] at bare
    cases called.symm.trans bare
    -- the call ends its literal where the id has its mark
    simp only [callMarker, callText, List.append_assoc, List.cons_append,
      List.append_cancel_left_eq, List.cons.injEq, true_and] at whole
    rcases marked with rfl | rfl
    · exact absurd whole.1 (by decide)
    · exact absurd whole.1 (by decide)

/-- A tag stands for the call of its module with its arguments exactly if nothing in the module's id
closes the tag, and the text of each argument is joined as calls join arguments. -/
theorem module_tag_is_call_iff (plain : IsModuleId id) (proper : ∀ x ∈ arguments, x.Proper) :
    expandTags (moduleTag id arguments) = .ok (callMarker id arguments) ↔
      Text.occurs closeStatement id = false ∧ ∀ x ∈ arguments, Joined x.text := by
  cases closed : Text.occurs closeStatement id with
  | true => simpa using expandTags_of_closed plain closed
  | false =>
      have blank : ∀ c ∈ [' '], Text.isBlank c = true := List.forall_mem_singleton.mpr rfl
      have body := tagBody?_eq (unclosed_tagText closed proper) (by simp) []
      have tagged : tagAt? (moduleTag id arguments) = some (tagText id arguments ++ [' '], []) := by
        simpa [tagAt?_moduleTag, tagText] using body
      rw [← moduleCall_eq_ok_iff plain proper blank, expandTags_eq_ok_iff tagged]
      constructor
      · rintro ⟨call, called, others, rest, whole⟩
        cases (expandFrom_nil _).symm.trans rest
        refine ⟨rfl, ?_⟩
        have same : callText id arguments = call := by simpa [callMarker] using whole
        rw [same, called]
      · rintro ⟨-, called⟩
        exact ⟨_, called, [], rfl, (List.append_nil _).symm⟩

def labelArguments : List TagArgument :=
  [⟨[' '], "name".toList, "env".toList⟩, ⟨[',', ' '], "on".toList, "env == 'prod'".toList⟩,
    ⟨[' '], "suffix".toList, "f(a, b=1)".toList⟩]

/-- The names that the last argument has in its own call are no arguments of the tag. -/
theorem module_tag_is_call_iff_label :
    expandTags "\x7b% module label name=env, on=env == 'prod' suffix=f(a, b=1) %\x7d".toList =
      .ok "\x7b\x7b module(\"label\", name=env, on=env == 'prod', suffix=f(a, b=1)) \x7d\x7d".toList := by
  have plain : IsModuleId "label".toList := by decide
  have proper : ∀ x ∈ labelArguments, x.Proper := by
    simp only [labelArguments, List.forall_mem_cons]
    refine ⟨?name, ?on, ?suffix, by simp⟩
    case name => exact ⟨by decide, .blank, rfl, by decide, by decide, rfl⟩
    case on => exact ⟨by decide, .comma, rfl, by decide, by decide, rfl⟩
    case suffix => exact ⟨by decide, .blank, rfl, by decide, by decide, rfl⟩
  have joined : ∀ x ∈ labelArguments, Joined x.text := by
    simp only [labelArguments, List.forall_mem_cons]
    refine ⟨?name, ?on, ?suffix, by simp⟩
    case name => exact .piece (by decide) (by decide)
    case on => exact .piece (by decide) (by decide)
    case suffix =>
      have first : IsValue "f(a".toList := by decide
      have last : Joined "1)".toList := .piece (by decide) (by decide)
      exact .next first (by decide) (rfl : isName "b".toList = true) (by decide) last
  have called := (module_tag_is_call_iff plain proper).mpr ⟨rfl, joined⟩
  have tag : moduleTag "label".toList labelArguments =
      "\x7b% module label name=env, on=env == 'prod' suffix=f(a, b=1) %\x7d".toList := rfl
  have marker : callMarker "label".toList labelArguments =
      "\x7b\x7b module(\"label\", name=env, on=env == 'prod', suffix=f(a, b=1)) \x7d\x7d".toList := rfl
  rwa [tag, marker] at called

theorem module_tag_breaks_literal :
    expandTags "\x7b% module echo text='x y=1' %\x7d".toList =
      .ok "\x7b\x7b module(\"echo\", text='x, y=1') \x7d\x7d".toList := by
  rfl

end StagePlan.Markup
