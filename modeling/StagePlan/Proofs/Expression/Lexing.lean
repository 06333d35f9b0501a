import StagePlan.Proofs.Expression.Inside

namespace StagePlan.Expression

/-!
What tokens a text has does not depend on where it stands, nor on how much fuel there is for its
steps: every step of the lexer but the last passes at least one character, and no step looks at
anything but the text before it.
-/

open Reader (IsSound)

/-- What a step gives and where it goes on, but for the places. -/
def Step.outline (step : Step) : List Token × Option (Mode × List Char) :=
  (step.tokens.map (·.token), step.next?.map fun (mode, next) => (mode, next.rest))

section Alike

variable {one other : Cursor}

theorem Cursor.goTo_alike (same : one.rest = other.rest) (rest : List Char) :
    (one.goTo rest).rest = (other.goTo rest).rest := by
  simp only [Cursor.goTo, Cursor.advance, same]

theorem openingStep_alike (same : one.rest = other.rest) :
    (openingStep one).outline = (openingStep other).outline := by
  have goes (rest : List Char) : (one.goTo rest).rest = (other.goTo rest).rest :=
    Cursor.goTo_alike same rest
  unfold openingStep
  rw [same]
  dsimp only
  split
  · split
    · simp only [Step.outline, Option.map_some, goes, List.map_nil]
    · rfl
  · split
    · split
      · split
        · rfl
        · simp only [Step.outline, Option.map_some, goes, List.map_cons, List.map_nil]
      · simp only [Step.outline, Option.map_some, goes, List.map_cons, List.map_nil]
    · simp only [Step.outline, Option.map_some, goes, List.map_cons, List.map_nil]

theorem textStep_alike (same : one.rest = other.rest) (trim : Bool) :
    (textStep trim one).outline = (textStep trim other).outline := by
  have plain {one other : Cursor} (same : one.rest = other.rest) :
      (textStep false one).outline = (textStep false other).outline := by
    unfold textStep
    simp only [Bool.false_eq_true, if_false, same]
    split
    · rfl
    · split
      · exact openingStep_alike same
      · simp only [Step.outline, Option.map_some, Cursor.goTo_alike same,
          apply_ite (List.map PlacedToken.token), List.map_cons, List.map_nil]
  cases trim with
  | false => exact plain same
  | true =>
      have start := Cursor.goTo_alike same (Text.trimStart other.rest)
      have trimmed : (textStep true one).outline =
          (textStep false (one.goTo (Text.trimStart one.rest))).outline := rfl
      have trimmed' : (textStep true other).outline =
          (textStep false (other.goTo (Text.trimStart other.rest))).outline := rfl
      rw [trimmed, trimmed', same]
      exact plain start

theorem markerStep_alike (same : one.rest = other.rest) (kind : MarkerKind) (depth : Nat) :
    (markerStep kind depth one).outline = (markerStep kind depth other).outline := by
  have start := Cursor.goTo_alike same (other.rest.dropWhile isTokenBlank)
  have goes (rest : List Char) := Cursor.goTo_alike start rest
  unfold markerStep
  rw [same]
  simp only [start]
  split
  · rfl
  · split
    · simp only [Step.outline, Option.map_some, goes, List.map_cons, List.map_nil]
    · split
      · rfl
      · simp only [Step.outline, Option.map_some, goes, List.map_cons, List.map_nil]

theorem Mode.step_alike (same : one.rest = other.rest) (mode : Mode) :
    (mode.step one).outline = (mode.step other).outline := by
  cases mode with
  | text trim => exact textStep_alike same trim
  | marker kind depth => exact markerStep_alike same kind depth

end Alike

section Progress

variable {cursor next : Cursor} {mode onward : Mode} {text rest : List Char}

theorem Cursor.rest_goTo_of_suffix (suffix : rest <:+ cursor.rest) :
    (cursor.goTo rest).rest = rest := by
  obtain ⟨passed, whole⟩ := suffix
  exact Cursor.rest_goTo whole.symm

theorem suffix_of_dropPiece? {piece : List Char} (found : Text.dropPiece? piece text = some rest) :
    rest <:+ text :=
  ⟨piece, (Text.dropPiece?_eq_some.mp found).symm⟩

theorem splitTrimSign_suffix (text : List Char) : (splitTrimSign text).2 <:+ text := by
  cases text with
  | nil => exact List.suffix_rfl
  | cons c text =>
      rw [splitTrimSign]
      split
      · exact List.suffix_cons c text
      · exact List.suffix_rfl

theorem suffix_of_cutAt? {piece before : List Char}
    (found : Text.cutAt? piece text = some (before, rest)) : rest <:+ text := by
  induction text generalizing before with
  | nil =>
      rw [Text.cutAt?] at found
      split at found <;> cases found
      exact List.suffix_rfl
  | cons c text ih =>
      rw [Text.cutAt?] at found
      split at found
      · rename_i first
        cases found
        exact suffix_of_dropPiece? first
      · obtain ⟨⟨front, behind⟩, later, same⟩ := Option.map_eq_some_iff.mp found
        cases same
        exact (ih later).trans (List.suffix_cons c text)

theorem suffix_of_bareStatement? {name : String} {sign : Option Char}
    (found : bareStatement? name text = some (sign, rest)) : rest <:+ text := by
  unfold bareStatement? at found
  obtain ⟨behind, named, found⟩ := Option.bind_eq_some_iff.mp found
  obtain ⟨left, closed, found⟩ := Option.bind_eq_some_iff.mp found
  cases found
  exact (suffix_of_dropPiece? closed).trans <| (splitTrimSign_suffix _).trans <|
    (List.dropWhile_suffix _).trans <| (suffix_of_dropPiece? named).trans <| List.dropWhile_suffix _

theorem suffix_of_rawBody? {body : List Char} {trimsBefore trimsAfter : Bool}
    (found : rawBody? text = some (body, trimsBefore, trimsAfter, rest)) : rest <:+ text := by
  induction text generalizing body trimsBefore trimsAfter with
  | nil => cases found
  | cons c text ih =>
      rw [rawBody?] at found
      dsimp only at found
      split at found
      · rename_i ending
        cases found
        obtain ⟨behind, opened, ending⟩ := Option.bind_eq_some_iff.mp ending
        obtain ⟨⟨sign, left⟩, bare, ending⟩ := Option.bind_eq_some_iff.mp ending
        cases ending
        exact (suffix_of_bareStatement? bare).trans <| (splitTrimSign_suffix _).trans <|
          suffix_of_dropPiece? opened
      · obtain ⟨⟨front, ends⟩, later, same⟩ := Option.map_eq_some_iff.mp found
        cases same
        exact (ih later).trans (List.suffix_cons c text)

/-- Behind a piece of a text there is less of it. -/
theorem length_goTo_lt {piece behind : List Char}
    (opened : Text.dropPiece? piece cursor.rest = some behind) (some_ : piece ≠ [])
    (within : rest <:+ behind) : (cursor.goTo rest).rest.length < cursor.rest.length := by
  have whole := Text.dropPiece?_eq_some.mp opened
  have length := within.length_le
  have more := List.length_pos_iff.mpr some_
  rw [Cursor.rest_goTo_of_suffix (within.trans (suffix_of_dropPiece? opened)), whole,
    List.length_append]
  omega

theorem openingStep_shorter (opens : opensMarker cursor.rest = true)
    (stepped : (openingStep cursor).next? = some (onward, next)) :
    next.rest.length < cursor.rest.length := by
  unfold openingStep at stepped
  dsimp only at stepped
  split at stepped
  · rename_i behind opened
    split at stepped
    · rename_i body rest cut
      cases stepped
      exact length_goTo_lt opened (by decide)
        ((suffix_of_cutAt? cut).trans (splitTrimSign_suffix behind))
    · cases stepped
  · rename_i uncommented
    split at stepped
    · rename_i behind opened
      split at stepped
      · rename_i sign rest raw
        split at stepped
        · cases stepped
        · rename_i body trimsBefore trimsAfter after ended
          cases stepped
          exact length_goTo_lt opened (by decide) <| (suffix_of_rawBody? ended).trans <|
            (suffix_of_bareStatement? raw).trans (splitTrimSign_suffix behind)
      · cases stepped
        exact length_goTo_lt opened (by decide) (splitTrimSign_suffix behind)
    · rename_i unstated
      cases stepped
      have opened : ∃ behind, Text.dropPiece? Markup.openOutput cursor.rest = some behind := by
        simpa [opensMarker, Text.startsWith, uncommented, unstated, Option.isSome_iff_exists]
          using opens
      obtain ⟨behind, opened⟩ := opened
      have dropped : cursor.rest.drop 2 = behind := by
        rw [Text.dropPiece?_eq_some.mp opened]
        rfl
      rw [dropped]
      exact length_goTo_lt opened (by decide) (splitTrimSign_suffix behind)

theorem splitLead_append (text : List Char) :
    (splitLead text).1 ++ (splitLead text).2 = text := by
  induction text with
  | nil => rfl
  | cons c text ih =>
      rw [splitLead]
      split
      · rfl
      · exact congrArg (c :: ·) ih

theorem textStep_shorter {trim : Bool}
    (stepped : (textStep trim cursor).next? = some (onward, next)) :
    next.rest.length < cursor.rest.length := by
  have plain {cursor : Cursor} (stepped : (textStep false cursor).next? = some (onward, next)) :
      next.rest.length < cursor.rest.length := by
    unfold textStep at stepped
    simp only [Bool.false_eq_true, if_false] at stepped
    split at stepped
    · cases stepped
    · rename_i some_
      split at stepped
      · rename_i opens
        exact openingStep_shorter opens stepped
      · rename_i closed
        cases stepped
        rw [Cursor.rest_goTo (splitLead_append cursor.rest).symm]
        cases whole : cursor.rest with
        | nil => simp [whole] at some_
        | cons c text =>
            rw [whole] at closed
            rw [splitLead, if_neg closed]
            have length := congrArg List.length (splitLead_append text)
            rw [List.length_append] at length
            simp only [List.length_cons]
            omega
  cases trim with
  | false => exact plain stepped
  | true =>
      have within : Text.trimStart cursor.rest <:+ cursor.rest := List.dropWhile_suffix _
      have shorter : next.rest.length < (cursor.goTo (Text.trimStart cursor.rest)).rest.length :=
        plain stepped
      rw [Cursor.rest_goTo_of_suffix within] at shorter
      exact Nat.lt_of_lt_of_le shorter within.length_le

/-- The end of a marker has some characters. -/
theorem suffix_of_endAt? {kind : MarkerKind} {trim : Bool} {c : Char}
    (ended : kind.endAt? (c :: text) = some (trim, rest)) : rest <:+ text := by
  rw [MarkerKind.endAt?] at ended
  split at ended
  · rename_i signed
    split at signed
    · cases ended
      exact suffix_of_dropPiece? signed
    · cases signed
  · obtain ⟨behind, closed, same⟩ := Option.map_eq_some_iff.mp ended
    cases same
    have whole := Text.dropPiece?_eq_some.mp closed
    cases kind <;> exact ⟨_, (List.cons.inj whole).2.symm⟩

theorem markerStep_shorter {kind : MarkerKind} {depth : Nat}
    (stepped : (markerStep kind depth cursor).next? = some (onward, next)) :
    next.rest.length < cursor.rest.length := by
  have within : cursor.rest.dropWhile isTokenBlank <:+ cursor.rest := List.dropWhile_suffix _
  have start := Cursor.rest_goTo_of_suffix within
  unfold markerStep at stepped
  dsimp only at stepped
  generalize cursor.rest.dropWhile isTokenBlank = text at *
  rw [start] at stepped
  cases text with
  | nil => cases stepped
  | cons c text =>
      have goes {rest : List Char} (behind : rest <:+ text) :
          ((cursor.goTo (c :: text)).goTo rest).rest.length < cursor.rest.length := by
        have here : rest <:+ (cursor.goTo (c :: text)).rest := by
          rw [start]
          exact behind.trans (List.suffix_cons c text)
        rw [Cursor.rest_goTo_of_suffix here]
        exact Nat.lt_of_lt_of_le (Nat.lt_succ_of_le behind.length_le) within.length_le
      dsimp only at stepped
      split at stepped
      · rename_i trim rest ended
        cases stepped
        split at ended
        · exact goes (suffix_of_endAt? ended)
        · cases ended
      · split at stepped
        · cases stepped
        · rename_i token rest sound taken
          cases stepped
          have sound_ : IsSound (tokenAt (c :: text)).1 := by
            rw [taken]
            exact sound
          have suffix := suffix_of_tokenAt sound_
          rw [taken] at suffix
          exact goes suffix

theorem Mode.step_shorter (stepped : (mode.step cursor).next? = some (onward, next)) :
    next.rest.length < cursor.rest.length := by
  cases mode with
  | text trim => exact textStep_shorter stepped
  | marker kind depth => exact markerStep_shorter stepped

end Progress

/-- Tokens do not depend on where a text stands nor on the fuel, if there is enough. Induction on the
length of the text. -/
theorem tokensFrom_alike {mode : Mode} {one other : Cursor} {fuel fuel' : Nat}
    (same : one.rest = other.rest) (enough : one.rest.length < fuel)
    (enough' : other.rest.length < fuel') :
    (tokensFrom fuel mode one).map (·.token) = (tokensFrom fuel' mode other).map (·.token) := by
  induction fuel generalizing mode one other fuel' with
  | zero => cases enough
  | succ fuel ih =>
      obtain ⟨fuel', rfl⟩ := Nat.exists_eq_add_of_le' (Nat.one_le_of_lt enough')
      obtain ⟨kinds, onward⟩ := Prod.mk.inj (mode.step_alike same)
      rw [tokensFrom_succ, tokensFrom_succ]
      cases stepped : (mode.step one).next? with
      | none =>
          rw [stepped] at onward
          rw [Option.map_eq_none_iff.mp onward.symm]
          exact kinds
      | some next =>
          obtain ⟨next, behind⟩ := next
          rw [stepped] at onward
          obtain ⟨⟨next', behind'⟩, stepped', equal⟩ := Option.map_eq_some_iff.mp onward.symm
          obtain ⟨rfl, left⟩ := Prod.mk.inj equal
          have shorter := Mode.step_shorter stepped
          have shorter' := Mode.step_shorter stepped'
          have others : (tokensFrom fuel next' behind).map (·.token) =
              (tokensFrom fuel' next' behind').map (·.token) :=
            ih left.symm (by omega) (by omega)
          rw [stepped', List.map_append, List.map_append, kinds, others]

/-- Every text has tokens, wherever it stands. -/
theorem lexes_kinds (text : List Char) : Lexes (.text false) text (kinds text) := by
  intro fuel cursor whole enough
  exact tokensFrom_alike (by rw [whole, Cursor.ofSource]) (by rwa [whole])
    (by simp [Cursor.ofSource])

section Lead

variable {lead text : List Char} {found : List Token}

theorem opensMarker_cons {c : Char} (unopened : c ≠ '\x7b') (text : List Char) :
    opensMarker (c :: text) = false := by
  simp [opensMarker, Text.startsWith, Text.dropPiece?, Markup.openOutput, Markup.openStatement,
    openComment, Ne.symm unopened]

theorem splitLead_of_opens (unopened : ∀ c ∈ lead, c ≠ '\x7b') (opens : opensMarker text = true) :
    splitLead (lead ++ text) = (lead, text) := by
  induction lead with
  | nil =>
      cases text with
      | nil => cases opens
      | cons c text => exact if_pos opens
  | cons c lead ih =>
      have first := opensMarker_cons (unopened c List.mem_cons_self) (lead ++ text)
      have others := ih fun d among => unopened d (List.mem_cons_of_mem c among)
      rw [List.cons_append, splitLead, first, others]
      rfl

theorem trimEnd_of_solid (solid : ∀ c ∈ lead, Text.isBlank c = false) :
    Text.trimEnd lead = lead := by
  have kept : lead.reverse.dropWhile Text.isBlank = lead.reverse := by
    rw [List.dropWhile_eq_self_iff]
    intro some_
    rw [solid _ (List.mem_reverse.mp (List.getElem_mem some_))]
    nofun
  rw [Text.trimEnd, kept, List.reverse_reverse]

/-- A text in front of a marker is one token more. -/
theorem Lexes.behind (some_ : lead ≠ []) (solid : ∀ c ∈ lead, Text.isBlank c = false)
    (unopened : ∀ c ∈ lead, c ≠ '\x7b') (opens : opensMarker text = true)
    (others : Lexes (.text false) text found) :
    Lexes (.text false) (lead ++ text) (.text lead :: found) := by
  have shorter : text.length < (lead ++ text).length := by
    rw [List.length_append]
    exact Nat.lt_add_of_pos_left (List.length_pos_iff.mpr some_)
  refine .cons shorter (fun cursor whole => ?_) others
  refine ⟨cursor.spanTo (cursor.advance lead.length), cursor.goTo text, ?_,
    Cursor.rest_goTo whole⟩
  obtain ⟨c, tail, rfl⟩ := List.exists_cons_of_ne_nil some_
  have closed : opensMarker (c :: tail ++ text) = false :=
    opensMarker_cons (unopened c List.mem_cons_self) _
  have more : (c :: tail ++ text).isEmpty = false := rfl
  simp only [Mode.step, textStep, Bool.false_eq_true, if_false, whole, more, closed,
    splitLead_of_opens unopened opens, trimEnd_of_solid solid, ite_self]
  rfl

theorem kinds_behind (some_ : lead ≠ []) (solid : ∀ c ∈ lead, Text.isBlank c = false)
    (unopened : ∀ c ∈ lead, c ≠ '\x7b') (opens : opensMarker text = true) :
    kinds (lead ++ text) = .text lead :: kinds text :=
  Lexes.map_tokens (.behind some_ solid unopened opens (lexes_kinds text))

end Lead

end StagePlan.Expression
