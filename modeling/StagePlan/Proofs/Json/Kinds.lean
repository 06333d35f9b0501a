import StagePlan.Proofs.Json.Values

namespace StagePlan.Json

/-!
What a document comes back as, whether its numbers come back or not: a string where there was one,
and nowhere else.
-/

variable {text rest : List Char} {d : Document}

theorem value?_of_readNumber {name : String} (read : readNumber text = some (d, rest)) :
    d.value? ≠ some (.string name) := by
  rcases scalar_of_readNumber read with ⟨n, rfl⟩ | ⟨_ | x, rfl⟩ <;> nofun

theorem value?_within {name : String} {depth : Nat} {content : Document}
    (other : content.value? ≠ some (.string name)) :
    (within depth content).value? ≠ some (.string name) := by
  rw [within]
  split
  · exact other
  · nofun

/-- Only what begins with a quotation mark is read as a string. -/
theorem quoted_of_readDocument {fuel depth : Nat} {name : String}
    (read : readDocument fuel depth text = some (d, rest)) (held : d.value? = some (.string name)) :
    ∃ tail, skipBlanks text = '"' :: tail := by
  have list (items : List Document) : (Document.list true items).value? ≠ some (.string name) := by
    rw [Document.value?]
    cases Document.itemValues? items <;> nofun
  have map (entries : List (Document × Document)) :
      (Document.map true entries).value? ≠ some (.string name) := by
    rw [Document.value?]
    cases Document.entryValues? entries <;> nofun
  cases fuel with
  | zero => cases read
  | succ fuel =>
    rw [readDocument] at read
    split at read
    · rename_i quoted
      exact ⟨_, quoted⟩
    · split at read
      · cases read
        exact absurd held (value?_within (list []))
      · split at read
        · cases read
          exact absurd held (value?_within (list _))
        · cases read
    · split at read
      · cases read
        exact absurd held (value?_within (map []))
      · split at read
        · cases read
          exact absurd held (value?_within (map _))
        · cases read
    · cases read
      cases held
    · cases read
      cases held
    · cases read
      cases held
    · exact absurd held (value?_of_readNumber read)

theorem quote_notMem_digits (n : Nat) : '"' ∉ Decimal.digitsOf n := by
  intro among
  have digit := Nat.isDigit_of_mem_toDigits (by decide) (by decide) among
  cases digit

theorem quote_notMem_placePoint {digits : List Char} (plain : '"' ∉ digits) (order : Int) :
    '"' ∉ Decimal.placePoint digits order := by
  unfold Decimal.placePoint
  dsimp only
  split
  · simp [plain]
  · split
    · simp [plain]
    · have front : '"' ∉ digits.take (order.toNat + 1) := fun among => plain (List.mem_of_mem_take among)
      have back : '"' ∉ digits.drop (order.toNat + 1) := fun among => plain (List.mem_of_mem_drop among)
      simp [front, back]

theorem quote_notMem_withExponent {digits : List Char} (plain : '"' ∉ digits) (order : Int) :
    '"' ∉ Decimal.withExponent "+" digits order := by
  have power := quote_notMem_digits order.natAbs
  unfold Decimal.withExponent
  dsimp only
  simp only [List.mem_append, List.mem_cons, not_or]
  refine ⟨⟨?_, by decide, ?_⟩, power⟩
  · split <;> simp_all
  · split <;> decide

theorem quote_notMem_number (n : Number) : '"' ∉ n.documentChars := by
  cases n with
  | integer n =>
      change '"' ∉ (toString n.toInt).toList
      cases n.toInt with
      | ofNat k =>
          have digits : (toString (Int.ofNat k)).toList = Decimal.digitsOf k := Nat.toList_repr
          rw [digits]
          exact quote_notMem_digits k
      | negSucc k =>
          have digits : (toString (Int.negSucc k)).toList = '-' :: Decimal.digitsOf (k + 1) := by
            change ("-" ++ (k + 1).repr).toList = _
            rw [String.toList_append, Nat.toList_repr]
            rfl
          rw [digits, List.mem_cons, not_or]
          exact ⟨by decide, quote_notMem_digits (k + 1)⟩
  | float x =>
      rw [Number.documentChars]
      split
      · rw [Decimal.Layout.text]
        dsimp only
        have sign : '"' ∉ (if x.isNegative then ['-'] else []) := by
          split <;> decide
        split
        · simp [sign]
        · have digits := quote_notMem_digits (Decimal.shortest x).digits
          rw [String.toList_ofList, List.mem_append, not_or]
          refine ⟨sign, ?_⟩
          split
          · exact quote_notMem_placePoint digits _
          · exact quote_notMem_withExponent digits _
      · decide

/-- Only strings come back as strings. -/
theorem string_of_value?_document {v : Value} {name : String}
    (read : value? v.document = some (.string name)) : v = .string name := by
  obtain ⟨d, whole, held⟩ := Option.bind_eq_some_iff.mp read
  have quoted : ∃ tail, skipBlanks v.documentChars = '"' :: tail := by
    rw [document?, Value.document, String.toList_ofList] at whole
    split at whole
    · rename_i d' rest document
      split at whole
      · cases whole
        exact quoted_of_readDocument document held
      · cases whole
    · cases whole
  obtain ⟨tail, quoted⟩ := quoted
  cases v with
  | null => cases quoted
  | bool b => cases b <;> cases quoted
  | number n =>
      refine absurd ?_ (quote_notMem_number n)
      have among : '"' ∈ skipBlanks n.documentChars := by
        change skipBlanks (Value.number n).documentChars = _ at quoted
        rw [Value.documentChars] at quoted
        simp [quoted]
      exact (List.dropWhile_suffix _).mem among
  | string text =>
      have back : value? (Value.string text).document = some (.string text) :=
        value?_document trivial trivial
      rw [back] at read
      exact Option.some.inj read
  | list items =>
      rw [Value.documentChars] at quoted
      cases quoted
  | map entries =>
      rw [Value.documentChars] at quoted
      cases quoted

end StagePlan.Json
