import SqlMapper.Proofs.Sql.Numbers
import SqlMapper.Proofs.Sql.Reading
import SqlMapper.Proofs.Text.Digits

/-!
# Constants in written text

A constant is read back from its text as it was, but for a real: that becomes the number that its digits are taken
for. A minus in front of a number is read with the number.
-/

namespace SqlMapper

namespace Sql

/-- The digits of a finite real, without its sign. -/
def realDigits (x : Binary64) : List Char :=
  if x.isZero then ['0', '.', '0'] else RealLayout.literal.magnitude x.magnitude

/-- A constant as it is read back: a real is whatever number its digits are taken for. -/
def Constant.reread : Constant → Constant
  | .literal (.real x) => .literal (numberValue x.negative (realDigits x))
  | c => c

/-- Constants that are written: literals of values that have one, places without a name, and places named after
parameters. -/
def Constant.Writable : Constant → Prop
  | .literal v => v.checkLiteral = .ok v
  | .place .anonymous => True
  | .place (.named mark name) => mark = ':' ∧ isParameterName name = true
  | .place (.numbered _) => False

/-! ## Text -/

/-- The text of a constant is read by itself. -/
theorem Lexed.constant {c : Constant} (h : c.Writable) : Lexed c.text.toList c.tokens := by
  cases c with
  | literal v => exact .literal h
  | place p =>
    cases p with
    | anonymous => exact .anonymous
    | numbered n => cases h
    | named mark name =>
      obtain ⟨rfl, hname⟩ := h
      simp only [isParameterName, Bool.and_eq_true, Bool.not_eq_true', List.all_eq_true] at hname
      obtain ⟨hne, hall⟩ := hname
      have hchars : ∀ c ∈ name.toList, isWordChar c = true := by
        intro c hc
        have hkind := hall c hc
        simp only [Char.isAlphanum, Bool.or_eq_true, beq_iff_eq] at hkind
        simp only [isWordChar, isWordStart, Bool.or_eq_true, beq_iff_eq]
        rcases hkind with (h | h) | h
        · exact Or.inl (Or.inl (Or.inl (Or.inl h)))
        · exact Or.inl (Or.inr h)
        · exact Or.inl (Or.inl (Or.inl (Or.inr h)))
      have hlexed := named (by simpa using hne) hchars
      simpa [Constant.text, Place.text, Constant.tokens] using hlexed

theorem lexedEach_constants {set : List Constant} (h : ∀ c ∈ set, c.Writable) :
    LexedEach (set.map Constant.text) (set.map Constant.tokens) := by
  rw [LexedEach, List.forall₂_map_left_iff, List.forall₂_map_right_iff, List.forall₂_same]
  exact fun c hc => .constant (h c hc)

/-- The constants of a set in their parentheses. -/
theorem Lexed.set {set : List Constant} (h : ∀ c ∈ set, c.Writable) :
    Lexed ('(' :: ((", ".intercalate (set.map Constant.text)).toList ++ [')']))
      (parenTokens (commaTokens (set.map Constant.tokens))) := by
  cases set with
  | nil =>
    refine ⟨⟨'(', _, rfl, rfl⟩, ?_⟩
    intro rest hrest
    have hopen : lexeme '(' (')' :: rest) = (some (.symbol .open), ')' :: rest) := rfl
    have hclose : lexeme ')' rest = (some (.symbol .close), rest) := by cases rest <;> rfl
    have htokens : tokensFrom ('(' :: ')' :: rest) = .symbol .open :: .symbol .close :: tokensFrom rest := by
      rw [tokensFrom_cons hopen (Nat.le_refl _), tokensFrom_cons hclose (Nat.le_refl _)]
    simpa [parenTokens, commaTokens] using htokens
  | cons c set => exact (Lexed.commas (lexedEach_constants h) (by simp)).paren

/-! ## Numbers -/

theorem not_isNumberSpace_of_isDigit {c : Char} (h : c.isDigit = true) : isNumberSpace c = false := by
  have hlow : 48 ≤ c.toNat := (Char.isDigit_iff_toNat.1 h).1
  have hne : c ≠ ' ' := ne_of_apply_ne Char.isDigit (by simp [h])
  simp only [isNumberSpace, Bool.or_eq_false_iff, beq_eq_false_iff_ne, Bool.and_eq_false_iff, decide_eq_false_iff_not]
  exact ⟨hne, Or.inr (by omega)⟩

/-- Digits after a sign are a whole number. -/
theorem read_isDigits {ds : List Char} (h : IsDigits ds) (minus : Bool) :
    NumberText.read (String.ofList (if minus then '-' :: ds else ds)) = ⟨minus, ds, none, false, none, []⟩ := by
  obtain ⟨c, cs, rfl⟩ := List.exists_cons_of_ne_nil h.1
  have hc := h.2 c List.mem_cons_self
  have hspace := not_isNumberSpace_of_isDigit hc
  have hminus : c ≠ '-' := ne_of_apply_ne Char.isDigit (by simp [hc])
  have hplus : c ≠ '+' := ne_of_apply_ne Char.isDigit (by simp [hc])
  have htake : (c :: cs).takeWhile Char.isDigit = c :: cs := by
    rw [← List.append_nil (c :: cs), List.takeWhile_append_of_pos h.2]
    rfl
  have hdrop : (c :: cs).dropWhile Char.isDigit = [] := by
    rw [← List.append_nil (c :: cs), List.dropWhile_append_of_pos h.2]
    rfl
  cases minus with
  | false => simp [NumberText.read, hspace, hminus, hplus, htake, hdrop]
  | true =>
    have hsign : isNumberSpace '-' = false := rfl
    simp [NumberText.read, hsign, htake, hdrop]

/-- A number is not null. -/
theorem value_ne_null (t : NumberText) : t.value ≠ .null := by
  unfold NumberText.value
  split
  · exact nofun
  · exact nofun

/-- An integer is read back from its digits. -/
theorem numberValue_toDigits (n : Int64) :
    numberValue (n.toInt < 0) (Nat.toDigits 10 n.toInt.natAbs) = .integer n := by
  have hread := read_isDigits (isDigits_toDigits n.toInt.natAbs) (n.toInt < 0)
  have hinteger : (⟨decide (n.toInt < 0), Nat.toDigits 10 n.toInt.natAbs, none, false, none, []⟩ : NumberText).integer =
      n.toInt := by
    simp only [NumberText.integer, digitsValue_toDigits, decide_eq_true_eq]
    split <;> omega
  have hfits : fitsInt64 n.toInt = true := by
    have hlow := n.le_toInt
    have hhigh := n.toInt_lt
    simp only [fitsInt64, Bool.and_eq_true, decide_eq_true_eq]
    omega
  rw [numberValue, hread, NumberText.value, hinteger, hfits]
  simp [NumberText.isWhole]

/-! ## Reading -/

/-- A number is read with its sign. -/
theorem readConstant_numberTokens (minus : Bool) (digits : List Char) (rest : List Token) :
    readConstant (numberTokens minus digits ++ rest) = .ok (.literal (numberValue minus digits), rest) := by
  cases minus <;> rfl

/-- A constant is read off its tokens. -/
theorem readConstant_tokens {c : Constant} (h : c.Writable) (rest : List Token) :
    readConstant (c.tokens ++ rest) = .ok (c.reread, rest) := by
  cases c with
  | place p => rfl
  | literal v =>
    cases v with
    | null => rfl
    | text s => rfl
    | blob b => rfl
    | integer n =>
      have hread := readConstant_numberTokens (n.toInt < 0) (Nat.toDigits 10 n.toInt.natAbs) rest
      rw [numberValue_toDigits] at hread
      exact hread
    | real x => exact readConstant_numberTokens x.negative (realDigits x) rest

/-- The tokens of a constant begin neither with a closing parenthesis nor with `NOT`. -/
theorem Constant.exists_tokens_cons (c : Constant) :
    ∃ t ts, c.tokens = t :: ts ∧ t ≠ .symbol .close ∧ ∀ s, t ≠ .keyword .not s := by
  have hnumber : ∀ minus digits,
      ∃ t ts, numberTokens minus digits = t :: ts ∧ t ≠ .symbol .close ∧ ∀ s, t ≠ .keyword .not s := by
    intro minus digits
    cases minus
    · exact ⟨.number digits, [], rfl, nofun, fun _ => nofun⟩
    · exact ⟨.symbol .minus, [.number digits], rfl, nofun, fun _ => nofun⟩
  cases c with
  | place p => exact ⟨.place p, [], rfl, nofun, fun _ => nofun⟩
  | literal v =>
    cases v with
    | null => exact ⟨Keyword.token .null, [], rfl, nofun, fun _ => nofun⟩
    | text s => exact ⟨.string s, [], rfl, nofun, fun _ => nofun⟩
    | blob b => exact ⟨.blob b, [], rfl, nofun, fun _ => nofun⟩
    | integer n => exact hnumber _ _
    | real x => exact hnumber _ _

/-- Constants are read off their tokens with commas between them, up to the closing parenthesis. -/
theorem readCommas_tokens {c : Constant} {set : List Constant} (h : ∀ d ∈ c :: set, d.Writable)
    (rest : List Token) {most : Nat} (hmost : set.length < most) :
    readCommas readConstant most (commaTokens ((c :: set).map Constant.tokens) ++ .symbol .close :: rest) =
      .ok ((c :: set).map Constant.reread, .symbol .close :: rest) := by
  have hclose : ∀ ts, Token.symbol .close :: rest ≠ .symbol .comma :: ts := fun _ => nofun
  obtain ⟨ds, hds, hall⟩ := readCommas_each (R := fun c d => c.reread = d) (List.cons_ne_nil c set) hclose
    (fun d hd next _ => ⟨_, readConstant_tokens (h d hd) next, rfl⟩) hmost
  have hreread : (c :: set).map Constant.reread = ds := by
    rw [← List.forall₂_eq_eq_eq, List.forall₂_map_left_iff]
    exact hall
  rw [hds, hreread]

/-- A set is read off its tokens, with the parenthesis that closes it. -/
theorem readSet_tokens {set : List Constant} (h : ∀ c ∈ set, c.Writable) (rest : List Token) :
    readSet (commaTokens (set.map Constant.tokens) ++ .symbol .close :: rest) =
      .ok (set.map Constant.reread, rest) := by
  cases set with
  | nil => rfl
  | cons c set =>
    have hmost := length_le_commaTokens ((c :: set).map Constant.tokens)
    have hbound : set.length < (commaTokens ((c :: set).map Constant.tokens) ++ .symbol .close :: rest).length + 1 := by
      simp only [List.length_map, List.length_append, List.length_cons] at hmost ⊢
      omega
    have hread := readCommas_tokens h rest hbound
    obtain ⟨t, ts, ht, hclose, -⟩ := c.exists_tokens_cons
    rw [readSet]
    · rw [hread]
      rfl
    · intro rest' he
      cases set with
      | nil =>
        simp only [List.map_cons, List.map_nil, commaTokens, ht, List.cons_append, List.cons.injEq] at he
        exact hclose he.1
      | cons d set =>
        simp only [List.map_cons, commaTokens, ht, List.cons_append, List.cons.injEq] at he
        exact hclose he.1

/-- A token that names no column is a constant, where no point comes next. -/
theorem readLeaf_constant {t : Token} {rest : List Token} (ht : t.column? = none) (hrest : NoDot rest) :
    readLeaf (t :: rest) = (readConstant (t :: rest)).map fun r => (.constant r.1, r.2) := by
  rw [readLeaf]
  · simp only [List.head?_cons, Option.bind_some, ht]
  · rintro u rest' ⟨⟩
    exact hrest rfl

/-- A number is an operand, with the minus in front of it. -/
theorem readOperand_numberTokens (minus : Bool) (digits : List Char) {rest : List Token}
    (hrest : NoDot rest) (fuel : Nat) :
    readOperand (fuel + 1) (numberTokens minus digits ++ rest) =
      .ok (.constant (.literal (numberValue minus digits)), rest) := by
  cases minus with
  | true => rfl
  | false =>
    have hleaf : readOperand (fuel + 1) (.number digits :: rest) = readLeaf (.number digits :: rest) := rfl
    have hread := readLeaf_constant (t := .number digits) rfl hrest
    exact hleaf.trans hread

/-- A constant is an operand. -/
theorem ReadsOperand.constant {c : Constant} {rest : List Token} (h : c.Writable) (hrest : NoDot rest) :
    ReadsOperand (c.tokens ++ rest) (.constant c.reread) rest := by
  obtain ⟨t, ts, ht, -⟩ := c.exists_tokens_cons
  refine ⟨by rw [ht, List.length_append, List.length_cons]; omega, ?_⟩
  intro fuel hfuel
  simp only [List.length_append, ht, List.length_cons] at hfuel
  obtain ⟨fuel, rfl⟩ : ∃ n, fuel = n + 1 := ⟨fuel - 1, by omega⟩
  have hsingle : ∀ t, c.tokens = [t] → t.column? = none → readOperand (fuel + 1) (t :: rest) = readLeaf (t :: rest) →
      readOperand (fuel + 1) (c.tokens ++ rest) = .ok (.constant c.reread, rest) := by
    intro t ht hcolumn hleaf
    have hread := readConstant_tokens h rest
    rw [ht, List.singleton_append] at hread ⊢
    rw [hleaf, readLeaf_constant hcolumn hrest, hread]
    rfl
  cases c with
  | place p => exact hsingle _ rfl rfl rfl
  | literal v =>
    cases v with
    | null => exact hsingle _ rfl rfl rfl
    | text s => exact hsingle _ rfl rfl rfl
    | blob b => exact hsingle _ rfl rfl rfl
    | integer n =>
      have hread := readOperand_numberTokens (n.toInt < 0) (Nat.toDigits 10 n.toInt.natAbs) hrest fuel
      rw [numberValue_toDigits] at hread
      exact hread
    | real x => exact readOperand_numberTokens x.negative (realDigits x) hrest fuel

end Sql

end SqlMapper
