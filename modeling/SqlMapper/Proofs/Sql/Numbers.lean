import SqlMapper.Compiler.Compile
import SqlMapper.Proofs.Sql.Lexing

/-!
# Numbers in written text

The digits that integers and reals are written with are one token. What the token consists of is said once
(`IsNumberText`), so that reading it does not depend on how the digits were come by.
-/

namespace SqlMapper

namespace Sql

/-- Digits, at least one. -/
def IsDigits (cs : List Char) : Prop := cs ≠ [] ∧ ∀ c ∈ cs, c.isDigit = true

/-- A fraction: nothing, or a point and digits. -/
inductive IsFraction : List Char → Prop where
  | none : IsFraction []
  | point {ds : List Char} (h : IsDigits ds) : IsFraction ('.' :: ds)

/-- An exponent: nothing, or its letter, perhaps a minus, and digits. -/
inductive IsExponent : List Char → Prop where
  | none : IsExponent []
  | positive {ds : List Char} (h : IsDigits ds) : IsExponent ('e' :: ds)
  | negative {ds : List Char} (h : IsDigits ds) : IsExponent ('e' :: '-' :: ds)

/-- A number without a sign: digits, a fraction and an exponent. -/
def IsNumberText (cs : List Char) : Prop :=
  ∃ whole fraction exponent, cs = whole ++ fraction ++ exponent ∧ IsDigits whole ∧ IsFraction fraction ∧
    IsExponent exponent

/-! ## Reading the digits -/

/-- Characters at which digits end. -/
def EndsDigits (cs : List Char) : Prop := ∀ c, cs.head? = some c → isDigitOrUnderscore c = false

/-- Digits are taken up to their end. -/
theorem IsDigits.takeWhile {ds rest : List Char} (h : IsDigits ds) (hrest : EndsDigits rest) :
    (ds ++ rest).takeWhile isDigitOrUnderscore = ds :=
  takeWhile_kind _ (fun c hc => by simp [isDigitOrUnderscore, h.2 c hc]) hrest

/-- A separator ends digits. -/
theorem Separated.endsDigits {rest : List Char} (h : Separated rest) : EndsDigits rest :=
  h.head_eq_false _ rfl rfl rfl rfl

theorem IsExponent.endsDigits {exponent rest : List Char} (h : IsExponent exponent) (hrest : Separated rest) :
    EndsDigits (exponent ++ rest) := by
  cases h with
  | none => exact hrest.endsDigits
  | positive _ => rintro c ⟨⟩; rfl
  | negative _ => rintro c ⟨⟩; rfl

theorem IsFraction.endsDigits {fraction exponent rest : List Char} (h : IsFraction fraction) (he : IsExponent exponent)
    (hrest : Separated rest) : EndsDigits (fraction ++ (exponent ++ rest)) := by
  cases h with
  | none => exact he.endsDigits hrest
  | point _ => rintro c ⟨⟩; rfl

/-- The fraction is read off, and nothing behind it. -/
theorem fractionPart_append {fraction exponent rest : List Char} (h : IsFraction fraction) (he : IsExponent exponent)
    (hrest : Separated rest) : fractionPart (fraction ++ (exponent ++ rest)) = fraction := by
  cases h with
  | none =>
    rw [List.nil_append]
    cases he with
    | none =>
      rcases rest with _ | ⟨c, rest⟩
      · rfl
      · rcases hrest with rfl | rfl | rfl | rfl <;> rfl
    | positive _ => rfl
    | negative _ => rfl
  | point hd => rw [List.cons_append, fractionPart, hd.takeWhile (he.endsDigits hrest)]

theorem beginsWith_digits {ds : List Char} (h : IsDigits ds) (rest : List Char) :
    beginsWith Char.isDigit (ds ++ rest) = true := by
  obtain ⟨c, cs, rfl⟩ := List.exists_cons_of_ne_nil h.1
  exact h.2 c List.mem_cons_self

/-- Digits have no sign in front. -/
theorem takeWhile_sign_digits {ds : List Char} (h : IsDigits ds) (rest : List Char) :
    (ds ++ rest).takeWhile (fun c => c == '+' || c == '-') = [] := by
  obtain ⟨c, cs, rfl⟩ := List.exists_cons_of_ne_nil h.1
  have hc := h.2 c List.mem_cons_self
  have hplus : c ≠ '+' := by rintro rfl; cases hc
  have hminus : c ≠ '-' := by rintro rfl; cases hc
  simp [hplus, hminus]

theorem exponentPart_append {exponent rest : List Char} (h : IsExponent exponent) (hrest : Separated rest) :
    exponentPart (exponent ++ rest) = exponent := by
  cases h with
  | none =>
    rcases rest with _ | ⟨c, rest⟩
    · rfl
    · rcases hrest with rfl | rfl | rfl | rfl <;> rfl
  | positive hd =>
    simp [exponentPart, takeWhile_sign_digits hd rest, beginsWith_digits hd rest, hd.takeWhile hrest.endsDigits]
  | @negative ds hd =>
    have hsign : ('-' :: (ds ++ rest)).takeWhile (fun c => c == '+' || c == '-') = ['-'] := by
      rw [List.takeWhile_cons_of_pos rfl, takeWhile_sign_digits hd rest]
    simp [exponentPart, hsign, beginsWith_digits hd rest, hd.takeWhile hrest.endsDigits]

/-- Where there is no underscore, none is out of place. -/
theorem separatesDigits_of_not_mem {cs : List Char} (h : '_' ∉ cs) (afterDigit : Bool) :
    separatesDigits Char.isDigit afterDigit cs = true := by
  induction cs generalizing afterDigit with
  | nil => rfl
  | cons c cs ih =>
    rw [List.mem_cons, not_or] at h
    rw [separatesDigits, if_neg (Ne.symm h.1)]
    exact ih h.2 _

theorem IsDigits.not_mem_underscore {ds : List Char} (h : IsDigits ds) : '_' ∉ ds := by
  intro hu
  exact absurd (h.2 _ hu) (by decide)

/-- A number is written without underscores between its digits. -/
theorem IsNumberText.not_mem_underscore {cs : List Char} (h : IsNumberText cs) : '_' ∉ cs := by
  obtain ⟨whole, fraction, exponent, rfl, hw, hf, he⟩ := h
  have hfraction : '_' ∉ fraction := by
    cases hf with
    | none => simp
    | point hd => simpa using hd.not_mem_underscore
  have hexponent : '_' ∉ exponent := by
    cases he with
    | none => simp
    | positive hd => simpa using hd.not_mem_underscore
    | negative hd => simpa using hd.not_mem_underscore
  simp [hw.not_mem_underscore, hfraction, hexponent]

/-- A number is read up to the separator. -/
theorem decimalLexeme_append {cs rest : List Char} (h : IsNumberText cs) (hrest : Separated rest) :
    decimalLexeme (cs ++ rest) = (some (.number cs), rest) := by
  have hunderscore := h.not_mem_underscore
  obtain ⟨whole, fraction, exponent, rfl, hw, hf, he⟩ := h
  have happend : whole ++ fraction ++ exponent ++ rest = whole ++ (fraction ++ (exponent ++ rest)) := by simp
  have hword : beginsWith isWordChar rest = false := by
    cases rest with
    | nil => rfl
    | cons c rest => exact hrest.not_wordChar c rfl
  have hfilter : (whole ++ fraction ++ exponent).filter (· != '_') = whole ++ fraction ++ exponent := by
    rw [List.filter_eq_self]
    intro c hc
    simp only [bne_iff_ne]
    rintro rfl
    exact hunderscore hc
  have hdrop : (whole ++ (fraction ++ (exponent ++ rest))).drop (whole.length + fraction.length) =
      exponent ++ rest := by
    rw [← List.append_assoc, ← List.length_append, List.drop_left]
  rw [happend, decimalLexeme]
  simp only [hw.takeWhile (hf.endsDigits he hrest), List.drop_left, fractionPart_append hf he hrest, hdrop,
    exponentPart_append he hrest, separatesDigits_of_not_mem hunderscore, hfilter]
  rw [← happend, List.drop_left, hword]
  rfl

/-- A number begins with a digit, and no letter of base sixteen comes second. -/
theorem IsNumberText.exists_digit {cs : List Char} (h : IsNumberText cs) :
    ∃ c tail, cs = c :: tail ∧ c.isDigit = true ∧ ∀ d, tail.head? = some d → d ≠ 'x' ∧ d ≠ 'X' := by
  obtain ⟨whole, fraction, exponent, rfl, hw, hf, he⟩ := h
  obtain ⟨c, ds, rfl⟩ := List.exists_cons_of_ne_nil hw.1
  refine ⟨c, ds ++ fraction ++ exponent, by simp, hw.2 c List.mem_cons_self, ?_⟩
  intro d hd
  have hdigit : ∀ e : Char, e.isDigit = true → e ≠ 'x' ∧ e ≠ 'X' := by
    intro e he
    constructor <;> (rintro rfl; cases he)
  cases ds with
  | cons e ds =>
    obtain rfl := Option.some.inj hd
    exact hdigit _ (hw.2 _ (by simp))
  | nil =>
    cases hf with
    | point _ =>
      obtain rfl := Option.some.inj hd
      decide
    | none =>
      cases he with
      | none => cases hd
      | positive _ =>
        obtain rfl := Option.some.inj hd
        decide
      | negative _ =>
        obtain rfl := Option.some.inj hd
        decide

/-- A number that a separator follows is in base ten. -/
theorem numberLexeme_eq {cs rest : List Char} (h : IsNumberText cs) (hrest : Separated rest) :
    numberLexeme (cs ++ rest) = decimalLexeme (cs ++ rest) := by
  obtain ⟨c, tail, rfl, -, hx⟩ := h.exists_digit
  have hsecond : ∀ d, (tail ++ rest).head? = some d → ¬(d = 'x' ∨ d = 'X') := by
    intro d hd
    cases tail with
    | nil =>
      have hsep := hrest.head_eq_false (fun d => d == 'x' || d == 'X') rfl rfl rfl rfl d hd
      simpa using hsep
    | cons e tail =>
      have he := hx d hd
      simpa using he
  rw [List.cons_append]
  unfold numberLexeme
  split
  · rename_i x d rest' heq
    obtain ⟨rfl, htail⟩ := List.cons.inj heq
    have hd := hsecond x (by rw [htail]; rfl)
    rw [if_neg fun hn => hd hn.1, ← htail]
  · rfl

/-- Digits are no letters, no underscores and within ASCII. -/
theorem not_isWordStart_of_isDigit {c : Char} (h : c.isDigit = true) : isWordStart c = false := by
  have hhigh : c.toNat ≤ 57 := (Char.isDigit_iff_toNat.1 h).2
  have hne : c ≠ '_' := by
    rintro rfl
    exact absurd hhigh (by decide)
  have hascii : ¬128 ≤ c.toNat := by omega
  have hupper : ¬ 'A'.val ≤ c.val := Nat.not_le.2 (Nat.lt_of_le_of_lt hhigh (by decide))
  have hlower : ¬ 'a'.val ≤ c.val := Nat.not_le.2 (Nat.lt_of_le_of_lt hhigh (by decide))
  have halpha : c.isAlpha = false := by
    change (decide ('A'.val ≤ c.val ∧ c.val ≤ 'Z'.val) ||
      (decide ('a'.val ≤ c.val) && decide (c.val ≤ 'z'.val))) = false
    simp only [hupper, hlower, false_and, decide_false, Bool.false_and, Bool.or_self]
  simp only [isWordStart, halpha, hascii, decide_false, Bool.false_or, Bool.or_false, beq_eq_false_iff_ne]
  exact hne

/-- A number is one token. -/
theorem lexeme_number {c : Char} {tail rest : List Char} (h : IsNumberText (c :: tail)) (hrest : Separated rest) :
    lexeme c (tail ++ rest) = (some (.number (c :: tail)), rest) := by
  obtain ⟨d, tail', heq, hc, -⟩ := h.exists_digit
  obtain ⟨rfl, rfl⟩ := List.cons.inj heq
  have hnumber : lexeme c (tail ++ rest) = numberLexeme (c :: (tail ++ rest)) := by
    have hne : ∀ d, Char.isDigit d = false → c ≠ d := fun d hd => ne_of_apply_ne Char.isDigit (by simp [hc, hd])
    have hspace : isTokenSpace c = false := (Bool.or_eq_false_iff.1 (not_isSpacing_of_kind hc rfl)).1
    simp [lexeme, hspace, hne '"' rfl, hne '\'' rfl, hne '\x60' rfl, hne '[' rfl, hne 'x' rfl, hne 'X' rfl,
      hne '\ufeff' rfl, not_isWordStart_of_isDigit hc, hc]
  rw [hnumber, ← List.cons_append, numberLexeme_eq h hrest, decimalLexeme_append h hrest]

namespace Lexed

/-- The text of a number is one token. -/
theorem number {cs : List Char} (h : IsNumberText cs) : Lexed cs [.number cs] := by
  obtain ⟨c, tail, rfl, hc, -⟩ := h.exists_digit
  exact of_lexeme (not_isSpacing_of_kind hc rfl) fun rest hrest => lexeme_number h hrest

/-- A minus in front of a number is a token of its own. -/
theorem negative {cs : List Char} (h : IsNumberText cs) : Lexed ('-' :: cs) [.symbol .minus, .number cs] where
  start := ⟨'-', cs, rfl, rfl⟩
  tokens rest hrest := by
    have hnumber := (number h).tokens rest hrest
    obtain ⟨c, tail, rfl, hc, -⟩ := h.exists_digit
    have hminus : lexeme '-' (c :: (tail ++ rest)) = (some (.symbol .minus), c :: (tail ++ rest)) := by
      have hsymbol : lexeme '-' (c :: (tail ++ rest)) = symbolLexeme '-' (c :: (tail ++ rest)) := by
        have hne : c ≠ '-' := ne_of_apply_ne Char.isDigit (by simp [hc])
        simp [lexeme, hne, isTokenSpace, isWordStart]
      rw [hsymbol]
      rfl
    rw [List.cons_append, List.cons_append, tokensFrom_cons hminus (Nat.le_refl _), ← List.cons_append, hnumber]
    rfl

/-- A number with its sign. -/
theorem signed {cs : List Char} (h : IsNumberText cs) (minus : Bool) :
    Lexed (if minus then '-' :: cs else cs) (numberTokens minus cs) := by
  cases minus with
  | true => exact negative h
  | false => exact number h

end Lexed

/-! ## Integers and reals -/

/-- A natural number is written in digits. -/
theorem isDigits_toDigits (n : Nat) : IsDigits (Nat.toDigits 10 n) :=
  ⟨Nat.toDigits_ne_nil, fun _ hc => Nat.isDigit_of_mem_toDigits (by decide) (by decide) hc⟩

theorem isDigits_zero : IsDigits ['0'] := ⟨by simp, List.forall_mem_singleton.2 rfl⟩

/-- Digits alone are a number. -/
theorem IsDigits.isNumberText {ds : List Char} (h : IsDigits ds) : IsNumberText ds :=
  ⟨ds, [], [], by simp, h, .none, .none⟩

/-- Digits around a point are a number. -/
theorem IsDigits.point {ds es : List Char} (h : IsDigits ds) (h' : IsDigits es) : IsNumberText (ds ++ '.' :: es) :=
  ⟨ds, '.' :: es, [], by simp, h, .point h', .none⟩

/-- Digits after zeros. -/
theorem IsDigits.zeros_append {ds : List Char} (h : IsDigits ds) (n : Nat) : IsDigits (List.replicate n '0' ++ ds) := by
  refine ⟨by simp [h.1], ?_⟩
  intro c hc
  rcases List.mem_append.1 hc with hc | hc
  · rw [List.eq_of_mem_replicate hc]
    rfl
  · exact h.2 c hc

/-- Digits before zeros. -/
theorem IsDigits.append_zeros {ds : List Char} (h : IsDigits ds) (n : Nat) : IsDigits (ds ++ List.replicate n '0') := by
  refine ⟨by simp [h.1], ?_⟩
  intro c hc
  rcases List.mem_append.1 hc with hc | hc
  · exact h.2 c hc
  · rw [List.eq_of_mem_replicate hc]
    rfl

/-- A real in positional notation is the text of a number. -/
theorem isNumberText_positional (d : Decade) : IsNumberText (d.positional true) := by
  have hds := isDigits_toDigits d.digits
  unfold Decade.positional
  dsimp only
  split
  · exact (hds.append_zeros _).point isDigits_zero
  · split
    · exact isDigits_zero.point (hds.zeros_append _)
    · rename_i hpower hplaces
      refine IsDigits.point ⟨?_, fun c hc => hds.2 c (List.mem_of_mem_take hc)⟩
        ⟨?_, fun c hc => hds.2 c (List.mem_of_mem_drop hc)⟩
      · intro he
        have hlen := congrArg List.length he
        simp at hlen
        omega
      · intro he
        have hlen := congrArg List.length he
        simp at hlen
        omega

/-- The sign and the digits of an exponent. -/
theorem isExponent_int (n : Int) : IsExponent ('e' :: (toString n).toList) := by
  cases n with
  | ofNat m =>
    have htext : (toString (Int.ofNat m)).toList = Nat.toDigits 10 m := by simp [toString, Int.repr]
    rw [htext]
    exact .positive (isDigits_toDigits m)
  | negSucc m =>
    have htext : (toString (Int.negSucc m)).toList = '-' :: Nat.toDigits 10 (m + 1) := by simp [toString, Int.repr]
    rw [htext]
    exact .negative (isDigits_toDigits (m + 1))

theorem isNumberText_scientific (d : Decade) : IsNumberText d.scientific := by
  have hds := isDigits_toDigits d.digits
  unfold Decade.scientific
  generalize Nat.toDigits 10 d.digits = ds at hds
  have hone : IsDigits (ds.take 1) := by
    refine ⟨?_, fun c hc => hds.2 c (List.mem_of_mem_take hc)⟩
    obtain ⟨c, cs, rfl⟩ := List.exists_cons_of_ne_nil hds.1
    simp
  refine ⟨ds.take 1, if ds.length ≤ 1 then [] else '.' :: ds.drop 1, _, rfl, hone, ?_, isExponent_int _⟩
  split
  · exact .none
  · rename_i hlen
    refine .point ⟨?_, fun c hc => hds.2 c (List.mem_of_mem_drop hc)⟩
    intro he
    have hlen' := congrArg List.length he
    simp at hlen'
    omega

/-- Whatever the layout of a literal, it is a number. -/
theorem isNumberText_magnitude (bits : Nat) : IsNumberText (RealLayout.literal.magnitude bits) := by
  unfold RealLayout.magnitude RealLayout.literal
  dsimp only
  split
  · exact isNumberText_positional _
  · exact isNumberText_scientific _

/-- The text of an integer is one token, or a minus and one token. -/
theorem Lexed.integer (n : Int) : Lexed (toString n).toList (numberTokens (n < 0) (Nat.toDigits 10 n.natAbs)) := by
  have hlexed := signed (isDigits_toDigits n.natAbs).isNumberText (n < 0)
  have htext : (toString n).toList = if n < 0 then '-' :: Nat.toDigits 10 n.natAbs else Nat.toDigits 10 n.natAbs := by
    cases n with
    | ofNat m => simp [toString, Int.repr]
    | negSucc m => simp [toString, Int.repr]
  rw [htext]
  simpa using hlexed

/-- The text of a literal of a stored value is one token, or a minus and one token; a real has to be finite. -/
theorem Lexed.literal {v : Native} (h : v.checkLiteral = .ok v) : Lexed (literalText v).toList (literalTokens v) := by
  cases v with
  | null => exact .keyword .null
  | integer n => exact .integer n.toInt
  | real x =>
    have hfinite : x.isFinite = true := by
      unfold Native.checkLiteral at h
      dsimp only at h
      split at h
      · assumption
      · cases h
    have hlow : x.magnitude < Format.double.infinity := by simpa [Binary64.isFinite] using hfinite
    have hnan : x.isNaN = false := by simp [Binary64.isNaN, Nat.le_of_lt hlow]
    have hinfinite : x.isInfinite = false := by simp [Binary64.isInfinite, Nat.ne_of_lt hlow]
    have hnumber : IsNumberText (if x.isZero then ['0', '.', '0'] else RealLayout.literal.magnitude x.magnitude) := by
      split
      · exact isDigits_zero.point isDigits_zero
      · exact isNumberText_magnitude _
    have hlexed := signed hnumber x.negative
    have htext : (literalText (.real x)).toList =
        if x.negative then '-' :: (if x.isZero then ['0', '.', '0'] else RealLayout.literal.magnitude x.magnitude)
        else if x.isZero then ['0', '.', '0'] else RealLayout.literal.magnitude x.magnitude := by
      simp [literalText, Binary64.literal, RealLayout.write, hnan, hinfinite, RealLayout.literal]
    rw [htext]
    exact hlexed
  | text s => exact .string s
  | blob b =>
    have hblob := Lexed.blob b
    simpa [literalText, literalTokens] using hblob

end Sql

end SqlMapper
