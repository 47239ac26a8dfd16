import SqlMapper.Proofs.Time.Rfc3339
import SqlMapper.Value.Coercion

/-!
# Scalars read back from the store

What is stored for a scalar is read as the scalar, whichever way date-times are stored: reading takes both forms of
them, and of a date-time stored as ticks it keeps the instant and loses the offset. Which scalars cannot be stored
at all is said by `Scalar.Unstorable`.
-/

namespace SqlMapper

/-! ## UUIDs -/

/-- A character that is no hexadecimal digit spoils a text of digits. -/
theorem Hex.read?_eq_none {c : Char} (hc : Hex.digit? c = none) {cs : List Char} (h : c ∈ cs) :
    Hex.read? cs = none := by
  induction cs using Hex.read?.induct with
  | case1 => cases h
  | case2 d => rfl
  | case3 d d' rest ih =>
    simp only [List.mem_cons] at h
    rw [Hex.read?]
    rcases h with rfl | rfl | h
    · rw [hc]
      rfl
    · rw [hc]
      cases Hex.digit? d <;> rfl
    · rw [ih h]
      cases Hex.digit? d <;> cases Hex.digit? d' <;> rfl

/-- Hexadecimal digits have no hyphen among them. -/
theorem Hex.not_mem_lower {c : Char} (hc : Hex.digit? c = none) (bytes : List UInt8) : c ∉ Hex.lower bytes := by
  intro hmem
  have hread := Hex.read?_lower bytes
  rw [Hex.read?_eq_none hc hmem] at hread
  cases hread

theorem Hex.length_lower (bytes : List UInt8) : (Hex.lower bytes).length = 2 * bytes.length := by
  induction bytes with
  | nil => rfl
  | cons b bytes ih =>
    have hcons : Hex.lower (b :: bytes) =
        Hex.lowerDigit (b.toNat / 16) :: Hex.lowerDigit (b.toNat % 16) :: Hex.lower bytes := rfl
    rw [hcons, List.length_cons, List.length_cons, ih, List.length_cons]
    omega

/-- Without its hyphens a hyphenated text is the digits. -/
theorem Uuid.filter_hyphenate {ds : List Char} (h : '-' ∉ ds) :
    (Uuid.hyphenate ds).filter (fun c => c != '-') = ds := by
  have hkeep : ∀ {es : List Char}, (∀ c ∈ es, c ∈ ds) → es.filter (fun c => c != '-') = es := by
    intro es hes
    refine List.filter_eq_self.2 fun c hc => ?_
    rw [bne_iff_ne]
    rintro rfl
    exact h (hes _ hc)
  have htake : ∀ m n, (((ds.drop m).take n).filter fun c => c != '-') = (ds.drop m).take n := fun m n =>
    hkeep fun c hc => List.mem_of_mem_drop (List.mem_of_mem_take hc)
  have hhyphen : ('-' != '-') = false := rfl
  rw [Uuid.hyphenate]
  simp only [List.filter_append, List.filter_cons, hhyphen, htake, hkeep fun c hc => List.mem_of_mem_take hc,
    hkeep fun c hc => List.mem_of_mem_drop hc, Bool.false_eq_true, if_false]
  have hjoin : ∀ m, (ds.drop m).take 4 ++ ds.drop (m + 4) = ds.drop m := fun m => by
    rw [← List.drop_drop, List.take_append_drop]
  simp only [List.append_assoc, hjoin 16, hjoin 12, hjoin 8, List.take_append_drop]

/-- A UUID is read back from its text. -/
theorem Uuid.read?_write (u : Uuid) : Uuid.read? u.write = some u := by
  have hplain : Uuid.readPlain? (Uuid.hyphenate (Hex.lower u.bytes)) = none := by
    have hmem : '-' ∈ Uuid.hyphenate (Hex.lower u.bytes) := by simp [Uuid.hyphenate]
    rw [Uuid.readPlain?, Hex.read?_eq_none rfl hmem]
    rfl
  have hfilter := Uuid.filter_hyphenate (Hex.not_mem_lower rfl u.bytes)
  have hlength : (Hex.lower u.bytes).length = 32 := by rw [Hex.length_lower, u.length_eq]
  have hdigits : Uuid.readPlain? (Hex.lower u.bytes) = some u := by
    simp only [Uuid.readPlain?, Hex.read?_lower, Option.bind_eq_bind, Option.bind_some, Uuid.ofBytes?,
      u.length_eq, dite_true]
  have hhyphenated : Uuid.readHyphenated? (Uuid.hyphenate (Hex.lower u.bytes)) = some u := by
    simp only [Uuid.readHyphenated?, hfilter, hlength, true_and, if_true, hdigits]
  simp only [Uuid.read?, Uuid.write, String.toList_ofList, hplain, hhyphenated]

/-! ## What is stored, and what is not -/

/-- An integer is a 64-bit one when it is in range, and none otherwise. -/
theorem int64?_cases (n : Int) :
    (∃ m : Int64, int64? n = some m ∧ m.toInt = n) ∨ int64? n = none ∧ ¬ IntegerKind.i64.Contains n := by
  unfold int64?
  by_cases h : IntegerKind.i64.Contains n
  · refine Or.inl ⟨.ofInt n, if_pos h, ?_⟩
    have hlow : -2 ^ 63 ≤ n := h.1
    have hhigh : n ≤ 2 ^ 63 - 1 := h.2
    exact Int64.toInt_ofInt_of_le hlow (by omega)
  · exact Or.inr ⟨if_neg h, h⟩

theorem contains_toInt (m : Int64) : IntegerKind.i64.Contains m.toInt := by
  have hlow := m.le_toInt
  have hhigh := m.toInt_lt
  exact ⟨hlow, Int.le_sub_one_of_lt hhigh⟩

/-- Scalars that cannot be stored: unsigned integers, spans and instants beyond 64 bits, and date-times without a
text. -/
inductive Scalar.Unstorable (options : Coercion) : Scalar → Prop where
  | unsigned {n : Int} {h : IntegerKind.u64.Contains n} (hn : 2 ^ 63 - 1 < n) : Unstorable options (.integer .u64 n h)
  | span {s : Span} (h : ¬ IntegerKind.i64.Contains s.nanos) : Unstorable options (.timeSpan s)
  | ticks {t : DateTime} (ho : options.dateTimeAsTicks = true) (h : ¬ IntegerKind.i64.Contains t.nanos) :
    Unstorable options (.dateTime t)
  | text {t : DateTime} (ho : options.dateTimeAsTicks = false) (h : ¬ t.Writable) : Unstorable options (.dateTime t)

/-- An integer of a kind is beyond 64 bits only if it is unsigned and too large. -/
theorem not_contains_i64_iff {k : IntegerKind} {n : Int} (h : k.Contains n) :
    ¬ IntegerKind.i64.Contains n ↔ k = .u64 ∧ 2 ^ 63 - 1 < n := by
  have hlow : k.low ≤ n := h.1
  have hhigh : n ≤ k.high := h.2
  simp only [IntegerKind.Contains]
  cases k <;> simp only [IntegerKind.low, IntegerKind.high, reduceCtorEq, false_and, true_and, iff_false,
    Decidable.not_not] at * <;>
    omega

/-- An integer is stored as it is, or beyond 64 bits. -/
theorem toNative_integer (options : Coercion) {k : IntegerKind} {n : Int} (h : k.Contains n) :
    (∃ m : Int64, m.toInt = n ∧ (Scalar.integer k n h).toNative options = .ok (.integer m)) ∨
      (∃ e, (Scalar.integer k n h).toNative options = .error e) ∧ ¬ IntegerKind.i64.Contains n := by
  rcases int64?_cases n with ⟨m, hm, hn⟩ | ⟨hm, hno⟩
  · exact Or.inl ⟨m, hn, by simp only [Scalar.toNative, hm]⟩
  · exact Or.inr ⟨⟨.unsignedTooLarge n, by simp only [Scalar.toNative, hm]⟩, hno⟩

/-- So is a span. -/
theorem toNative_span (options : Coercion) (s : Span) :
    (∃ m : Int64, m.toInt = s.nanos ∧ (Scalar.timeSpan s).toNative options = .ok (.integer m)) ∨
      (∃ e, (Scalar.timeSpan s).toNative options = .error e) ∧ ¬ IntegerKind.i64.Contains s.nanos := by
  rcases int64?_cases s.nanos with ⟨m, hm, hn⟩ | ⟨hm, hno⟩
  · exact Or.inl ⟨m, hn, by simp only [Scalar.toNative, hm]⟩
  · exact Or.inr ⟨⟨.spanOutOfTicks s, by simp only [Scalar.toNative, hm]⟩, hno⟩

/-- So is the instant of a date-time, where date-times are stored as ticks. -/
theorem toNative_ticks {options : Coercion} (ho : options.dateTimeAsTicks = true) (t : DateTime) :
    (∃ m : Int64, m.toInt = t.nanos ∧ (Scalar.dateTime t).toNative options = .ok (.integer m)) ∨
      (∃ e, (Scalar.dateTime t).toNative options = .error e) ∧ ¬ IntegerKind.i64.Contains t.nanos := by
  rcases int64?_cases t.nanos with ⟨m, hm, hn⟩ | ⟨hm, hno⟩
  · exact Or.inl ⟨m, hn, by simp only [Scalar.toNative, DateTime.toNative, ho, hm, if_true]⟩
  · exact Or.inr ⟨⟨.dateTimeOutOfTicks t, by simp only [Scalar.toNative, DateTime.toNative, ho, hm, if_true]⟩, hno⟩

/-- Where they are stored as text, a date-time is stored as its text if it has one. -/
theorem toNative_text {options : Coercion} (ho : options.dateTimeAsTicks = false) (t : DateTime) :
    (∃ s, t.rfc3339? = some s ∧ (Scalar.dateTime t).toNative options = .ok (.text s)) ∨
      (∃ e, (Scalar.dateTime t).toNative options = .error e) ∧ ¬ t.Writable := by
  cases hs : t.rfc3339? with
  | some s =>
    exact Or.inl ⟨s, rfl, by simp only [Scalar.toNative, DateTime.toNative, ho, hs, Bool.false_eq_true, if_false]⟩
  | none =>
    refine Or.inr ⟨⟨.dateTimeNotWritable t, ?_⟩, (DateTime.rfc3339?_eq_none_iff t).1 hs⟩
    simp only [Scalar.toNative, DateTime.toNative, ho, hs, Bool.false_eq_true, if_false]

/-- What is stored as an integer or not at all is stored as an integer if it is stored. -/
theorem exists_integer {stored : Except CoercionError Native} {P : Int64 → Prop} {Q : Prop}
    (h : (∃ m, P m ∧ stored = .ok (.integer m)) ∨ (∃ e, stored = .error e) ∧ Q) {n : Native} (hn : stored = .ok n) :
    ∃ m, P m ∧ n = .integer m := by
  rcases h with ⟨m, hm, hok⟩ | ⟨⟨e, he⟩, -⟩
  · exact ⟨m, hm, Except.ok.inj (hn.symm.trans hok)⟩
  · cases hn.symm.trans he

theorem exists_text {options : Coercion} {t : DateTime} (ho : options.dateTimeAsTicks = false) {n : Native}
    (hn : (Scalar.dateTime t).toNative options = .ok n) : ∃ s, t.rfc3339? = some s ∧ n = .text s := by
  rcases toNative_text ho t with ⟨s, hs, hok⟩ | ⟨⟨e, he⟩, -⟩
  · exact ⟨s, hs, Except.ok.inj (hn.symm.trans hok)⟩
  · cases hn.symm.trans he

/-- Storing fails for the scalars that cannot be stored, and for no others. -/
theorem toNative_error_iff (options : Coercion) (v : Scalar) :
    (∃ e, v.toNative options = .error e) ↔ v.Unstorable options := by
  have hdone : ∀ {n}, v.toNative options = .ok n → ¬ ∃ e, v.toNative options = .error e := by
    rintro n hn ⟨e, he⟩
    rw [hn] at he
    cases he
  constructor
  · intro hfail
    cases v with
    | integer k n h =>
      rcases toNative_integer options h with ⟨m, -, hm⟩ | ⟨-, hno⟩
      · exact absurd hfail (hdone hm)
      · obtain ⟨rfl, hn⟩ := (not_contains_i64_iff h).1 hno
        exact .unsigned hn
    | timeSpan s =>
      rcases toNative_span options s with ⟨m, -, hm⟩ | ⟨-, hno⟩
      · exact absurd hfail (hdone hm)
      · exact .span hno
    | dateTime t =>
      cases ho : options.dateTimeAsTicks with
      | true =>
        rcases toNative_ticks ho t with ⟨m, -, hm⟩ | ⟨-, hno⟩
        · exact absurd hfail (hdone hm)
        · exact .ticks ho hno
      | false =>
        rcases toNative_text ho t with ⟨s, -, hs⟩ | ⟨-, hno⟩
        · exact absurd hfail (hdone hs)
        · exact .text ho hno
    | _ => exact absurd hfail (hdone rfl)
  · intro h
    cases h with
    | @unsigned n h hn =>
      rcases toNative_integer options h with ⟨m, rfl, -⟩ | ⟨hfail, -⟩
      · have hm := m.toInt_lt
        omega
      · exact hfail
    | @span s hno =>
      rcases toNative_span options s with ⟨m, hm, -⟩ | ⟨hfail, -⟩
      · exact absurd (hm ▸ contains_toInt m) hno
      · exact hfail
    | @ticks t ho hno =>
      rcases toNative_ticks ho t with ⟨m, hm, -⟩ | ⟨hfail, -⟩
      · exact absurd (hm ▸ contains_toInt m) hno
      · exact hfail
    | @text t ho hno =>
      rcases toNative_text ho t with ⟨s, hs, -⟩ | ⟨hfail, -⟩
      · rw [(DateTime.rfc3339?_eq_none_iff t).2 hno] at hs
        cases hs
      · exact hfail

/-! ## Reading back -/

/-- The same value: equal in all its data, or date-times of the same instant. -/
inductive Scalar.Same : Scalar → Scalar → Prop where
  | refl (v : Scalar) : Same v v
  | instant {s t : DateTime} (h : s.nanos = t.nanos) : Same (.dateTime s) (.dateTime t)

/-- A stored integer is read as an integer of a kind exactly when it is in range, and then as itself. -/
theorem toScalar_integer (k : IntegerKind) (m : Int64) :
    (∃ h : k.Contains m.toInt, (Native.integer m).toScalar (.integer k) = .ok (.integer k m.toInt h)) ∨
      (∃ e, (Native.integer m).toScalar (.integer k) = .error e) ∧ ¬ k.Contains m.toInt := by
  have hwidth : (Native.integer m).toScalar (.integer k) = (Native.integer m).readWidth k := rfl
  rw [hwidth]
  simp only [Native.readWidth, Native.readInteger, bind, Except.bind]
  by_cases h : k.Contains m.toInt
  · have hread : Scalar.integer? k m.toInt = some (.integer k m.toInt h) := dif_pos h
    exact Or.inl ⟨h, by rw [hread]⟩
  · have hread : Scalar.integer? k m.toInt = none := dif_neg h
    exact Or.inr ⟨⟨_, by rw [hread]⟩, h⟩

/-- A date-time is read as the same instant, whichever way it is stored. -/
theorem toScalar_dateTime {options : Coercion} {t : DateTime} {n : Native}
    (h : (Scalar.dateTime t).toNative options = .ok n) :
    ∃ w, n.toScalar .dateTime = .ok w ∧ (Scalar.dateTime t).Same w := by
  cases ho : options.dateTimeAsTicks with
  | true =>
    obtain ⟨m, hm, rfl⟩ := exists_integer (toNative_ticks ho t) h
    exact ⟨_, rfl, .instant hm.symm⟩
  | false =>
    obtain ⟨s, hs, rfl⟩ := exists_text ho h
    refine ⟨.dateTime t, ?_, .refl _⟩
    simp only [Native.toScalar, Native.isNull, DateTime.ofRfc3339?_rfc3339? hs]
    rfl

/-- What is stored for a scalar is read as the same value. -/
theorem toScalar_toNative {options : Coercion} {v : Scalar} {kind : Kind} {n : Native} (hk : v.kind? = some kind)
    (h32 : kind ≠ .f32) (hdecimal : kind ≠ .decimal) (hurl : ∀ u, v = .url u → Url.read? u.text = some u)
    (h : v.toNative options = .ok n) : ∃ w, n.toScalar kind = .ok w ∧ v.Same w := by
  have hsame : ∀ {n'}, v.toNative options = .ok n' → n = n' := by
    intro n' hn
    rw [h] at hn
    exact Except.ok.inj hn
  cases v with
  | null => cases hk
  | bool b =>
    obtain rfl := Option.some.inj hk
    obtain rfl := hsame rfl
    refine ⟨.bool b, ?_, .refl _⟩
    cases b <;> rfl
  | integer k m hm =>
    obtain rfl := Option.some.inj hk
    obtain ⟨m', rfl, rfl⟩ := exists_integer (toNative_integer options hm) h
    rcases toScalar_integer k m' with ⟨hc, hread⟩ | ⟨-, hno⟩
    · exact ⟨_, hread, .refl _⟩
    · exact absurd hm hno
  | f32 x => exact absurd (Option.some.inj hk).symm h32
  | decimal d => exact absurd (Option.some.inj hk).symm hdecimal
  | f64 x =>
    obtain rfl := Option.some.inj hk
    obtain rfl := hsame rfl
    exact ⟨_, rfl, .refl _⟩
  | text s =>
    obtain rfl := Option.some.inj hk
    obtain rfl := hsame rfl
    exact ⟨_, rfl, .refl _⟩
  | bytes b =>
    obtain rfl := Option.some.inj hk
    obtain rfl := hsame rfl
    exact ⟨_, rfl, .refl _⟩
  | dateTime t =>
    obtain rfl := Option.some.inj hk
    exact toScalar_dateTime h
  | timeSpan s =>
    obtain rfl := Option.some.inj hk
    obtain ⟨m, hm, rfl⟩ := exists_integer (toNative_span options s) h
    refine ⟨.timeSpan ⟨m.toInt⟩, rfl, ?_⟩
    rw [hm]
    exact .refl _
  | uuid u =>
    obtain rfl := Option.some.inj hk
    obtain rfl := hsame rfl
    refine ⟨.uuid u, ?_, .refl _⟩
    simp only [Native.toScalar, Native.isNull, Uuid.read?_write]
    rfl
  | url u =>
    obtain rfl := Option.some.inj hk
    obtain rfl := hsame rfl
    refine ⟨.url u, ?_, .refl _⟩
    simp only [Native.toScalar, Native.isNull, hurl u rfl]
    rfl

/-- Values survive the store. A scalar that is stored, floats of 32 bits and decimals apart, is read back as the
same value, and it does not matter how date-times are stored now, since reading takes both their forms; the text of
a URL is assumed to be read as that URL. Storing fails for exactly the scalars of `Scalar.Unstorable`. Null is
stored as null and read as null of every kind. A stored integer is read as an integer of a kind exactly when it is
in its range, and is stored as itself again. -/
theorem coercion_round_trips :
    (∀ (written : Coercion) (v : Scalar) (kind : Kind) (n : Native), v.kind? = some kind → kind ≠ .f32 →
        kind ≠ .decimal → (∀ u, v = .url u → Url.read? u.text = some u) → v.toNative written = .ok n →
        ∃ w, n.toScalar kind = .ok w ∧ v.Same w) ∧
      (∀ (options : Coercion) (v : Scalar), (∃ e, v.toNative options = .error e) ↔ v.Unstorable options) ∧
      (∀ (options : Coercion) (kind : Kind), Scalar.null.toNative options = .ok .null ∧
        Native.null.toScalar kind = .ok .null) ∧
      ∀ (k : IntegerKind) (m : Int64),
        ((∃ w, (Native.integer m).toScalar (.integer k) = .ok w) ↔ k.Contains m.toInt) ∧
          ∀ (options : Coercion) (w : Scalar), (Native.integer m).toScalar (.integer k) = .ok w →
            w.toNative options = .ok (.integer m) := by
  refine ⟨fun written v kind n hk h32 hdecimal hurl h => toScalar_toNative hk h32 hdecimal hurl h, toNative_error_iff,
    fun options kind => ⟨rfl, rfl⟩, ?_⟩
  intro k m
  rcases toScalar_integer k m with ⟨hc, hread⟩ | ⟨⟨e, hfail⟩, hno⟩
  · refine ⟨⟨fun _ => hc, fun _ => ⟨_, hread⟩⟩, ?_⟩
    intro options w hw
    rw [hread] at hw
    obtain rfl := Except.ok.inj hw
    rcases toNative_integer options hc with ⟨m', hm', hstored⟩ | ⟨-, hno⟩
    · rw [hstored, Int64.toInt_inj.1 hm']
    · exact absurd (contains_toInt m) hno
  · refine ⟨⟨?_, fun hc => absurd hc hno⟩, ?_⟩
    · rintro ⟨w, hw⟩
      rw [hfail] at hw
      cases hw
    · intro options w hw
      rw [hfail] at hw
      cases hw

end SqlMapper
