import SqlMapper.Proofs.Time.Order
import SqlMapper.Proofs.Value.RoundTrip

/-!
# The order of values

Values of the kinds that are stored exactly have an order of their own (`Scalar.order`), and their stored forms are
in that order (`Scalar.KeepsOrder.compare_eq`). Only date-times as text may be out of order: at different offsets,
and within one second of UTC where one text is cut short.
-/

namespace SqlMapper

/-! ## Bytes as digits -/

theorem Hex.compare_lowerDigit {m n : Nat} (hm : m < 16) (hn : n < 16) :
    compare (Hex.lowerDigit m) (Hex.lowerDigit n) = compare m n := by
  have hall : ∀ m < 16, ∀ n < 16, compare (Hex.lowerDigit m) (Hex.lowerDigit n) = compare m n := by decide
  exact hall m hm n hn

/-- Bytes are in the order of their digits. -/
theorem Hex.compare_lower {as bs : List UInt8} (h : as.length = bs.length) :
    compare (Hex.lower as) (Hex.lower bs) = compare as bs := by
  induction as generalizing bs with
  | nil =>
    obtain rfl := List.length_eq_zero_iff.1 h.symm
    rfl
  | cons a as ih =>
    cases bs with
    | nil => cases h
    | cons b bs =>
      have hcons : ∀ (a : UInt8) (as : List UInt8), Hex.lower (a :: as) =
          Hex.lowerDigit (a.toNat / 16) :: Hex.lowerDigit (a.toNat % 16) :: Hex.lower as := fun _ _ => rfl
      have ha := a.toNat_lt
      have hb := b.toNat_lt
      rw [hcons, hcons, List.compare_cons_cons, List.compare_cons_cons, List.compare_cons_cons, ih (Nat.succ.inj h),
        Hex.compare_lowerDigit (by omega) (by omega), Hex.compare_lowerDigit (by omega) (by omega),
        ← Ordering.then_assoc, ← compare_divMod_nat (by decide), UInt8.compare_eq_toNat_compare_toNat]

/-- Hyphens at the same places count for nothing. -/
theorem Uuid.compare_hyphenate {as bs : List Char} (ha : as.length = 32) (hb : bs.length = 32) :
    compare (Uuid.hyphenate as) (Uuid.hyphenate bs) = compare as bs := by
  have hsplit : ∀ cs : List Char, cs =
      cs.take 8 ++ ((cs.drop 8).take 4 ++ ((cs.drop 12).take 4 ++ ((cs.drop 16).take 4 ++ cs.drop 20))) := by
    intro cs
    have hjoin : ∀ m, (cs.drop m).take 4 ++ cs.drop (m + 4) = cs.drop m := fun m => by
      rw [← List.drop_drop, List.take_append_drop]
    rw [hjoin 16, hjoin 12, hjoin 8, List.take_append_drop]
  have htake : ∀ m n, ((as.drop m).take n).length = ((bs.drop m).take n).length := by
    intro m n
    simp [ha, hb]
  have hfirst := htake 0 8
  rw [List.drop_zero, List.drop_zero] at hfirst
  conv => rhs; rw [hsplit as, hsplit bs]
  simp only [Uuid.hyphenate, List.append_assoc, List.cons_append, compare_append hfirst, compare_append (htake _ _),
    List.compare_cons_cons, Std.compare_self, Ordering.eq_then]

/-- UUIDs are in the order of their texts. -/
theorem Uuid.compare_write (u v : Uuid) : compare u.write v.write = compare u.bytes v.bytes := by
  have hlength : ∀ u : Uuid, (Hex.lower u.bytes).length = 32 := fun u => by rw [Hex.length_lower, u.length_eq]
  rw [compare_toList, Uuid.write, Uuid.write, String.toList_ofList, String.toList_ofList,
    Uuid.compare_hyphenate (hlength u) (hlength v), Hex.compare_lower (by rw [u.length_eq, v.length_eq])]

/-! ## Values -/

/-- Whether the values of a kind have an order that their stored forms can have as well. -/
def Kind.isOrdered : Kind → Bool
  | .f32 | .f64 | .decimal | .url => false
  | _ => true

/-- A value of a kind, or null. -/
def Scalar.IsOf (v : Scalar) (kind : Kind) : Prop := v = .null ∨ v.kind? = some kind

/-- The order of two values of such a kind; date-times are ordered by instant, and null comes first. -/
def Scalar.order : Scalar → Scalar → Ordering
  | .bool a, .bool b => compare a b
  | .integer _ a _, .integer _ b _ => compare a b
  | .text a, .text b => compare a b
  | .bytes a, .bytes b => compare a b
  | .dateTime a, .dateTime b => compare a.nanos b.nanos
  | .timeSpan a, .timeSpan b => compare a.nanos b.nanos
  | .uuid a, .uuid b => compare a.bytes b.bytes
  | .null, b => if b.isNull then .eq else .lt
  | _, .null => .gt
  | _, _ => .eq

/-- Whether two values compare as a test of their order asks; a null compares in no way. -/
def Scalar.compares (test : Ordering → Bool) (a b : Scalar) : Bool := !a.isNull && !b.isNull && test (a.order b)

/-- The order of two lists of values; the flags tell which values descend. -/
def Scalar.orderKeys : List Bool → List Scalar → List Scalar → Ordering
  | d :: ds, a :: as, b :: bs => (if d then b.order a else a.order b).then (Scalar.orderKeys ds as bs)
  | _, _, _ => .eq

/-- Equal in this order are the values that are equal. -/
theorem Scalar.order_eq_iff {kind : Kind} (hkind : kind.isOrdered = true) {a b : Scalar} (ha : a.IsOf kind)
    (hb : b.IsOf kind) :
    a.order b = .eq ↔ a.eqv b = true := by
  rcases ha with rfl | ha
  · rcases hb with rfl | hb
    · exact iff_of_true rfl rfl
    · cases b with
      | null => cases hb
      | _ => exact iff_of_false nofun nofun
  · rcases hb with rfl | hb
    · cases a with
      | null => cases ha
      | _ => exact iff_of_false nofun nofun
    · cases a with
      | null => cases ha
      | f32 x | f64 x | decimal x | url x =>
        obtain rfl := Option.some.inj ha
        cases hkind
      | integer k x hx =>
        obtain rfl := Option.some.inj ha
        cases b with
        | integer k' y hy =>
          obtain rfl := Kind.integer.inj (Option.some.inj hb)
          simp [Scalar.order, Scalar.eqv]
        | _ => cases hb
      | timeSpan x =>
        obtain rfl := Option.some.inj ha
        cases b with
        | timeSpan y =>
          obtain ⟨m⟩ := x
          obtain ⟨n⟩ := y
          simp [Scalar.order, Scalar.eqv]
        | _ => cases hb
      | _ =>
        obtain rfl := Option.some.inj ha
        cases b <;> first | (cases hb; done) | simp [Scalar.order, Scalar.eqv, DateTime.eqv]

/-- Values whose order their stored forms keep. Date-times as text have to be at one offset, where none is cut
short, or in the order of the times that they show. -/
def Scalar.KeepsOrder (options : Coercion) : Scalar → Scalar → Prop
  | .dateTime s, .dateTime t => options.dateTimeAsTicks = true ∨ s.offset = t.offset ∧ ¬s.CutShort t ∨
      compare s.localSecond t.localSecond = compare s.nanos t.nanos
  | _, _ => True

/-! ## Stored forms -/

section Stored

variable {options : Coercion}

/-- A value of a kind is not null, and is not stored as null. -/
theorem isNull_toNative {v : Scalar} {kind : Kind} (hk : v.kind? = some kind) {n : Native}
    (h : v.toNative options = .ok n) :
    v.isNull = false ∧ n.isNull = false := by
  cases v with
  | null => cases hk
  | integer k m hm =>
    obtain ⟨p, -, rfl⟩ := exists_integer (toNative_integer options hm) h
    exact ⟨rfl, rfl⟩
  | timeSpan s =>
    obtain ⟨p, -, rfl⟩ := exists_integer (toNative_span options s) h
    exact ⟨rfl, rfl⟩
  | dateTime t =>
    cases ho : options.dateTimeAsTicks with
    | true =>
      obtain ⟨p, -, rfl⟩ := exists_integer (toNative_ticks ho t) h
      exact ⟨rfl, rfl⟩
    | false =>
      obtain ⟨s, -, rfl⟩ := exists_text ho h
      exact ⟨rfl, rfl⟩
  | _ =>
    obtain rfl := Except.ok.inj h
    exact ⟨rfl, rfl⟩

/-- Texts of date-times at one offset, none of them cut short, or that show times in the order of the instants, are
in the order of the instants. -/
theorem DateTime.compare_text_of_keeps {s t : DateTime} {a b : String} (ha : s.rfc3339? = some a)
    (hb : t.rfc3339? = some b)
    (h : s.offset = t.offset ∧ ¬s.CutShort t ∨ compare s.localSecond t.localSecond = compare s.nanos t.nanos) :
    compare a b = compare s.nanos t.nanos := by
  rcases h with ⟨hoffset, hcut⟩ | hshown
  · exact (compare_text_iff ha hb hoffset).2 hcut
  · cases hsecond : compare s.localSecond t.localSecond with
    | eq =>
      have hlocal : s.localSecond = t.localSecond := Std.LawfulEqOrd.eq_of_compare hsecond
      have hnanos : s.nanos = t.nanos := Std.LawfulEqOrd.eq_of_compare (hshown.symm.trans hsecond)
      have hoffset : s.offset = t.offset := by
        unfold localSecond at hlocal
        omega
      refine (compare_text_iff ha hb hoffset).2 fun hcut => hcut.differ ?_
      rw [subsecond, subsecond, hnanos]
    | _ => rw [compare_text ha hb, ← hshown, hsecond]; rfl

/-- With one offset or in different seconds, texts are in the order of the instants exactly if date-times as text
keep it. -/
theorem DateTime.compare_text_eq_iff {s t : DateTime} {a b : String} (ha : s.rfc3339? = some a)
    (hb : t.rfc3339? = some b) (ho : options.dateTimeAsTicks = false)
    (h : s.offset = t.offset ∨ s.localSecond ≠ t.localSecond) :
    compare a b = compare s.nanos t.nanos ↔ (Scalar.dateTime s).KeepsOrder options (.dateTime t) := by
  constructor
  · intro hinstants
    rcases h with hoffset | hsecond
    · exact .inr (.inl ⟨hoffset, (compare_text_iff ha hb hoffset).1 hinstants⟩)
    · refine .inr (.inr ?_)
      rw [← hinstants, compare_text ha hb]
      cases hshown : compare s.localSecond t.localSecond with
      | eq => exact absurd (Std.LawfulEqOrd.eq_of_compare hshown) hsecond
      | _ => rfl
  · intro hkeeps
    refine compare_text_of_keeps ha hb (hkeeps.resolve_left ?_)
    rw [ho]
    exact Bool.false_ne_true

/-- The stored forms of two values of a kind are in the order of the values. -/
theorem compare_of_kind {kind : Kind} (hkind : kind.isOrdered = true) {a b : Scalar} (ha : a.kind? = some kind)
    (hb : b.kind? = some kind) {m n : Native} (hm : a.toNative options = .ok m) (hn : b.toNative options = .ok n)
    (h : a.KeepsOrder options b) : m.compare n = a.order b := by
  cases a with
  | null => cases ha
  | bool x =>
    obtain rfl := Option.some.inj ha
    cases b with
    | bool y =>
      obtain rfl := Except.ok.inj hm
      obtain rfl := Except.ok.inj hn
      cases x <;> cases y <;> rfl
    | _ => cases hb
  | integer k x hx =>
    obtain rfl := Option.some.inj ha
    cases b with
    | integer k' y hy =>
      obtain ⟨p, rfl, rfl⟩ := exists_integer (toNative_integer options hx) hm
      obtain ⟨q, rfl, rfl⟩ := exists_integer (toNative_integer options hy) hn
      rfl
    | _ => cases hb
  | text x =>
    obtain rfl := Option.some.inj ha
    cases b with
    | text y =>
      obtain rfl := Except.ok.inj hm
      obtain rfl := Except.ok.inj hn
      exact compareBytes_textBytes x y
    | _ => cases hb
  | bytes x =>
    obtain rfl := Option.some.inj ha
    cases b with
    | bytes y =>
      obtain rfl := Except.ok.inj hm
      obtain rfl := Except.ok.inj hn
      exact compareBytes_eq_compare x y
    | _ => cases hb
  | dateTime x =>
    obtain rfl := Option.some.inj ha
    cases b with
    | dateTime y =>
      cases ho : options.dateTimeAsTicks with
      | true =>
        obtain ⟨p, hp, rfl⟩ := exists_integer (toNative_ticks ho x) hm
        obtain ⟨q, hq, rfl⟩ := exists_integer (toNative_ticks ho y) hn
        rw [Scalar.order, ← hp, ← hq]
        rfl
      | false =>
        obtain ⟨s, hs, rfl⟩ := exists_text ho hm
        obtain ⟨t, ht, rfl⟩ := exists_text ho hn
        refine (compareBytes_textBytes s t).trans (DateTime.compare_text_of_keeps hs ht (h.resolve_left ?_))
        rw [ho]
        exact Bool.false_ne_true
    | _ => cases hb
  | timeSpan x =>
    obtain rfl := Option.some.inj ha
    cases b with
    | timeSpan y =>
      obtain ⟨p, hp, rfl⟩ := exists_integer (toNative_span options x) hm
      obtain ⟨q, hq, rfl⟩ := exists_integer (toNative_span options y) hn
      rw [Scalar.order, ← hp, ← hq]
      rfl
    | _ => cases hb
  | uuid x =>
    obtain rfl := Option.some.inj ha
    cases b with
    | uuid y =>
      obtain rfl := Except.ok.inj hm
      obtain rfl := Except.ok.inj hn
      exact (compareBytes_textBytes _ _).trans (Uuid.compare_write x y)
    | _ => cases hb
  | _ =>
    obtain rfl := Option.some.inj ha
    cases hkind

/-- The stored forms of two values of a kind, or nulls, are in the order of the values. -/
theorem Scalar.KeepsOrder.compare_eq {a b : Scalar} (h : a.KeepsOrder options b) {kind : Kind}
    (hkind : kind.isOrdered = true) (ha : a.IsOf kind) (hb : b.IsOf kind) {m n : Native}
    (hm : a.toNative options = .ok m) (hn : b.toNative options = .ok n) :
    m.compare n = a.order b := by
  rcases ha with rfl | ha
  · obtain rfl := Except.ok.inj hm
    rcases hb with rfl | hb
    · obtain rfl := Except.ok.inj hn
      rfl
    · obtain ⟨hsome, hnull⟩ := isNull_toNative hb hn
      rw [Scalar.order, hsome]
      cases n <;> first | rfl | cases hnull
  · rcases hb with rfl | hb
    · obtain rfl := Except.ok.inj hn
      obtain ⟨-, hnull⟩ := isNull_toNative ha hm
      have horder : a.order .null = .gt := by
        cases a <;> first | rfl | cases ha
      rw [horder]
      cases m <;> first | rfl | cases hnull
    · exact compare_of_kind hkind ha hb hm hn h

end Stored

end SqlMapper
