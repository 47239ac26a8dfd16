import SqlMapper.Proofs.Compiler.Compile
import SqlMapper.Proofs.Number.NaN
import SqlMapper.Proofs.Value.RoundTrip
import SqlMapper.Schema.Row
import SqlMapper.Sql.Place

/-!
# Nulls that are stored and read

A scalar is bound as null where it is null, and where it is a NaN (`Scalar.isNull_bound`). Reading has no way of its
own to a null: as whatever kind a stored value is read, the outcome is about null exactly for null
(`Native.readsNull_toScalar`), and so a column that is read where null is not allowed fails for a null just where
null is stored (`Row.get_eq_nullNotOptional_iff`).
-/

namespace SqlMapper

/-! ## Storing -/

/-- Whether a scalar is a float that is no number. -/
def Scalar.isNaN : Scalar → Bool
  | .f32 x => x.isNaN
  | .f64 x => x.isNaN
  | _ => false

/-- A real is stored as null exactly if it is a NaN. -/
theorem isNull_ofReal (x : Binary64) : (Native.ofReal x).isNull = x.isNaN := by
  unfold Native.ofReal
  cases x.isNaN <;> rfl

/-- A scalar is bound as null where it is null or a NaN. -/
theorem Scalar.isNull_bound {v : Scalar} {coercion : Coercion} {n : Native} (h : v.toNative coercion = .ok n) :
    (Sql.boundValue n).isNull = (v.isNull || v.isNaN) := by
  cases v with
  | integer k m hm =>
    obtain ⟨i, -, rfl⟩ := exists_integer (toNative_integer coercion hm) h
    rfl
  | timeSpan s =>
    obtain ⟨i, -, rfl⟩ := exists_integer (toNative_span coercion s) h
    rfl
  | dateTime t =>
    cases hticks : coercion.dateTimeAsTicks with
    | true =>
      obtain ⟨i, -, rfl⟩ := exists_integer (toNative_ticks hticks t) h
      rfl
    | false =>
      obtain ⟨s, -, rfl⟩ := exists_text hticks h
      rfl
  | f32 x =>
    obtain rfl := Except.ok.inj h
    exact (isNull_ofReal _).trans x.isNaN_widen
  | f64 x =>
    obtain rfl := Except.ok.inj h
    exact isNull_ofReal x
  | decimal d =>
    obtain rfl := Except.ok.inj h
    exact (isNull_ofReal _).trans d.isNaN_toBinary
  | _ =>
    obtain rfl := Except.ok.inj h
    rfl

/-! ## Reading -/

/-- Whether an error is that null is not allowed. -/
def CoercionError.ofNull : CoercionError → Bool
  | .nullNotOptional _ => true
  | _ => false

/-- Whether the outcome of a reading is about null: it gives null, or fails because of it. -/
def readsNull : Except CoercionError Scalar → Bool
  | .ok s => s.isNull
  | .error e => e.ofNull

/-- A reading in two steps is not about null when neither step is. -/
theorem readsNull_bind {α : Type} {x : Except CoercionError α} {f : α → Except CoercionError Scalar}
    (hx : ∀ e, x = .error e → e.ofNull = false) (hf : ∀ a, readsNull (f a) = false) : readsNull (x >>= f) = false := by
  cases x with
  | error e => exact hx e rfl
  | ok a => exact hf a

/-- What cannot be read as an integer is not refused because of null. -/
theorem ofNull_readInteger {kind : Kind} {v : Native} {e : CoercionError} (h : v.readInteger kind = .error e) :
    e.ofNull = false := by
  have hclass : ∀ {n : Native},
      Except.error (CoercionError.wrongClass n kind) = (Except.error e : Except CoercionError Int64) →
      e.ofNull = false := by
    intro n heq
    rw [← Except.error.inj heq]
    rfl
  cases v with
  | integer n => cases h
  | real x =>
    unfold Native.readInteger at h
    dsimp only at h
    split at h
    · cases h
    · exact hclass h
  | _ => exact hclass h

/-- Neither is what cannot be read as a real. -/
theorem ofNull_readReal {kind : Kind} {v : Native} {e : CoercionError} (h : v.readReal kind = .error e) :
    e.ofNull = false := by
  cases v with
  | integer n => cases h
  | real x => cases h
  | _ =>
    rw [← Except.error.inj h]
    rfl

theorem ofNull_orElse {α : Type} {cause e : CoercionError} (hcause : cause.ofNull = false) {found : Option α}
    (h : CoercionError.orElse cause found = .error e) : e.ofNull = false := by
  cases found with
  | some a => cases h
  | none =>
    rw [← Except.error.inj h]
    exact hcause

/-- As whatever kind a value is read, the outcome is about null exactly when the value is. -/
theorem Native.readsNull_toScalar (kind : Kind) (v : Native) : readsNull (v.toScalar kind) = v.isNull := by
  cases hnull : v.isNull with
  | true =>
    cases v <;> first | rfl | cases hnull
  | false =>
    unfold toScalar
    rw [hnull, if_neg Bool.false_ne_true]
    cases kind with
    | bool => exact readsNull_bind (fun _ he => ofNull_readInteger he) fun _ => rfl
    | integer k =>
      refine readsNull_bind (fun _ he => ofNull_readInteger he) fun n => ?_
      unfold Scalar.integer?
      split <;> rename_i heq
      · split at heq
        · rw [← Option.some.inj heq]
          rfl
        · cases heq
      · rfl
    | f32 => exact readsNull_bind (fun _ he => ofNull_readReal he) fun _ => rfl
    | f64 => exact readsNull_bind (fun _ he => ofNull_readReal he) fun _ => rfl
    | timeSpan => exact readsNull_bind (fun _ he => ofNull_readInteger he) fun _ => rfl
    | text => cases v <;> rfl
    | bytes => cases v <;> rfl
    | decimal =>
      cases v with
      | null => rfl
      | blob b => rfl
      | _ => exact readsNull_bind (fun _ he => ofNull_orElse rfl he) fun _ => rfl
    | dateTime =>
      cases v with
      | text s => exact readsNull_bind (fun _ he => ofNull_orElse rfl he) fun _ => rfl
      | _ => rfl
    | uuid =>
      cases v with
      | text s => exact readsNull_bind (fun _ he => ofNull_orElse rfl he) fun _ => rfl
      | blob b => exact readsNull_bind (fun _ he => ofNull_orElse rfl he) fun _ => rfl
      | _ => rfl
    | url =>
      cases v with
      | text s => exact readsNull_bind (fun _ he => ofNull_orElse rfl he) fun _ => rfl
      | _ => rfl

/-- Where null is not allowed, a reading fails because of null exactly when null is read. -/
theorem expect_eq_nullNotOptional_iff (kind k : Kind) (v : Native) :
    (v.toScalar kind >>= Scalar.expect kind) = .error (.nullNotOptional k) ↔ v = .null ∧ k = kind := by
  by_cases hv : v = .null
  · subst hv
    refine ⟨fun h => ⟨rfl, ?_⟩, fun h => ?_⟩
    · exact (CoercionError.nullNotOptional.inj (Except.error.inj h)).symm
    · rw [h.2]
      rfl
  · refine iff_of_false (fun h => ?_) fun h => hv h.1
    have hnull : readsNull (v.toScalar kind) = false := by
      rw [v.readsNull_toScalar]
      cases v <;> first | rfl | exact absurd rfl hv
    rcases hread : v.toScalar kind with e | s
    · rw [hread] at h hnull
      rw [Except.error.inj h] at hnull
      cases hnull
    · rw [hread] at h hnull
      cases s with
      | null => cases hnull
      | _ =>
        simp only [Bind.bind, Except.bind, Scalar.expect, Scalar.kind?] at h
        split at h <;> cases h

/-- A column of a row that is read where null is not allowed fails because of null exactly when null is stored there. -/
theorem Row.get_eq_nullNotOptional_iff {row : Row} {name : String} {n : Native} (h : row.value? name = some n)
    (kind k : Kind) :
    row.get kind false name = .error (.coercion (.nullNotOptional k)) ↔ n = .null ∧ k = kind := by
  obtain ⟨i, hposition, hvalue⟩ := Option.bind_eq_some_iff.1 h
  have hget : row.get kind false name = Error.ofCoercion (n.toScalar kind >>= Scalar.expect kind) := by
    simp only [Row.get, hposition, Row.getAt, hvalue]
    rfl
  rw [hget, ← expect_eq_nullNotOptional_iff]
  cases n.toScalar kind >>= Scalar.expect kind with
  | ok s => simp [Error.ofCoercion]
  | error e => simp [Error.ofCoercion]

end SqlMapper
