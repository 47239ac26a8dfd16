import SqlMapper.Number.Decimal

/-!
# Numbers that are no NaN

What is rounded from an exact ratio is a number or an infinity and never a NaN (`Binary64.isNaN_ofRatio`). So an
operation gives a NaN only where it has one among its operands, or where infinities or zeros meet. Widening keeps a
NaN and makes none (`Binary32.isNaN_widen`), and a decimal is never one, since it is divided by powers of ten alone
(`Decimal.isNaN_toBinary`).
-/

namespace SqlMapper

/-- A quotient is rounded to infinity at most. -/
theorem Format.ofRatio_le (f : Format) (num den : Nat) : f.ofRatio num den ≤ f.infinity := by
  unfold Format.ofRatio
  split
  · exact Nat.zero_le _
  · exact Nat.min_le_right _ _

namespace Binary64

/-- A magnitude of 63 bits stays what it is beside the sign. -/
theorem magnitude_ofMagnitude (negative : Bool) {m : Nat} (h : m < 2 ^ 63) :
    (ofMagnitude negative m).magnitude = m := by
  have hbound : m + (if negative then 2 ^ 63 else 0) < 2 ^ 64 := by split <;> omega
  unfold magnitude ofMagnitude
  rw [UInt64.toNat_ofNat', Nat.mod_eq_of_lt hbound]
  split
  · rw [Nat.add_mod_right, Nat.mod_eq_of_lt h]
  · exact Nat.mod_eq_of_lt h

/-- Up to infinity a magnitude is a number. -/
theorem isNaN_ofMagnitude (negative : Bool) {m : Nat} (h : m ≤ Format.double.infinity) :
    (ofMagnitude negative m).isNaN = false := by
  have hinfinity : Format.double.infinity < 2 ^ 63 := by decide
  rw [isNaN, magnitude_ofMagnitude negative (Nat.lt_of_le_of_lt h hinfinity), decide_eq_false_iff_not]
  exact Nat.not_lt.2 h

theorem isNaN_infinity (negative : Bool) : (infinity negative).isNaN = false :=
  isNaN_ofMagnitude negative (Nat.le_refl _)

/-- What is rounded is no NaN. -/
theorem isNaN_ofRatio (negative : Bool) (num den : Nat) : (ofRatio negative num den).isNaN = false :=
  isNaN_ofMagnitude negative (Format.ofRatio_le _ num den)

/-- The negative of a number is a number. -/
theorem isNaN_neg (x : Binary64) : x.neg.isNaN = x.isNaN := by
  have hmagnitude : x.magnitude < 2 ^ 63 := Nat.mod_lt _ (by decide)
  rw [neg, isNaN, magnitude_ofMagnitude _ hmagnitude, isNaN]

variable {x y : Binary64}

/-- Numbers of one sign have a sum. -/
theorem isNaN_add (hx : x.isNaN = false) (hy : y.isNaN = false) (hsign : x.negative = y.negative) :
    (x.add y).isNaN = false := by
  simp only [add, hx, hy, hsign, bne_self_eq_false, Bool.and_false, Bool.or_self, Bool.false_eq_true, if_false]
  split
  · exact hx
  · split
    · exact hy
    · split
      · exact isNaN_ofMagnitude _ (Nat.zero_le _)
      · exact isNaN_ofRatio ..

/-- A number that can be multiplied with every other, and that every other can be divided by: it is neither zero nor
infinite. -/
structure IsUnit (y : Binary64) : Prop where
  finite : y.isFinite = true
  nonzero : y.isZero = false

namespace IsUnit

/-- What is finite and not zero is a number. -/
theorem isNaN (h : y.IsUnit) : y.isNaN = false := by
  have hfinite := h.finite
  simp only [isFinite, Binary64.isNaN, decide_eq_true_eq, decide_eq_false_iff_not] at hfinite ⊢
  omega

theorem isInfinite (h : y.IsUnit) : y.isInfinite = false := by
  have hfinite := h.finite
  simp only [isFinite, Binary64.isInfinite, decide_eq_true_eq, decide_eq_false_iff_not] at hfinite ⊢
  omega

/-- A number times a finite one that is not zero is a number. -/
theorem isNaN_mul (h : y.IsUnit) (hx : x.isNaN = false) : (x.mul y).isNaN = false := by
  simp only [mul, hx, h.isNaN, h.isInfinite, h.nonzero, Bool.or_false, Bool.false_eq_true, if_false]
  split
  · rename_i hinfinite
    -- An infinity is no zero.
    have hzero : x.isZero = false := by
      have hbits : Format.double.infinity ≠ 0 := by decide
      simp only [Binary64.isInfinite, isZero, decide_eq_true_eq, decide_eq_false_iff_not] at hinfinite ⊢
      omega
    rw [hzero, if_neg Bool.false_ne_true]
    exact isNaN_infinity _
  · exact isNaN_ofRatio ..

theorem isNaN_div (h : y.IsUnit) (hx : x.isNaN = false) : (x.div y).isNaN = false := by
  simp only [div, hx, h.isNaN, h.isInfinite, h.nonzero, Bool.or_false, Bool.false_eq_true, if_false]
  split
  · exact isNaN_infinity _
  · exact isNaN_ofRatio ..

end IsUnit

/-- Rounding a number gives a number. -/
theorem isNaN_round (hx : x.isNaN = false) : x.round.isNaN = false := by
  unfold round
  split
  · exact isNaN_ofRatio ..
  · exact hx

/-- A ratio that is rounded without a sign is not negative. -/
theorem negative_ofMagnitude_false {m : Nat} (h : m ≤ Format.double.infinity) :
    (ofMagnitude false m).negative = false := by
  have hinfinity : Format.double.infinity < 2 ^ 63 := by decide
  have hbound : m < 2 ^ 64 := by omega
  simp only [negative, ofMagnitude, Bool.false_eq_true, if_false, Nat.add_zero, UInt64.toNat_ofNat',
    Nat.mod_eq_of_lt hbound, decide_eq_false_iff_not]
  omega

/-- A natural number is not negative as a real either. -/
theorem negative_ofNat (n : Nat) : (ofNat n).negative = false := negative_ofMagnitude_false (Format.ofRatio_le _ n 1)

/-- Numbers that are not negative have a quotient that is not negative. -/
theorem negative_div (h : y.IsUnit) (hx : x.isNaN = false) (hxsign : x.negative = false) (hysign : y.negative = false) :
    (x.div y).negative = false := by
  simp only [div, hx, h.isNaN, h.isInfinite, h.nonzero, hxsign, hysign, bne_self_eq_false, Bool.or_false,
    Bool.false_eq_true, if_false]
  split
  · exact negative_ofMagnitude_false (Nat.le_refl _)
  · exact negative_ofMagnitude_false (Format.ofRatio_le ..)

/-- The powers of ten up to the largest scale of a decimal are far from the ends of the format. -/
theorem isUnit_power {scale : Nat} (h : scale ≤ 28) : (ofNat (10 ^ scale)).IsUnit := by
  have hall : ∀ s : Fin 29, (ofNat (10 ^ s.val)).isFinite = true ∧ (ofNat (10 ^ s.val)).isZero = false := by
    decide +kernel
  obtain ⟨hfinite, hnonzero⟩ := hall ⟨scale, Nat.lt_succ_of_le h⟩
  exact ⟨hfinite, hnonzero⟩

end Binary64

/-- Widening keeps a NaN and makes none. -/
theorem Binary32.isNaN_widen (x : Binary32) : x.widen.isNaN = x.isNaN := by
  unfold widen
  split
  · rename_i hnan
    rw [hnan]
    decide
  · rename_i hnan
    rw [Bool.not_eq_true] at hnan
    rw [hnan]
    split
    · exact Binary64.isNaN_infinity _
    · exact Binary64.isNaN_ofRatio ..

/-- The number of a decimal is no NaN. -/
theorem Decimal.isNaN_toBinary (d : Decimal) : d.toBinary.isNaN = false := by
  have hsigned : ∀ {x : Binary64}, x.isNaN = false →
      (if d.negative && d.magnitude != 0 then x.neg else x).isNaN = false := by
    intro x hx
    split
    · rw [Binary64.isNaN_neg, hx]
    · exact hx
  have hunit := Binary64.isUnit_power d.scale_le
  have hnat : ∀ n, (Binary64.ofNat n).isNaN = false := fun n => Binary64.isNaN_ofRatio false n 1
  unfold toBinary
  dsimp only
  split
  · exact hsigned (hnat _)
  · split
    · exact hsigned (hnat _)
    · have hfraction := hunit.isNaN_div (hnat (d.magnitude % 10 ^ d.scale))
      have hsign := Binary64.negative_div hunit (hnat (d.magnitude % 10 ^ d.scale)) (Binary64.negative_ofNat _)
        (Binary64.negative_ofNat _)
      have hsum := Binary64.isNaN_add (hnat (d.magnitude / 10 ^ d.scale)) hfraction
        ((Binary64.negative_ofNat _).trans hsign.symm)
      exact hsigned (hunit.isNaN_div (Binary64.isNaN_round (hunit.isNaN_mul hsum)))

end SqlMapper
