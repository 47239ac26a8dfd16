import SqlMapper.Time.Calendar

/-!
# Days and their numbers

The day with a number is in the calendar, and has that number. The year of a day is estimated from the number of the
day in its era; the estimate is right because it grows with the day and is exact on the first day of every year
(`CalendarDay.estimate_start`). Years and months begin in March here.
-/

namespace SqlMapper

namespace CalendarDay

/-! ## The year of a day in its era -/

/-- The first day of a year of an era. -/
def yearStart (year : Int) : Int := 365 * year + year / 4 - year / 100

/-- The days of an era up to a day, without the leap days among them. -/
def estimate (day : Int) : Int := day - day / 1460 + day / 36524 - day / 146096

theorem estimate_mono {a b : Int} (h : a ≤ b) : estimate a ≤ estimate b := by
  unfold estimate
  have ha : a / 36524 / 4 = a / 146096 := by omega
  have hb : b / 36524 / 4 = b / 146096 := by omega
  omega

/-- The estimate is exact where a year starts. -/
theorem estimate_start {year : Int} (h0 : 0 ≤ year) (h : year < 400) : estimate (yearStart year) = 365 * year := by
  unfold estimate yearStart
  have hquads : (365 * year + year / 4 - year / 100) / 1460 = year / 4 := by omega
  have hcenturies : (365 * year + year / 4 - year / 100) / 36524 = year / 100 := by omega
  have hera : (365 * year + year / 4 - year / 100) / 146096 = 0 := by omega
  omega

/-- The day before a year starts is estimated into the year before. -/
theorem estimate_before_start {year : Int} (h0 : 0 < year) (h : year < 400) :
    estimate (yearStart year - 1) < 365 * year := by
  unfold estimate yearStart
  have hquads : year / 4 ≤ (365 * year + year / 4 - year / 100 - 1) / 1460 := by omega
  have hcenturies : (365 * year + year / 4 - year / 100 - 1) / 36524 ≤ year / 100 := by omega
  omega

/-- The year of a day of an era. -/
def yearOfEra (day : Int) : Int := estimate day / 365

/-- A day lies in its year, and in a year of 365 days it is not the last of 366. -/
theorem yearOfEra_spec {day : Int} (h0 : 0 ≤ day) (h : day < 146097) :
    0 ≤ yearOfEra day ∧ yearOfEra day < 400 ∧ yearStart (yearOfEra day) ≤ day ∧
      day ≤ yearStart (yearOfEra day) + 365 ∧
      (day = yearStart (yearOfEra day) + 365 →
        (yearOfEra day + 1) % 4 = 0 ∧ ((yearOfEra day + 1) % 100 ≠ 0 ∨ (yearOfEra day + 1) % 400 = 0)) := by
  have hlow : 0 ≤ estimate day := by
    have hmono := estimate_mono h0
    simpa [estimate] using hmono
  have hhigh : estimate day ≤ 145999 := by
    have hmono := estimate_mono (show day ≤ 146096 by omega)
    simpa [estimate] using hmono
  have hyear : 365 * yearOfEra day ≤ estimate day ∧ estimate day < 365 * (yearOfEra day + 1) := by
    unfold yearOfEra
    omega
  generalize yearOfEra day = year at hyear ⊢
  have h400 : 0 ≤ year ∧ year < 400 := by omega
  have hstart : yearStart year ≤ day := by
    refine Int.not_lt.1 fun hlt => ?_
    have hpos : 0 < year := by
      rcases Int.lt_or_eq_of_le h400.1 with hpos | rfl
      · exact hpos
      · simp only [yearStart] at hlt
        omega
    have hmono := estimate_mono (show day ≤ yearStart year - 1 by omega)
    have hbefore := estimate_before_start hpos h400.2
    omega
  have hend : year < 399 → day < yearStart (year + 1) := by
    intro hlt
    refine Int.not_le.1 fun hge => ?_
    have hmono := estimate_mono hge
    rw [estimate_start (by omega) (by omega)] at hmono
    omega
  refine ⟨h400.1, h400.2, hstart, ?_, ?_⟩
  · unfold yearStart at hend ⊢
    omega
  · intro hlast
    unfold yearStart at hend hlast
    have hcenturies : year / 100 ≤ (year + 1) / 100 := by omega
    have hquads : (year + 1) % 4 ≠ 0 → (year + 1) / 4 = year / 4 := by omega
    have hcentury : (year + 1) % 100 = 0 → (year + 1) / 100 = year / 100 + 1 := by omega
    have hquad : (year + 1) / 4 ≤ year / 4 + 1 := by omega
    omega

/-! ## The month of a day in its year -/

/-- The month of a day of a year, counted from March. -/
def monthOfYear (day : Int) : Int := (5 * day + 2) / 153

/-- A day lies in its month: the months have 31 days but for April, June, September and November with 30, and for
February, which lasts as long as the year does. -/
theorem monthOfYear_spec {day : Int} (h0 : 0 ≤ day) (h : day ≤ 365) :
    0 ≤ monthOfYear day ∧ monthOfYear day < 12 ∧ (153 * monthOfYear day + 2) / 5 ≤ day ∧
      day ≤ (153 * monthOfYear day + 2) / 5 + 30 ∧
      (monthOfYear day = 1 ∨ monthOfYear day = 3 ∨ monthOfYear day = 6 ∨ monthOfYear day = 8 →
        day ≤ (153 * monthOfYear day + 2) / 5 + 29) ∧
      (monthOfYear day = 11 → (153 * monthOfYear day + 2) / 5 = 337) := by
  unfold monthOfYear
  have hlow : 0 ≤ (5 * day + 2) / 153 := by omega
  have hhigh : (5 * day + 2) / 153 < 12 := by omega
  refine ⟨hlow, hhigh, ?_, ?_, ?_, ?_⟩ <;> omega

/-- The number of a month from March on, in the year that begins in January. -/
def civilMonth (month : Int) : Int := if month < 10 then month + 3 else month - 9

/-- The day with a number, by its year and month from March on. -/
theorem ofDays_eq (days : Int) :
    let ofEra := (days + 719468) % 146097
    let ofYear := ofEra - yearStart (yearOfEra ofEra)
    let year := yearOfEra ofEra + (days + 719468) / 146097 * 400
    CalendarDay.ofDays days = {
      year := if civilMonth (monthOfYear ofYear) ≤ 2 then year + 1 else year
      month := (civilMonth (monthOfYear ofYear)).toNat
      day := (ofYear - (153 * monthOfYear ofYear + 2) / 5 + 1).toNat } := rfl

/-- The day with a number has that number. -/
theorem toDays_ofDays (days : Int) : (CalendarDay.ofDays days).toDays = days := by
  rw [ofDays_eq]
  have hera : 0 ≤ (days + 719468) % 146097 ∧ (days + 719468) % 146097 < 146097 := by omega
  have hdays := Int.mul_ediv_add_emod (days + 719468) 146097
  generalize (days + 719468) % 146097 = ofEra at hera hdays ⊢
  generalize (days + 719468) / 146097 = era at hdays ⊢
  obtain ⟨hy0, hy, hlo, hhi, -⟩ := yearOfEra_spec hera.1 hera.2
  generalize yearOfEra ofEra = year at hy0 hy hlo hhi ⊢
  obtain ⟨hm0, hm, hdlo, -⟩ := monthOfYear_spec (show 0 ≤ ofEra - yearStart year by omega) (by omega)
  generalize monthOfYear (ofEra - yearStart year) = month at hm0 hm hdlo ⊢
  have hyear : (year + era * 400) / 400 = era ∧ (year + era * 400) % 400 = year := by omega
  unfold yearStart at hlo hhi hdlo ⊢
  unfold civilMonth toDays
  by_cases hspring : month < 10
  · have hlate : ¬ month + 3 ≤ 2 := by omega
    have hlate' : ¬ (month + 3).toNat ≤ 2 := by omega
    have hmonth : ((month + 3).toNat : Int) - 3 = month := by omega
    simp only [if_pos hspring, if_neg hlate, if_neg hlate', hmonth, hyear.1, hyear.2]
    omega
  · have hearly : month - 9 ≤ 2 := by omega
    have hearly' : (month - 9).toNat ≤ 2 := by omega
    have hmonth : ((month - 9).toNat : Int) + 9 = month := by omega
    have hback : year + era * 400 + 1 - 1 = year + era * 400 := by omega
    simp only [if_neg hspring, if_pos hearly, if_pos hearly', hmonth, hback, hyear.1, hyear.2]
    omega

/-- The day with a number is in the calendar. -/
theorem isValid_ofDays (days : Int) : (CalendarDay.ofDays days).isValid = true := by
  rw [ofDays_eq]
  have hera : 0 ≤ (days + 719468) % 146097 ∧ (days + 719468) % 146097 < 146097 := by omega
  generalize (days + 719468) % 146097 = ofEra at hera ⊢
  generalize (days + 719468) / 146097 = era
  obtain ⟨hy0, hy, hlo, hhi, hleap⟩ := yearOfEra_spec hera.1 hera.2
  generalize yearOfEra ofEra = year at hy0 hy hlo hhi hleap ⊢
  obtain ⟨hm0, hm, hdlo, hdhi, hthirty, hfeb⟩ := monthOfYear_spec (show 0 ≤ ofEra - yearStart year by omega) (by omega)
  generalize monthOfYear (ofEra - yearStart year) = month at hm0 hm hdlo hdhi hthirty hfeb ⊢
  generalize yearStart year = start at hlo hhi hleap hdlo hdhi hthirty hfeb ⊢
  simp only [isValid, Bool.and_eq_true, decide_eq_true_eq, daysInMonth]
  unfold civilMonth
  by_cases hspring : month < 10
  · have hlate : ¬ month + 3 ≤ 2 := by omega
    have hfebruary : (month + 3).toNat ≠ 2 := by omega
    simp only [if_pos hspring, if_neg hlate, if_neg hfebruary]
    split <;> omega
  · have hearly : month - 9 ≤ 2 := by omega
    simp only [if_neg hspring, if_pos hearly]
    by_cases hmonth : month = 11
    · subst hmonth
      have hstart := hfeb rfl
      have hlast : ofEra = start + 365 → isLeapYear (year + era * 400 + 1) = true := by
        intro h
        obtain ⟨hfour, hcentury⟩ := hleap h
        simp only [isLeapYear, Bool.and_eq_true, Bool.or_eq_true, beq_iff_eq, bne_iff_ne]
        omega
      have hnumber : ((11 : Int) - 9).toNat = 2 := rfl
      simp only [hnumber, hstart, if_true]
      split
      · omega
      · rename_i hcommon
        have hne : ofEra ≠ start + 365 := fun h => hcommon (hlast h)
        omega
    · have hjanuary : month = 10 := by omega
      subst hjanuary
      have hnumber : ((10 : Int) - 9).toNat = 1 := rfl
      rw [hnumber, if_neg (by decide), if_neg (by decide)]
      omega

end CalendarDay

end SqlMapper
