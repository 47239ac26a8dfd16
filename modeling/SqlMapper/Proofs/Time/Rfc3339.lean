import SqlMapper.Proofs.Text.Digits
import SqlMapper.Proofs.Time.Calendar
import SqlMapper.Time.Rfc3339

/-!
# Date-times read back from their text

The RFC 3339 text of a date-time is read back as that date-time, its offset included
(`DateTime.ofRfc3339?_rfc3339?`), and there is one exactly when the year has four digits and the offset is whole
minutes within a day (`DateTime.rfc3339?_eq_none_iff`).
-/

namespace SqlMapper

namespace DateTime

/-! ## Fields -/

/-- The fields of an instant are within their bounds. -/
theorem Fields.ofNanos_bounds (nanos : Int) :
    (Fields.ofNanos nanos).hour < 24 ∧ (Fields.ofNanos nanos).minute < 60 ∧ (Fields.ofNanos nanos).second < 60 ∧
      (Fields.ofNanos nanos).nano < 1000000000 := by
  simp only [Fields.ofNanos]
  omega

/-- The fields of an instant stand for it. -/
theorem Fields.toNanos_ofNanos (nanos : Int) : (Fields.ofNanos nanos).toNanos = nanos := by
  simp only [Fields.toNanos, Fields.ofNanos, CalendarDay.toDays_ofDays]
  omega

/-! ## What can be written -/

/-- A date-time that RFC 3339 has a text for: the local year has four digits, and the offset is whole minutes within
a day. -/
structure Writable (t : DateTime) : Prop where
  year : 0 ≤ t.fields.date.year ∧ t.fields.date.year ≤ 9999
  minutes : t.offset % 60 = 0
  withinDay : -86400 < t.offset ∧ t.offset < 86400

theorem writable_iff (t : DateTime) :
    t.Writable ↔ 0 ≤ t.fields.date.year ∧ t.fields.date.year ≤ 9999 ∧ t.offsetParts.1 ≤ 23 ∧ t.offsetParts.2.2 = 0 := by
  simp only [offsetParts]
  constructor
  · rintro ⟨hyear, hminutes, hday⟩
    refine ⟨hyear.1, hyear.2, ?_, ?_⟩ <;> omega
  · rintro ⟨hlow, hhigh, hhours, hseconds⟩
    refine ⟨⟨hlow, hhigh⟩, ?_, ?_⟩ <;> omega

/-- There is a text exactly for the date-times that can be written. -/
theorem rfc3339?_eq_none_iff (t : DateTime) : t.rfc3339? = none ↔ ¬ t.Writable := by
  rw [writable_iff, rfc3339?]
  dsimp only
  split <;> simp_all

theorem writable_of_rfc3339? {t : DateTime} {s : String} (h : t.rfc3339? = some s) : t.Writable := by
  refine Classical.not_not.1 fun hno => ?_
  rw [(rfc3339?_eq_none_iff t).2 hno] at h
  cases h

/-! ## The parts of the text -/

/-- A field of two digits after its separator. -/
theorem field_append {n : Nat} (h : n < 100) (separator : Char) (rest : List Char) :
    Rfc3339.field separator (separator :: (paddedDigits 2 n ++ rest)) = some (n, rest) := by
  simp only [Rfc3339.field, Rfc3339.expect, if_true, Option.bind_eq_bind, Option.bind_some]
  exact readDigits?_paddedDigits (by decide) h rest

/-- The offset, as it is written at the end of the text. -/
def zone (t : DateTime) : List Char :=
  if t.offset = 0 then ['Z']
  else (if t.offset < 0 then '-' else '+') :: paddedDigits 2 t.offsetParts.1 ++ ':' :: paddedDigits 2 t.offsetParts.2.1

/-- The fraction, as it is written after the seconds. -/
def fractionText (nano : Nat) : List Char := if nano = 0 then [] else '.' :: fractionDigits 9 nano

/-- An offset begins with a character that is neither a digit nor a point. -/
theorem exists_zone_cons (t : DateTime) : ∃ c cs, t.zone = c :: cs ∧ c.isDigit = false ∧ c ≠ '.' := by
  unfold zone
  split
  · exact ⟨'Z', [], rfl, rfl, by decide⟩
  · refine ⟨_, _, rfl, ?_, ?_⟩ <;> split <;> decide

/-- The hours and minutes of an offset that can be written make it up. -/
theorem offsetParts_of_writable {t : DateTime} (h : t.Writable) :
    t.offsetParts.1 < 24 ∧ t.offsetParts.2.1 < 60 ∧
      t.offset.natAbs = t.offsetParts.1 * 3600 + t.offsetParts.2.1 * 60 := by
  have hminutes := h.minutes
  have hday := h.withinDay
  simp only [offsetParts]
  omega

/-- Hours and minutes after a sign are read as so many seconds. -/
theorem readOffset_signed {sign : Char} (hsign : sign = '+' ∨ sign = '-') {hours minutes : Nat} (hh : hours < 24)
    (hm : minutes < 60) :
    Rfc3339.readOffset (sign :: (paddedDigits 2 hours ++ ':' :: paddedDigits 2 minutes)) =
      some (if sign = '-' then -(hours * 3600 + minutes * 60 : Int) else hours * 3600 + minutes * 60) := by
  have hfirst := readDigits?_paddedDigits Nat.zero_lt_two (show hours < 10 ^ 2 by omega) (':' :: paddedDigits 2 minutes)
  have hsecond := field_append (show minutes < 100 by omega) ':' []
  rw [List.append_nil] at hsecond
  have hutc : ¬ (sign = 'Z' ∨ sign = 'z') := by rcases hsign with rfl | rfl <;> decide
  have hrange : ¬ (23 < hours ∨ 59 < minutes ∨ (!List.isEmpty ([] : List Char)) = true) := by
    simp only [List.isEmpty_nil, Bool.not_true, Bool.false_eq_true, or_false]
    omega
  simp only [Rfc3339.readOffset, if_neg hutc, if_pos hsign, hfirst, hsecond, Option.bind_eq_bind,
    Option.bind_some, if_neg hrange]

/-- The offset is read back. -/
theorem readOffset_zone {t : DateTime} (h : t.Writable) : Rfc3339.readOffset t.zone = some t.offset := by
  obtain ⟨hhours, hminutes, htotal⟩ := offsetParts_of_writable h
  unfold zone
  by_cases hz : t.offset = 0
  · rw [if_pos hz, hz]
    rfl
  · rw [if_neg hz, List.cons_append]
    by_cases hneg : t.offset < 0
    · rw [if_pos hneg, readOffset_signed (Or.inr rfl) hhours hminutes, if_pos rfl]
      congr 1
      omega
    · rw [if_neg hneg, readOffset_signed (Or.inl rfl) hhours hminutes, if_neg (by decide)]
      congr 1
      omega

/-- The fraction is read back, up to the offset. -/
theorem readFraction_append {nano : Nat} (h : nano < 1000000000) {c : Char} {cs : List Char} (hc : c.isDigit = false)
    (hpoint : c ≠ '.') : Rfc3339.readFraction (fractionText nano ++ c :: cs) = some (nano, c :: cs) := by
  unfold fractionText
  by_cases hz : nano = 0
  · rw [if_pos hz, hz, List.nil_append, Rfc3339.readFraction]
    · exact fun _ heq => hpoint (List.cons.inj heq).1
  · rw [if_neg hz]
    have hdigits : ∀ d ∈ fractionDigits 9 nano, d.isDigit = true := fun d hd => isDigit_of_mem_fractionDigits hd
    have htake : (fractionDigits 9 nano ++ c :: cs).takeWhile Char.isDigit = fractionDigits 9 nano := by
      rw [List.takeWhile_append_of_pos hdigits, List.takeWhile_cons_of_neg (by simp [hc]), List.append_nil]
    have hdrop : (fractionDigits 9 nano ++ c :: cs).dropWhile Char.isDigit = c :: cs := by
      rw [List.dropWhile_append_of_pos hdigits, List.dropWhile_cons_of_neg (by simp [hc])]
    have hne : (fractionDigits 9 nano).isEmpty = false := by
      simpa using fractionDigits_ne_nil (by decide) h hz
    have hfull := fractionDigits_append_zeros (show 0 < 9 by decide) h
    have hlength := congrArg List.length hfull
    rw [length_paddedDigits (by decide) h, List.length_append, List.length_replicate] at hlength
    have hvalue : Rfc3339.fraction (fractionDigits 9 nano) = nano := by
      rw [Rfc3339.fraction, List.take_of_length_le (by omega), hfull, digitsValue_paddedDigits]
    rw [List.cons_append, Rfc3339.readFraction, htake, hdrop, hvalue, hne]
    rfl

/-! ## The whole text -/

/-- The characters of the text of a date-time that can be written. -/
theorem rfc3339?_of_writable {t : DateTime} (h : t.Writable) :
    t.rfc3339? = some (String.ofList
      (paddedDigits 4 t.fields.date.year.natAbs ++ '-' :: (paddedDigits 2 t.fields.date.month ++ '-' ::
        (paddedDigits 2 t.fields.date.day ++ 'T' :: (paddedDigits 2 t.fields.hour ++ ':' ::
          (paddedDigits 2 t.fields.minute ++ ':' :: (paddedDigits 2 t.fields.second ++
            (fractionText t.fields.nano ++ t.zone)))))))) := by
  have hcan := (writable_iff t).1 h
  rw [rfc3339?]
  dsimp only
  rw [if_pos hcan]
  simp only [fractionText, zone, List.append_assoc, List.cons_append]

/-- The text of a date-time is read back as that date-time. -/
theorem ofRfc3339?_rfc3339? {t : DateTime} {s : String} (h : t.rfc3339? = some s) : DateTime.ofRfc3339? s = some t := by
  have hw := writable_of_rfc3339? h
  rw [rfc3339?_of_writable hw] at h
  obtain rfl := Option.some.inj h
  obtain ⟨hhour, hminute, hsecond, hnano⟩ := Fields.ofNanos_bounds (t.nanos + t.offset * 1000000000)
  have hvalid := CalendarDay.isValid_ofDays ((t.nanos + t.offset * 1000000000) / 1000000000 / 86400)
  have hnanos := Fields.toNanos_ofNanos (t.nanos + t.offset * 1000000000)
  have hzone := readOffset_zone hw
  have hyear := hw.year
  obtain ⟨c, cs, hcons, hdigit, hpoint⟩ := exists_zone_cons t
  have hfields : t.fields = Fields.ofNanos (t.nanos + t.offset * 1000000000) := rfl
  have hdate : t.fields.date = CalendarDay.ofDays ((t.nanos + t.offset * 1000000000) / 1000000000 / 86400) := rfl
  rw [← hfields] at hhour hminute hsecond hnano hnanos
  rw [← hdate] at hvalid
  generalize t.fields = f at *
  obtain ⟨⟨year, month, day⟩, hour, minute, second, nano⟩ := f
  dsimp only at *
  have hmonth : month < 100 := by
    simp only [CalendarDay.isValid, Bool.and_eq_true, decide_eq_true_eq] at hvalid
    omega
  have hday : day < 100 := by
    simp only [CalendarDay.isValid, Bool.and_eq_true, decide_eq_true_eq, daysInMonth] at hvalid
    have hlast := hvalid.2
    split at hlast
    · split at hlast <;> omega
    · split at hlast <;> omega
  have hreadYear := fun rest => readDigits?_paddedDigits (by decide) (show year.natAbs < 10 ^ 4 by omega) rest
  have hreadHour := fun rest => readDigits?_paddedDigits (by decide) (show hour < 10 ^ 2 by omega) rest
  have hreadFraction : Rfc3339.readFraction (fractionText nano ++ t.zone) = some (nano, t.zone) := by
    rw [hcons]
    exact readFraction_append hnano hdigit hpoint
  have hsign : (year.natAbs : Int) = year := by omega
  have hrange : ¬ (128 ≤ 'T'.toNat ∨ (!true) = true ∨ 23 < hour ∨ 59 < minute ∨ 60 < second) := by
    have hseparator : ¬ 128 ≤ 'T'.toNat := by decide
    simp only [Bool.not_true, Bool.false_eq_true, false_or]
    omega
  have hleap : second ≠ 60 := by omega
  -- The reader is opened one part at a time: simplifying it whole goes into every later part again.
  rw [ofRfc3339?, String.toList_ofList, hreadYear]
  dsimp only [Option.bind_eq_bind]
  rw [Option.bind_some, field_append hmonth, Option.bind_some, field_append hday, Option.bind_some]
  dsimp only
  rw [Option.bind_some, hreadHour, Option.bind_some, field_append (show minute < 100 by omega), Option.bind_some,
    field_append (show second < 100 by omega), Option.bind_some, hreadFraction, Option.bind_some, hzone,
    Option.bind_some, hsign,
    hvalid, if_neg hrange]
  simp only [hleap, if_false, false_and]
  rw [hnanos, Int.add_sub_cancel]

end DateTime

end SqlMapper
