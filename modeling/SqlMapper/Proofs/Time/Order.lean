import SqlMapper.Proofs.Text.Order
import SqlMapper.Proofs.Time.Rfc3339

/-!
# The order of date-times

Days are in the order of their numbers, and the fields of a date-time in that of the local time. The RFC 3339 texts
of two date-times are therefore in the order of the local times that they show, to the second
(`DateTime.compare_text`). Within a second the fraction decides, and it is no longer than it has to be: at one
offset the texts are in the order of the instants except where a `Z` stands in the place of a further digit
(`DateTime.compare_text_iff`).
-/

namespace SqlMapper

namespace CalendarDay

/-! ## Days -/

/-- The days before a year that begins in March. -/
def daysBefore (year : Int) : Int := 365 * year + year / 4 - year / 100 + year / 400

/-- The days before a month of such a year, counted from March on. -/
def daysBeforeMonth (month : Int) : Int := (153 * month + 2) / 5

/-- The number of the first day of a month, where months are counted through the years. -/
def monthStart (month : Int) : Int := daysBefore (month / 12) + daysBeforeMonth (month % 12) - 719468

/-- The number of a day's month. -/
def monthNumber (d : CalendarDay) : Int := 12 * d.year + d.month - 3

/-- A day of the calendar lies in its month. -/
theorem isValid_iff (d : CalendarDay) : d.isValid = true ↔ (1 ≤ d.month ∧ d.month ≤ 12) ∧ (1 ≤ d.day ∧ d.day ≤ 31) ∧
    (d.month = 4 ∨ d.month = 6 ∨ d.month = 9 ∨ d.month = 11 → d.day ≤ 30) ∧
    (d.month = 2 → d.day ≤ 28 ∨ d.day = 29 ∧ d.year % 4 = 0 ∧ (d.year % 100 ≠ 0 ∨ d.year % 400 = 0)) := by
  simp only [isValid, daysInMonth, isLeapYear, Bool.and_eq_true, decide_eq_true_eq, Bool.or_eq_true,
    beq_iff_eq, bne_iff_ne]
  split
  · split <;> omega
  · split <;> omega

/-- The days of a month are numbered one after another. -/
theorem toDays_eq {d : CalendarDay} (h : d.isValid = true) : d.toDays = monthStart d.monthNumber + d.day - 1 := by
  obtain ⟨hmonth, -⟩ := (isValid_iff d).1 h
  unfold toDays monthStart monthNumber daysBefore daysBeforeMonth
  by_cases hearly : d.month ≤ 2
  · have hyear : (12 * d.year + d.month - 3) / 12 = d.year - 1 ∧ (12 * d.year + d.month - 3) % 12 = d.month + 9 := by
      omega
    simp only [if_pos hearly, hyear]
    omega
  · have hyear : (12 * d.year + d.month - 3) / 12 = d.year ∧ (12 * d.year + d.month - 3) % 12 = d.month - 3 := by omega
    simp only [if_neg hearly, hyear]
    omega

/-- The months but the last of the year, which is February, have 30 days or 31. -/
theorem daysBeforeMonth_succ {m : Int} (h0 : 0 ≤ m) (h : m ≤ 10) :
    daysBeforeMonth (m + 1) = daysBeforeMonth m + if m = 1 ∨ m = 3 ∨ m = 6 ∨ m = 8 then 30 else 31 := by
  interval_cases m <;> decide

/-- A day comes before the first of the next month. -/
theorem toDays_lt_monthStart {d : CalendarDay} (h : d.isValid = true) : d.toDays < monthStart (d.monthNumber + 1) := by
  obtain ⟨hmonth, hday, hthirty, hfebruary⟩ := (isValid_iff d).1 h
  rw [toDays_eq h]
  unfold monthStart monthNumber
  by_cases hlast : d.month = 2
  · have hyear : (12 * d.year + d.month - 3) / 12 = d.year - 1 ∧ (12 * d.year + d.month - 3) % 12 = 11 ∧
        (12 * d.year + d.month - 3 + 1) / 12 = d.year ∧ (12 * d.year + d.month - 3 + 1) % 12 = 0 := by omega
    have hleap := hfebruary hlast
    have hdays : daysBeforeMonth 11 = 337 ∧ daysBeforeMonth 0 = 0 := by decide
    rw [hyear.1, hyear.2.1, hyear.2.2.1, hyear.2.2.2, hdays.1, hdays.2]
    unfold daysBefore
    omega
  · have hnext : (12 * d.year + d.month - 3 + 1) / 12 = (12 * d.year + d.month - 3) / 12 ∧
        (12 * d.year + d.month - 3 + 1) % 12 = (12 * d.year + d.month - 3) % 12 + 1 := by omega
    have hsucc := daysBeforeMonth_succ (m := (12 * d.year + d.month - 3) % 12) (by omega) (by omega)
    rw [hnext.1, hnext.2, hsucc]
    split <;> omega

theorem monthStart_mono {m n : Int} (h : m ≤ n) : monthStart m ≤ monthStart n := by
  unfold monthStart
  rcases Int.lt_or_eq_of_le (Int.ediv_le_ediv (by decide : (0 : Int) < 12) h) with hlt | heq
  · have hyear : daysBefore (m / 12) + 365 ≤ daysBefore (n / 12) := by
      unfold daysBefore
      omega
    unfold daysBeforeMonth
    omega
  · rw [heq]
    unfold daysBeforeMonth
    omega

/-- Days of the calendar are in the order of their numbers. -/
theorem compare_toDays {d e : CalendarDay} (hd : d.isValid = true) (he : e.isValid = true) :
    compare d.toDays e.toDays =
      (compare d.year e.year).then ((compare d.month e.month).then (compare d.day e.day)) := by
  obtain ⟨hmonth, hday, -⟩ := (isValid_iff d).1 hd
  obtain ⟨hmonth', hday', -⟩ := (isValid_iff e).1 he
  have hfirst : (compare d.year e.year).then (compare d.month e.month) = compare d.monthNumber e.monthNumber := by
    unfold monthNumber
    rcases Int.lt_trichotomy d.year e.year with hlt | heq | hgt
    · rw [Int.compare_eq_lt.2 hlt, Int.compare_eq_lt.2 (by omega)]
      rfl
    · rw [heq, Std.compare_self, Ordering.eq_then]
      refine compareOfLessAndEq_congr ?_ ?_ <;> omega
    · rw [Int.compare_eq_gt.2 hgt, Int.compare_eq_gt.2 (by omega)]
      rfl
  have hless : ∀ {d e : CalendarDay}, d.isValid = true → e.isValid = true → d.monthNumber < e.monthNumber →
      d.toDays < e.toDays := by
    intro d e hd he h
    obtain ⟨-, hday, -⟩ := (isValid_iff e).1 he
    have hbefore := toDays_lt_monthStart hd
    have hmono := monthStart_mono (Int.add_one_le_of_lt h)
    rw [toDays_eq he]
    omega
  rw [← Ordering.then_assoc, hfirst]
  rcases Int.lt_trichotomy d.monthNumber e.monthNumber with hlt | heq | hgt
  · rw [Int.compare_eq_lt.2 hlt, Int.compare_eq_lt.2 (hless hd he hlt)]
    rfl
  · rw [heq, Std.compare_self, toDays_eq hd, toDays_eq he, heq, Ordering.eq_then]
    refine compareOfLessAndEq_congr ?_ ?_ <;> omega
  · rw [Int.compare_eq_gt.2 hgt, Int.compare_eq_gt.2 (hless he hd hgt)]
    rfl

end CalendarDay

namespace DateTime

/-! ## The local time -/

/-- The seconds of the time that a date-time shows at its offset. -/
def localSecond (t : DateTime) : Int := t.nanos / 1000000000 + t.offset

/-- The characters of a date-time's text before the fraction. -/
def secondText (t : DateTime) : List Char :=
  paddedDigits 4 t.fields.date.year.natAbs ++ '-' :: (paddedDigits 2 t.fields.date.month ++ '-' ::
    (paddedDigits 2 t.fields.date.day ++ 'T' :: (paddedDigits 2 t.fields.hour ++ ':' ::
      (paddedDigits 2 t.fields.minute ++ ':' :: paddedDigits 2 t.fields.second))))

/-- The nanoseconds within the second. -/
def subsecond (t : DateTime) : Nat := (t.nanos % 1000000000).toNat

/-- The text of a date-time is the time to the second, then the fraction, then the offset. -/
theorem rfc3339?_eq {t : DateTime} {s : String} (h : t.rfc3339? = some s) :
    t.Writable ∧ s.toList = t.secondText ++ (fractionText t.subsecond ++ t.zone) := by
  have hw := writable_of_rfc3339? h
  rw [rfc3339?_of_writable hw] at h
  obtain rfl := Option.some.inj h
  have hnano : t.fields.nano = t.subsecond := by
    simp only [fields, Fields.ofNanos, subsecond]
    omega
  refine ⟨hw, ?_⟩
  rw [String.toList_ofList, hnano]
  simp only [secondText, List.append_assoc, List.cons_append]

/-- The date that is shown is in the calendar. -/
theorem isValid_date (t : DateTime) : t.fields.date.isValid = true := CalendarDay.isValid_ofDays _

/-- Times are in the order of their fields. -/
theorem compare_localSecond (s t : DateTime) :
    compare s.localSecond t.localSecond = (compare s.fields.date.toDays t.fields.date.toDays).then
      ((compare s.fields.hour t.fields.hour).then
        ((compare s.fields.minute t.fields.minute).then (compare s.fields.second t.fields.second))) := by
  have hseconds : ∀ t : DateTime, (t.nanos + t.offset * 1000000000) / 1000000000 = t.localSecond := by
    intro t
    unfold localSecond
    omega
  simp only [fields, Fields.ofNanos, hseconds, CalendarDay.toDays_ofDays]
  generalize s.localSecond = m
  generalize t.localSecond = n
  have hofDay : ∀ n : Int, n % 86400 = ((n % 86400).toNat : Int) := by omega
  have hhour : ∀ n : Nat, n / 60 / 60 = n / 3600 := by omega
  rw [compare_divMod (by decide : (0 : Int) < 86400) m n, hofDay m, hofDay n, compare_natCast]
  rw [compare_divMod_nat (by decide : 0 < 60) (m % 86400).toNat,
    compare_divMod_nat (by decide : 0 < 60) ((m % 86400).toNat / 60), hhour, hhour, Ordering.then_assoc]
  rfl

/-- A number, and a separator after it. -/
theorem compare_field {width m n : Nat} (hw : 0 < width) (hm : m < 10 ^ width) (hn : n < 10 ^ width) (separator : Char)
    (as bs : List Char) : compare (paddedDigits width m ++ separator :: as) (paddedDigits width n ++ separator :: bs) =
      (compare m n).then (compare as bs) := by
  rw [compare_append (by rw [length_paddedDigits hw hm, length_paddedDigits hw hn]), compare_paddedDigits hw hm hn,
    List.compare_cons_cons, Std.compare_self, Ordering.eq_then]

/-- The fields of a date-time that can be written have the widths that they are written with. -/
theorem fields_lt {t : DateTime} (h : t.Writable) :
    t.fields.date.year.natAbs < 10 ^ 4 ∧ t.fields.date.month < 10 ^ 2 ∧ t.fields.date.day < 10 ^ 2 ∧
      t.fields.hour < 10 ^ 2 ∧ t.fields.minute < 10 ^ 2 ∧ t.fields.second < 10 ^ 2 := by
  obtain ⟨hmonth, hday, -⟩ := (CalendarDay.isValid_iff _).1 t.isValid_date
  obtain ⟨hhour, hminute, hsecond, -⟩ := Fields.ofNanos_bounds (t.nanos + t.offset * 1000000000)
  have hfields : t.fields = Fields.ofNanos (t.nanos + t.offset * 1000000000) := rfl
  have hyear := h.year
  rw [← hfields] at hhour hminute hsecond
  omega

theorem length_secondText {t : DateTime} (h : t.Writable) : t.secondText.length = 19 := by
  obtain ⟨hyear, hmonth, hday, hhour, hminute, hsecond⟩ := fields_lt h
  simp [secondText, length_paddedDigits, hyear, hmonth, hday, hhour, hminute, hsecond]

/-- The texts up to the second are in the order of the local time. -/
theorem compare_secondText {s t : DateTime} (hs : s.Writable) (ht : t.Writable) :
    compare s.secondText t.secondText = compare s.localSecond t.localSecond := by
  obtain ⟨hyear, hmonth, hday, hhour, hminute, hsecond⟩ := fields_lt hs
  obtain ⟨hyear', hmonth', hday', hhour', hminute', hsecond'⟩ := fields_lt ht
  have htwo : 0 < 2 := by decide
  have hnatAbs : compare s.fields.date.year.natAbs t.fields.date.year.natAbs =
      compare s.fields.date.year t.fields.date.year := by
    have hs := hs.year
    have ht := ht.year
    refine compareOfLessAndEq_congr ?_ ?_ <;> omega
  rw [compare_localSecond, CalendarDay.compare_toDays s.isValid_date t.isValid_date, secondText, secondText,
    compare_field (by decide) hyear hyear', compare_field htwo hmonth hmonth', compare_field htwo hday hday',
    compare_field htwo hhour hhour', compare_field htwo hminute hminute',
      compare_paddedDigits htwo hsecond hsecond', hnatAbs,
    Ordering.then_assoc, Ordering.then_assoc]

/-! ## Fractions -/

theorem mem_fractionText {n : Nat} {c : Char} (h : c ∈ fractionText n) : c = '.' ∨ c.isDigit = true := by
  unfold fractionText at h
  split at h
  · cases h
  · rcases List.mem_cons.1 h with rfl | h
    · exact .inl rfl
    · exact .inr (isDigit_of_mem_fractionDigits h)

/-- The character after a fraction comes before all that a fraction is written with, or after, which only a `Z` does. -/
theorem compare_zone (t : DateTime) : ∃ c rest, t.zone = c :: rest ∧
    ∀ d : Char, d = '.' ∨ d.isDigit = true → compare c d = if t.offset = 0 then .gt else .lt := by
  have hcode : ∀ d : Char, d = '.' ∨ d.isDigit = true → 46 ≤ d.toNat ∧ d.toNat ≤ 57 := by
    rintro d (rfl | h)
    · decide
    · have hlow : 48 ≤ d.toNat := (Char.isDigit_iff_toNat.1 h).1
      have hhigh : d.toNat ≤ 57 := (Char.isDigit_iff_toNat.1 h).2
      omega
  unfold zone
  by_cases hz : t.offset = 0
  · refine ⟨'Z', [], if_pos hz, fun d hd => ?_⟩
    rw [if_pos hz, compare_char, Nat.compare_eq_gt]
    have hz : 'Z'.toNat = 90 := rfl
    have := hcode d hd
    omega
  · refine ⟨_, _, if_neg hz, fun d hd => ?_⟩
    rw [if_neg hz, compare_char, Nat.compare_eq_lt]
    have hsign : (if t.offset < 0 then '-' else '+').toNat ≤ 45 := by split <;> decide
    have := hcode d hd
    omega

/-- Zeros come before other digits. -/
theorem compare_zeros_ne_gt {ds : List Char} (h : ∀ c ∈ ds, c.isDigit = true) :
    compare (List.replicate ds.length '0') ds ≠ .gt := by
  have hzero := digitsValue_zeros_append ds.length []
  rw [List.append_nil] at hzero
  rw [compare_digits (fun c hc => by rw [(List.mem_replicate.1 hc).2]; rfl) h List.length_replicate, hzero]
  exact Nat.compare_ne_gt.2 (Nat.zero_le _)

/-- The fraction of a number that is not zero, and its nine digits: zeros are missing at the end. -/
theorem exists_fractionText {n : Nat} (h : n < 1000000000) (hn : n ≠ 0) :
    ∃ ds count, fractionText n = '.' :: ds ∧ paddedDigits 9 n = ds ++ List.replicate count '0' :=
  ⟨_, _, if_neg hn, (fractionDigits_append_zeros (by decide) h).symm⟩

/-- A fraction that begins another one is less. -/
theorem lt_of_fractionText_begins {m n : Nat} (hm : m < 1000000000) (hn : n < 1000000000)
    (h : fractionText m <+: fractionText n) (hne : m ≠ n) : m < n := by
  by_cases hzero : m = 0
  · omega
  · obtain ⟨ds, count, htext, hfull⟩ := exists_fractionText hm hzero
    have hzero' : n ≠ 0 := by
      rintro rfl
      rw [htext] at h
      cases List.prefix_nil.1 h
    obtain ⟨es, count', htext', hfull'⟩ := exists_fractionText hn hzero'
    rw [htext, htext', List.cons_prefix_cons] at h
    obtain ⟨rest, rfl⟩ := h.2
    rw [List.append_assoc] at hfull'
    have hlength : (paddedDigits 9 m).length = (paddedDigits 9 n).length := by
      rw [length_paddedDigits (by decide) hm, length_paddedDigits (by decide) hn]
    have hdigits : ∀ c ∈ rest ++ List.replicate count' '0', c.isDigit = true := by
      intro c hc
      have hmem : c ∈ paddedDigits 9 n := by
        rw [hfull']
        exact List.mem_append_right _ hc
      exact isDigit_of_mem_paddedDigits hmem
    have horder := compare_zeros_ne_gt hdigits
    rw [hfull, hfull', List.length_append, List.length_append, List.length_replicate,
      Nat.add_left_cancel_iff] at hlength
    rw [← hlength, ← compare_append_left ds, ← hfull, ← hfull', compare_paddedDigits (by decide) hm hn,
      Nat.compare_ne_gt] at horder
    omega

/-- Two lists, neither of which begins the other, differ at a place. -/
theorem exists_divergence {as bs : List Char} (ha : ¬as <+: bs) (hb : ¬bs <+: as) :
    ∃ front a b as' bs', as = front ++ a :: as' ∧ bs = front ++ b :: bs' ∧ a ≠ b := by
  induction as generalizing bs with
  | nil => exact absurd List.nil_prefix ha
  | cons a as ih =>
    cases bs with
    | nil => exact absurd List.nil_prefix hb
    | cons b bs =>
      by_cases hab : a = b
      · subst hab
        rw [List.cons_prefix_cons] at ha hb
        obtain ⟨front, c, d, as', bs', rfl, rfl, hne⟩ := ih (fun h => ha ⟨rfl, h⟩) fun h => hb ⟨rfl, h⟩
        exact ⟨a :: front, c, d, as', bs', rfl, rfl, hne⟩
      · exact ⟨[], a, b, as, bs, rfl, rfl, hab⟩

/-- Where they differ decides. -/
theorem compare_divergence (front as bs : List Char) {a b : Char} (h : a ≠ b) :
    compare (front ++ a :: as) (front ++ b :: bs) = compare a b := by
  rw [compare_append_left, List.compare_cons_cons]
  cases hab : compare a b with
  | eq => exact absurd (Std.LawfulEqOrd.eq_of_compare hab) h
  | _ => rfl

/-- Fractions that do not begin one another are in the order of their digits. -/
theorem compare_fractionText_apart {m n : Nat} (hm : m < 1000000000) (hn : n < 1000000000)
    (hmn : ¬fractionText m <+: fractionText n) (hnm : ¬fractionText n <+: fractionText m) (as bs : List Char) :
    compare (fractionText m ++ as) (fractionText n ++ bs) = compare m n := by
  have hzero : m ≠ 0 := fun h => hmn (by rw [h]; exact List.nil_prefix)
  have hzero' : n ≠ 0 := fun h => hnm (by rw [h]; exact List.nil_prefix)
  obtain ⟨ds, count, htext, hfull⟩ := exists_fractionText hm hzero
  obtain ⟨es, count', htext', hfull'⟩ := exists_fractionText hn hzero'
  rw [htext, htext', List.cons_prefix_cons] at hmn hnm
  obtain ⟨front, c, d, ds', es', rfl, rfl, hcd⟩ := exists_divergence (fun h => hmn ⟨rfl, h⟩) fun h => hnm ⟨rfl, h⟩
  have horder : compare (paddedDigits 9 m) (paddedDigits 9 n) = compare m n := compare_paddedDigits (by decide) hm hn
  rw [hfull, hfull', List.append_assoc, List.append_assoc, List.cons_append, List.cons_append,
    compare_divergence _ _ _ hcd] at horder
  rw [htext, htext', List.cons_append, List.cons_append, List.compare_cons_cons, Std.compare_self, Ordering.eq_then,
    List.append_assoc, List.append_assoc, List.cons_append, List.cons_append, compare_divergence _ _ _ hcd, horder]

/-- After a fraction that begins another one the offset decides. -/
theorem compare_fractionText_begins {m n : Nat} (hm : m < 1000000000) (hn : n < 1000000000)
    (h : fractionText m <+: fractionText n) (hne : m ≠ n) (t : DateTime) (bs : List Char) :
    compare (fractionText m ++ t.zone) (fractionText n ++ bs) = if t.offset = 0 then .gt else .lt := by
  have hless := lt_of_fractionText_begins hm hn h hne
  obtain ⟨more, hmore⟩ := h
  cases more with
  | nil =>
    rw [List.append_nil] at hmore
    have hgreater := lt_of_fractionText_begins hn hm (hmore ▸ List.prefix_rfl) hne.symm
    omega
  | cons d more =>
    obtain ⟨c, rest, hzone, hc⟩ := compare_zone t
    have hd : d ∈ fractionText n := by
      rw [← hmore]
      exact List.mem_append_right _ List.mem_cons_self
    rw [← hmore, hzone, List.append_assoc, List.cons_append, compare_append_left, List.compare_cons_cons,
      hc d (mem_fractionText hd)]
    split <;> rfl

/-- Such fractions are in the order of the numbers unless the offset is zero: a `Z` comes after all digits, a sign
before. -/
theorem compare_fractionText_begins_iff {m n : Nat} (hm : m < 1000000000) (hn : n < 1000000000)
    (h : fractionText m <+: fractionText n) (hne : m ≠ n) (t : DateTime) (bs : List Char) :
    compare (fractionText m ++ t.zone) (fractionText n ++ bs) = compare m n ↔ t.offset ≠ 0 := by
  rw [compare_fractionText_begins hm hn h hne, Nat.compare_eq_lt.2 (lt_of_fractionText_begins hm hn h hne)]
  by_cases hutc : t.offset = 0
  · rw [if_pos hutc]
    exact iff_of_false nofun (not_not_intro hutc)
  · rw [if_neg hutc]
    exact iff_of_true rfl hutc

theorem subsecond_lt (t : DateTime) : t.subsecond < 1000000000 := by
  unfold subsecond
  omega

/-- Fractions and what follows them are in the order of the fractions, except in UTC where one of them begins the
other. -/
theorem compare_fractionText_zone_iff {s t : DateTime} (h : s.offset = t.offset) (hne : s.subsecond ≠ t.subsecond) :
    compare (fractionText s.subsecond ++ s.zone) (fractionText t.subsecond ++ t.zone) =
      compare s.subsecond t.subsecond ↔
      ¬(s.offset = 0 ∧
        (fractionText s.subsecond <+: fractionText t.subsecond ∨
          fractionText t.subsecond <+: fractionText s.subsecond)) := by
  by_cases hst : fractionText s.subsecond <+: fractionText t.subsecond
  · rw [compare_fractionText_begins_iff s.subsecond_lt t.subsecond_lt hst hne]
    simp only [hst, true_or, and_true]
  · by_cases hts : fractionText t.subsecond <+: fractionText s.subsecond
    · rw [Std.OrientedOrd.eq_swap, Std.OrientedOrd.eq_swap (a := s.subsecond), Ordering.swap_inj,
        compare_fractionText_begins_iff t.subsecond_lt s.subsecond_lt hts hne.symm, h]
      simp only [hts, or_true, and_true]
    · rw [compare_fractionText_apart s.subsecond_lt t.subsecond_lt hst hts]
      exact iff_of_true rfl fun hbegins => hbegins.2.elim hst hts

/-! ## Texts -/

/-- Texts are in the order of the local times to the second, and within a second in that of what follows. -/
theorem compare_text {s t : DateTime} {a b : String} (ha : s.rfc3339? = some a) (hb : t.rfc3339? = some b) :
    compare a b = (compare s.localSecond t.localSecond).then
      (compare (fractionText s.subsecond ++ s.zone) (fractionText t.subsecond ++ t.zone)) := by
  obtain ⟨hs, htext⟩ := rfc3339?_eq ha
  obtain ⟨ht, htext'⟩ := rfc3339?_eq hb
  rw [compare_toList, htext, htext', compare_append (by rw [length_secondText hs, length_secondText ht]),
    compare_secondText hs ht]

/-- Two date-times of one second in UTC whose fractions differ, but only in that one of them goes on: the other is
cut short by the `Z`, which comes after all digits. -/
structure CutShort (s t : DateTime) : Prop where
  utc : s.offset = 0 ∧ t.offset = 0
  second : s.localSecond = t.localSecond
  differ : s.subsecond ≠ t.subsecond
  begins : fractionText s.subsecond <+: fractionText t.subsecond ∨ fractionText t.subsecond <+: fractionText s.subsecond

/-- Instants are in the order of their seconds, then of the nanoseconds within the second. -/
theorem compare_nanos {s t : DateTime} (h : s.offset = t.offset) :
    compare s.nanos t.nanos = (compare s.localSecond t.localSecond).then (compare s.subsecond t.subsecond) := by
  have hsecond : compare s.localSecond t.localSecond = compare (s.nanos / 1000000000) (t.nanos / 1000000000) := by
    unfold localSecond
    refine compareOfLessAndEq_congr ?_ ?_ <;> omega
  have hsubsecond : ∀ t : DateTime, t.nanos % 1000000000 = (t.subsecond : Int) := by
    intro t
    unfold subsecond
    omega
  rw [hsecond, compare_divMod (by decide : (0 : Int) < 1000000000) s.nanos, hsubsecond, hsubsecond, compare_natCast]

theorem zone_congr {s t : DateTime} (h : s.offset = t.offset) : s.zone = t.zone := by
  simp only [zone, offsetParts, h]

/-- At one offset texts are in the order of the instants, except where a fraction is cut short. -/
theorem compare_text_iff {s t : DateTime} {a b : String} (ha : s.rfc3339? = some a) (hb : t.rfc3339? = some b)
    (h : s.offset = t.offset) : compare a b = compare s.nanos t.nanos ↔ ¬CutShort s t := by
  rw [compare_text ha hb, compare_nanos h]
  by_cases hsecond : s.localSecond = t.localSecond
  · rw [hsecond, Std.compare_self, Ordering.eq_then, Ordering.eq_then]
    by_cases hsub : s.subsecond = t.subsecond
    · rw [hsub, zone_congr h, Std.compare_self, Std.compare_self]
      exact iff_of_true rfl fun hcut => hcut.differ hsub
    · rw [compare_fractionText_zone_iff h hsub]
      refine not_congr ⟨fun ⟨hutc, hbegins⟩ => ⟨⟨hutc, h ▸ hutc⟩, hsecond, hsub, hbegins⟩, fun hcut => ?_⟩
      exact ⟨hcut.utc.1, hcut.begins⟩
  · have hne : compare s.localSecond t.localSecond ≠ .eq := fun heq => hsecond (Std.LawfulEqOrd.eq_of_compare heq)
    refine iff_of_true ?_ fun hcut => hsecond hcut.second
    cases hcompare : compare s.localSecond t.localSecond with
    | eq => exact absurd hcompare hne
    | _ => rfl

end DateTime

end SqlMapper
