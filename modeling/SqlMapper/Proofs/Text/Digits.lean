import SqlMapper.Number.Power
import SqlMapper.Text.Digits

/-!
# Digits read back

A number that fits is padded to exactly the width asked for, and as many digits are read back as that number. A
fraction without the zeros at its end is the same fraction.
-/

namespace SqlMapper

/-- The value of a digit is its distance from zero. -/
theorem digitValue?_of_isDigit {c : Char} (h : c.isDigit = true) : digitValue? c = some (c.toNat - 48) := by
  simp only [Char.isDigit, Bool.and_eq_true, decide_eq_true_eq] at h
  exact if_pos h

/-- The digits of a number have its value. -/
theorem digitsValue_toDigits (n : Nat) : digitsValue (Nat.toDigits 10 n) = n := by
  have h := Nat.ofDigitChars_ten_toDigits (n := n)
  simp only [Nat.ofDigitChars_eq_foldl, Nat.mul_comm 10] at h
  exact h

/-- Zeros in front count for nothing. -/
theorem digitsValue_zeros_append (count : Nat) (ds : List Char) :
    digitsValue (List.replicate count '0' ++ ds) = digitsValue ds := by
  induction count with
  | zero => rfl
  | succ count ih => exact ih

/-! ## Numbers of a width -/

theorem isDigit_of_mem_paddedDigits {width n : Nat} {c : Char} (h : c ∈ paddedDigits width n) : c.isDigit = true := by
  rcases List.mem_append.1 h with h | h
  · rw [(List.mem_replicate.1 h).2]
    rfl
  · exact Nat.isDigit_of_mem_toDigits (by decide) (by decide) h

/-- So they have with zeros in front. -/
theorem digitsValue_paddedDigits (width n : Nat) : digitsValue (paddedDigits width n) = n := by
  rw [paddedDigits, digitsValue_zeros_append, digitsValue_toDigits]

/-- A number that fits takes exactly the width. -/
theorem length_paddedDigits {width n : Nat} (hw : 0 < width) (h : n < 10 ^ width) :
    (paddedDigits width n).length = width := by
  have hlength := (Nat.length_toDigits_le_iff (by decide) hw).2 h
  rw [paddedDigits, List.length_append, List.length_replicate]
  omega

/-- Digits are read one after another. -/
theorem readDigits?_append {ds : List Char} (h : ∀ c ∈ ds, c.isDigit = true) (value : Nat) (rest : List Char) :
    readDigits? ds.length value (ds ++ rest) = some (ds.foldl (fun n c => n * 10 + (c.toNat - 48)) value, rest) := by
  induction ds generalizing value with
  | nil => rfl
  | cons c ds ih =>
    have hc := digitValue?_of_isDigit (h c List.mem_cons_self)
    have hds := fun d hd => h d (List.mem_cons_of_mem _ hd)
    rw [List.length_cons, List.cons_append, readDigits?, hc]
    exact ih hds _

/-- A number that fits is read back from the digits of its width, whatever follows them. -/
theorem readDigits?_paddedDigits {width n : Nat} (hw : 0 < width) (h : n < 10 ^ width) (rest : List Char) :
    readDigits? width 0 (paddedDigits width n ++ rest) = some (n, rest) := by
  have hdigits : ∀ c ∈ paddedDigits width n, c.isDigit = true := fun _ hc => isDigit_of_mem_paddedDigits hc
  have hread := readDigits?_append hdigits 0 rest
  have hvalue : (paddedDigits width n).foldl (fun n c => n * 10 + (c.toNat - 48)) 0 = n :=
    digitsValue_paddedDigits width n
  rwa [length_paddedDigits hw h, hvalue] at hread

/-! ## Fractions -/

/-- What is dropped at the end of a list are the items dropped, as many as are missing. -/
theorem append_replicate_of_dropWhile {α : Type} [BEq α] [LawfulBEq α] (a : α) (xs : List α) :
    (xs.reverse.dropWhile (· == a)).reverse ++
      List.replicate (xs.length - (xs.reverse.dropWhile (· == a)).reverse.length) a = xs := by
  have hsplit := List.takeWhile_append_dropWhile (p := (· == a)) (l := xs.reverse)
  have hlength := congrArg List.length hsplit
  rw [List.length_append, List.length_reverse] at hlength
  have htaken : xs.reverse.takeWhile (· == a) = List.replicate (xs.reverse.takeWhile (· == a)).length a := by
    refine List.eq_replicate_iff.2 ⟨rfl, ?_⟩
    intro b hb
    exact eq_of_beq (List.all_eq_true.1 List.all_takeWhile b hb)
  have hcount : xs.length - (xs.reverse.dropWhile (· == a)).reverse.length =
      (xs.reverse.takeWhile (· == a)).length := by
    rw [List.length_reverse]
    omega
  rw [hcount]
  have hreverse := congrArg List.reverse hsplit
  rw [List.reverse_append, List.reverse_reverse, htaken, List.reverse_replicate] at hreverse
  simpa using hreverse

theorem isDigit_of_mem_fractionDigits {places n : Nat} {c : Char} (h : c ∈ fractionDigits places n) :
    c.isDigit = true := by
  rw [fractionDigits, List.mem_reverse] at h
  have hmem := (List.dropWhile_sublist _).subset h
  exact isDigit_of_mem_paddedDigits (List.mem_reverse.1 hmem)

/-- With the zeros that were dropped it is the number of that many places. -/
theorem fractionDigits_append_zeros {places n : Nat} (hp : 0 < places) (h : n < 10 ^ places) :
    fractionDigits places n ++ List.replicate (places - (fractionDigits places n).length) '0' =
      paddedDigits places n := by
  have happend := append_replicate_of_dropWhile '0' (paddedDigits places n)
  rwa [length_paddedDigits hp h] at happend

/-- A fraction that is not zero has digits. -/
theorem fractionDigits_ne_nil {places n : Nat} (hp : 0 < places) (h : n < 10 ^ places) (hn : n ≠ 0) :
    fractionDigits places n ≠ [] := by
  intro hnil
  have happend := fractionDigits_append_zeros hp h
  have hvalue := digitsValue_paddedDigits places n
  rw [← happend, hnil, List.nil_append, ← List.append_nil (List.replicate _ _), digitsValue_zeros_append] at hvalue
  exact hn hvalue.symm

end SqlMapper
