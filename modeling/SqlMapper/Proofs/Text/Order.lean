import Mathlib.Data.List.Induction
import Mathlib.Tactic.IntervalCases
import SqlMapper.Engine.Order
import SqlMapper.Proofs.Text.Digits

/-!
# The order of texts

Texts are stored as their bytes and compared byte by byte; that is the order of their characters
(`compareBytes_textBytes`). Numbers of one width are in the order of their digits, and bytes in that of their
hexadecimal digits.
-/

namespace SqlMapper

/-! ## Lists -/

section Lists

variable {α : Type} [Ord α]

/-- What follows two lists of one length counts only if they are equal. -/
theorem compare_append {as bs : List α} (h : as.length = bs.length) (cs ds : List α) :
    compare (as ++ cs) (bs ++ ds) = (compare as bs).then (compare cs ds) := by
  induction as generalizing bs with
  | nil =>
    obtain rfl := List.length_eq_zero_iff.1 h.symm
    rfl
  | cons a as ih =>
    cases bs with
    | nil => cases h
    | cons b bs =>
      rw [List.cons_append, List.cons_append, List.compare_cons_cons, List.compare_cons_cons, ih (Nat.succ.inj h),
        Ordering.then_assoc]

/-- A beginning that is the same counts for nothing. -/
theorem compare_append_left [Std.ReflOrd α] (as cs ds : List α) : compare (as ++ cs) (as ++ ds) = compare cs ds := by
  rw [compare_append rfl, Std.compare_self]
  rfl

end Lists

/-! ## Numbers, characters and bytes -/

/-- A comparison tells no more than which is less and whether both are equal. -/
theorem compareOfLessAndEq_congr
    {α β : Type} [LT α] [DecidableLT α] [DecidableEq α] [LT β] [DecidableLT β] [DecidableEq β] {a b : α} {c d : β}
    (hlt : a < b ↔ c < d) (heq : a = b ↔ c = d) : compareOfLessAndEq a b = compareOfLessAndEq c d := by
  simp only [compareOfLessAndEq, hlt, heq]

/-- Natural numbers compare as integers do. -/
theorem compare_natCast (m n : Nat) : compare (m : Int) (n : Int) = compare m n :=
  compareOfLessAndEq_congr Int.ofNat_lt Int.natCast_inj

/-- A summand on both sides counts for nothing. -/
theorem compare_add_right (k m n : Nat) : compare (m + k) (n + k) = compare m n :=
  compareOfLessAndEq_congr Nat.add_lt_add_iff_right Nat.add_right_cancel_iff

/-- Characters compare as their codes. -/
theorem compare_char (c d : Char) : compare c d = compare c.toNat d.toNat :=
  compareOfLessAndEq_congr (Char.lt_def.trans UInt32.lt_iff_toNat_lt) Char.toNat_inj.symm

/-- Of two numbers the multiples of a base decide before the remainders. -/
theorem compare_divMod {base : Int} (h : 0 < base) (a b : Int) :
    compare a b = (compare (a / base) (b / base)).then (compare (a % base) (b % base)) := by
  have ha := Int.mul_ediv_add_emod a base
  have hb := Int.mul_ediv_add_emod b base
  rcases Int.lt_trichotomy (a / base) (b / base) with hlt | heq | hgt
  · have hless : a < b := Int.not_le.1 fun hle => Int.not_lt.2 (Int.ediv_le_ediv h hle) hlt
    rw [Int.compare_eq_lt.2 hless, Int.compare_eq_lt.2 hlt]
    rfl
  · rw [heq, Std.compare_self]
    rw [heq] at ha
    refine compareOfLessAndEq_congr ?_ ?_ <;> omega
  · have hless : b < a := Int.not_le.1 fun hle => Int.not_lt.2 (Int.ediv_le_ediv h hle) hgt
    rw [Int.compare_eq_gt.2 hless, Int.compare_eq_gt.2 hgt]
    rfl

theorem compare_divMod_nat {base : Nat} (h : 0 < base) (m n : Nat) :
    compare m n = (compare (m / base) (n / base)).then (compare (m % base) (n % base)) := by
  have hcast := compare_divMod (Int.natCast_pos.2 h) m n
  simpa only [← Int.natCast_ediv, ← Int.natCast_emod, compare_natCast] using hcast

/-- Bytes are compared as lists. -/
theorem compareBytes_eq_compare (as bs : List UInt8) : compareBytes as bs = compare as bs := by
  induction as generalizing bs with
  | nil => cases bs <;> rfl
  | cons a as ih =>
    cases bs with
    | nil => rfl
    | cons b bs => rw [compareBytes, List.compare_cons_cons, ih, UInt8.compare_eq_toNat_compare_toNat]

/-! ## Texts -/

/-- Lists of characters are compared as they are ordered. -/
theorem compare_chars (as bs : List Char) : compare as bs = compareOfLessAndEq as bs := by
  induction as generalizing bs with
  | nil =>
    cases bs with
    | nil => rfl
    | cons b bs => simp [compareOfLessAndEq, show compare ([] : List Char) (b :: bs) = .lt from rfl]
  | cons a as ih =>
    cases bs with
    | nil => simp [compareOfLessAndEq, show compare (a :: as) ([] : List Char) = .gt from rfl]
    | cons b bs =>
      rw [List.compare_cons_cons, ih]
      have hab : compare a b = compareOfLessAndEq a b := rfl
      rw [hab]
      simp only [compareOfLessAndEq, List.cons_lt_cons_iff, List.cons.injEq]
      by_cases hlt : a < b
      · simp [hlt]
      · by_cases heq : a = b
        · simp [heq]
        · simp [hlt, heq]

/-- Texts are compared character by character. -/
theorem compare_toList (s t : String) : compare s t = compare s.toList t.toList := by
  rw [compare_chars]
  exact compareOfLessAndEq_congr String.lt_iff String.toList_inj.symm

/-! ## Bytes of texts -/

/-- The last bytes of a character in UTF-8: digits of base 64 behind a mark. -/
def utf8Tail : Nat → Nat → List UInt8
  | 0, _ => []
  | count + 1, v => utf8Tail count (v / 64) ++ [UInt8.ofNat (v % 64 + 128)]

/-- The mark of a first byte with so many after it. -/
def utf8Mark : Nat → Nat
  | 0 => 0
  | 1 => 192
  | 2 => 224
  | _ => 240

/-- The end of the characters that take so many bytes after the first. -/
def utf8End : Nat → Nat
  | 0 => 0x80
  | 1 => 0x800
  | 2 => 0x10000
  | _ => 0x200000

/-- A character takes as few bytes as it can. -/
theorem utf8EncodeChar_eq (c : Char) :
    ∃ count < 4, String.utf8EncodeChar c = UInt8.ofNat (c.toNat / 64 ^ count + utf8Mark count) ::
      utf8Tail count c.toNat ∧ c.toNat < utf8End count ∧ ∀ fewer < count, utf8End fewer ≤ c.toNat := by
  have hval : c.val.toNat = c.toNat := rfl
  have hc : c.toNat < 0x200000 := by
    rcases c.valid with h | ⟨-, h⟩ <;> omega
  unfold String.utf8EncodeChar
  rw [hval]
  generalize c.toNat = v at hc
  dsimp only
  split
  · exact ⟨0, by decide, by simp [utf8Mark, utf8Tail], by simp only [utf8End]; omega, nofun⟩
  · split
    · have hlead : v / 64 % 32 = v / 64 := by omega
      refine ⟨1, by decide, by simp [utf8Mark, utf8Tail, hlead], by simp only [utf8End]; omega, fun fewer hfewer => ?_⟩
      interval_cases fewer
      simp only [utf8End]
      omega
    · split
      · have hlead : v / 4096 % 16 = v / 4096 := by omega
        refine ⟨2, by decide, by simp [utf8Mark, utf8Tail, hlead], by simp only [utf8End]; omega,
          fun fewer hfewer => ?_⟩
        interval_cases fewer <;> simp only [utf8End] <;> omega
      · have hlead : v / 262144 % 8 = v / 262144 := by omega
        have hmiddle : v / 64 / 64 = v / 4096 := by omega
        refine ⟨3, by decide, by simp [utf8Mark, utf8Tail, hlead, hmiddle], hc, fun fewer hfewer => ?_⟩
        interval_cases fewer <;> simp only [utf8End] <;> omega

/-- A character has as many last bytes as its code takes. -/
theorem length_utf8Tail (count v : Nat) : (utf8Tail count v).length = count := by
  induction count generalizing v with
  | zero => rfl
  | succ count ih => rw [utf8Tail, List.length_append, ih, List.length_singleton]

theorem compare_ofNat {m n : Nat} (hm : m < 256) (hn : n < 256) :
    compare (UInt8.ofNat m) (UInt8.ofNat n) = compare m n := by
  rw [UInt8.compare_eq_toNat_compare_toNat, UInt8.toNat_ofNat_of_lt' hm, UInt8.toNat_ofNat_of_lt' hn]

/-- The last bytes are in the order of the digits that they are. -/
theorem compare_utf8Tail (count v w : Nat) :
    compare (utf8Tail count v) (utf8Tail count w) = compare (v % 64 ^ count) (w % 64 ^ count) := by
  induction count generalizing v w with
  | zero => simp [utf8Tail, Nat.mod_one]
  | succ count ih =>
    rw [utf8Tail, utf8Tail, compare_append (by rw [length_utf8Tail, length_utf8Tail]), ih, List.compare_cons_cons,
      compare_ofNat (by omega) (by omega), compare_add_right, Std.compare_self,
      compare_divMod_nat (by decide : 0 < 64) (v % 64 ^ (count + 1)), Nat.pow_succ', Nat.mod_mul_right_div_self,
      Nat.mod_mul_right_div_self, Nat.mod_mul_right_mod, Nat.mod_mul_right_mod, Ordering.then_eq]

/-- A character with fewer bytes has a lesser first one. -/
theorem utf8_lead_lt {few many v : Nat} (hmany : many < 4) (h : few < many) (hv : v < utf8End few) :
    v / 64 ^ few + utf8Mark few < utf8Mark many := by
  interval_cases many <;> interval_cases few <;> simp only [utf8End, utf8Mark] at * <;> omega

/-- The first byte with its mark is a byte. -/
theorem utf8_lead_lt_byte {count v : Nat} (h : count < 4) (hv : v < utf8End count) :
    v / 64 ^ count + utf8Mark count < 256 := by
  interval_cases count <;> simp only [utf8End, utf8Mark] at * <;> omega

/-- The bytes of a character are in the order of the characters. -/
theorem compare_utf8EncodeChar (c d : Char) (as bs : List UInt8) :
    compare (String.utf8EncodeChar c ++ as) (String.utf8EncodeChar d ++ bs) = (compare c d).then (compare as bs) := by
  obtain ⟨k, hk, hck, hc, hfewer⟩ := utf8EncodeChar_eq c
  obtain ⟨l, hl, hdl, hd, hfewer'⟩ := utf8EncodeChar_eq d
  rw [hck, hdl, List.cons_append, List.cons_append, List.compare_cons_cons, compare_char,
    compare_ofNat (utf8_lead_lt_byte hk hc) (utf8_lead_lt_byte hl hd)]
  rcases Nat.lt_trichotomy k l with hkl | rfl | hlk
  · have hlead := utf8_lead_lt hl hkl hc
    have hless := Nat.lt_of_lt_of_le hc (hfewer' k hkl)
    rw [Nat.compare_eq_lt.2 hless, Nat.compare_eq_lt.2 (Nat.lt_of_lt_of_le hlead (Nat.le_add_left _ _))]
    rfl
  · rw [compare_append (by rw [length_utf8Tail, length_utf8Tail]), compare_utf8Tail, compare_add_right,
      compare_divMod_nat (Nat.pow_pos (by decide : 0 < 64)) c.toNat d.toNat, Ordering.then_assoc]
  · have hlead := utf8_lead_lt hk hlk hd
    have hless := Nat.lt_of_lt_of_le hd (hfewer l hlk)
    rw [Nat.compare_eq_gt.2 hless, Nat.compare_eq_gt.2 (Nat.lt_of_lt_of_le hlead (Nat.le_add_left _ _))]
    rfl

/-- The bytes of a text are those of its characters. -/
theorem textBytes_eq (s : String) : textBytes s = s.toList.flatMap String.utf8EncodeChar := by
  have hs : s.toUTF8 = s.toList.utf8Encode := by
    conv => lhs; rw [← String.ofList_toList (s := s)]
    exact String.toByteArray_ofList
  rw [textBytes, hs, List.utf8Encode]
  simp

/-- Texts are stored in their order. -/
theorem compareBytes_textBytes (s t : String) : compareBytes (textBytes s) (textBytes t) = compare s t := by
  rw [compareBytes_eq_compare, compare_toList, textBytes_eq, textBytes_eq]
  generalize s.toList = cs
  generalize t.toList = ds
  induction cs generalizing ds with
  | nil =>
    cases ds with
    | nil => rfl
    | cons d ds =>
      obtain ⟨k, -, hd, -⟩ := utf8EncodeChar_eq d
      rw [List.flatMap_cons, hd]
      rfl
  | cons c cs ih =>
    cases ds with
    | nil =>
      obtain ⟨k, -, hc, -⟩ := utf8EncodeChar_eq c
      rw [List.flatMap_cons, hc]
      rfl
    | cons d ds => rw [List.flatMap_cons, List.flatMap_cons, compare_utf8EncodeChar, List.compare_cons_cons, ih]

/-! ## Digits -/

/-- A digit is as far from zero as its value. -/
theorem compare_digit {c d : Char} (hc : c.isDigit = true) (hd : d.isDigit = true) :
    compare c d = compare (c.toNat - 48) (d.toNat - 48) := by
  have hlow : ∀ {c : Char}, c.isDigit = true → 48 ≤ c.toNat := fun hc => (Char.isDigit_iff_toNat.1 hc).1
  rw [compare_char]
  refine compareOfLessAndEq_congr ?_ ?_ <;> have := hlow hc <;> have := hlow hd <;> omega

theorem digit_lt {c : Char} (hc : c.isDigit = true) : c.toNat - 48 < 10 := by
  have hhigh : c.toNat ≤ 57 := (Char.isDigit_iff_toNat.1 hc).2
  omega

/-- Digits of one length are in the order of the numbers that they stand for. -/
theorem compare_digits {as bs : List Char} (ha : ∀ c ∈ as, c.isDigit = true) (hb : ∀ c ∈ bs, c.isDigit = true)
    (h : as.length = bs.length) : compare as bs = compare (digitsValue as) (digitsValue bs) := by
  induction as using List.reverseRecOn generalizing bs with
  | nil =>
    obtain rfl := List.length_eq_zero_iff.1 h.symm
    rfl
  | append_singleton as a ih =>
    cases bs using List.reverseRecOn with
    | nil => simp at h
    | append_singleton bs b =>
      have hvalue : ∀ (cs : List Char) (c : Char), digitsValue (cs ++ [c]) = digitsValue cs * 10 + (c.toNat - 48) := by
        intro cs c
        simp [digitsValue, List.foldl_append]
      have hlength : as.length = bs.length := by simpa using h
      simp only [List.forall_mem_append, List.forall_mem_singleton] at ha hb
      have hda := digit_lt ha.2
      have hdb := digit_lt hb.2
      have hdiv : ∀ n d, d < 10 → (n * 10 + d) / 10 = n ∧ (n * 10 + d) % 10 = d := by omega
      rw [compare_append hlength, ih ha.1 hb.1 hlength, List.compare_cons_cons, compare_digit ha.2 hb.2, hvalue, hvalue,
        compare_divMod_nat (by decide : 0 < 10) (digitsValue as * 10 + _), (hdiv _ _ hda).1, (hdiv _ _ hda).2,
        (hdiv _ _ hdb).1, (hdiv _ _ hdb).2, Std.compare_self, Ordering.then_eq]

/-- Numbers of one width are in the order of their digits. -/
theorem compare_paddedDigits {width m n : Nat} (hw : 0 < width) (hm : m < 10 ^ width) (hn : n < 10 ^ width) :
    compare (paddedDigits width m) (paddedDigits width n) = compare m n := by
  rw [compare_digits (fun _ hc => isDigit_of_mem_paddedDigits hc) (fun _ hc => isDigit_of_mem_paddedDigits hc)
    (by rw [length_paddedDigits hw hm, length_paddedDigits hw hn]), digitsValue_paddedDigits, digitsValue_paddedDigits]

end SqlMapper
