/-!
# Hexadecimal digits

Bytes are written as two digits each, in upper case inside a blob literal and in lower case inside a
UUID. Both cases are read.
-/

namespace SqlMapper

/-- The digit of a number below sixteen, in lower case. -/
def Hex.lowerDigit (n : Nat) : Char :=
  if n < 10 then Char.ofNat (48 + n) else Char.ofNat (87 + n)

/-- The digit of a number below sixteen, in upper case. -/
def Hex.upperDigit (n : Nat) : Char :=
  if n < 10 then Char.ofNat (48 + n) else Char.ofNat (55 + n)

/-- The number a hexadecimal digit of either case stands for. -/
def Hex.digit? (c : Char) : Option Nat :=
  if '0' ≤ c ∧ c ≤ '9' then some (c.toNat - 48)
  else if 'a' ≤ c ∧ c ≤ 'f' then some (c.toNat - 87)
  else if 'A' ≤ c ∧ c ≤ 'F' then some (c.toNat - 55)
  else none

/-- Two upper-case digits for each byte. -/
def Hex.upper (bytes : List UInt8) : List Char :=
  bytes.flatMap fun b => [Hex.upperDigit (b.toNat / 16), Hex.upperDigit (b.toNat % 16)]

/-- Two lower-case digits for each byte. -/
def Hex.lower (bytes : List UInt8) : List Char :=
  bytes.flatMap fun b => [Hex.lowerDigit (b.toNat / 16), Hex.lowerDigit (b.toNat % 16)]

/-- Reads two digits for each byte; a lone digit, or any other character, is refused. -/
def Hex.read? : List Char → Option (List UInt8)
  | [] => some []
  | [_] => none
  | c :: d :: rest => do
    let high ← Hex.digit? c
    let low ← Hex.digit? d
    let tail ← Hex.read? rest
    some (UInt8.ofNat (16 * high + low) :: tail)

/-- A digit in small letters is read as its value. -/
theorem Hex.digit?_lowerDigit : ∀ {n : Nat}, n < 16 → Hex.digit? (Hex.lowerDigit n) = some n := by
  decide

/-- So is one in capitals. -/
theorem Hex.digit?_upperDigit : ∀ {n : Nat}, n < 16 → Hex.digit? (Hex.upperDigit n) = some n := by
  decide

/-- Two digits are read as one byte, the high half first. -/
theorem Hex.read?_pair {c d : Char} {b : UInt8} (rest : List Char)
    (high : Hex.digit? c = some (b.toNat / 16)) (low : Hex.digit? d = some (b.toNat % 16)) :
    Hex.read? (c :: d :: rest) = (Hex.read? rest).map (b :: ·) := by
  have hb : UInt8.ofNat (16 * (b.toNat / 16) + b.toNat % 16) = b := by
    rw [Nat.div_add_mod, UInt8.ofNat_toNat]
  simp only [Hex.read?, high, low, Option.bind_eq_bind, Option.bind_some, hb]
  cases Hex.read? rest <;> rfl

/-- Digits in lower case are read back as the bytes they were written for. -/
theorem Hex.read?_lower (bytes : List UInt8) : Hex.read? (Hex.lower bytes) = some bytes := by
  induction bytes with
  | nil => rfl
  | cons b bytes ih =>
    have hb := b.toNat_lt
    have high := @Hex.digit?_lowerDigit (b.toNat / 16) (by omega)
    have low := @Hex.digit?_lowerDigit (b.toNat % 16) (by omega)
    have step := Hex.read?_pair (Hex.lower bytes) high low
    rw [ih] at step
    exact step

/-- Digits in upper case are read back as the bytes they were written for. -/
theorem Hex.read?_upper (bytes : List UInt8) : Hex.read? (Hex.upper bytes) = some bytes := by
  induction bytes with
  | nil => rfl
  | cons b bytes ih =>
    have hb := b.toNat_lt
    have high := @Hex.digit?_upperDigit (b.toNat / 16) (by omega)
    have low := @Hex.digit?_upperDigit (b.toNat % 16) (by omega)
    have step := Hex.read?_pair (Hex.upper bytes) high low
    rw [ih] at step
    exact step

/-- The lower-case digits of a number, without leading zeros. -/
def Hex.ofNat (n : Nat) : List Char := Nat.toDigits 16 n

end SqlMapper
