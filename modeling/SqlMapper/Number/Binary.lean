import SqlMapper.Number.Power

/-!
# Binary floating-point numbers

A number of the 64-bit or the 32-bit binary format is held as its bits, so that two numbers are
equal as values of these types exactly when they are the same bits; the numeric comparison, for
which the two zeros are equal and a NaN equals nothing, is `Binary64.eqv`. All arithmetic is exact:
a finite number is a ratio of integers, an operation is carried out on ratios, and `Format.ofRatio`
rounds the result to the nearest number of the format, a tie to the even one.
-/

namespace SqlMapper

/-- A binary format: how many bits hold the fraction and how many the exponent. -/
structure Format where
  fraction : Nat
  exponent : Nat

/-- The 64-bit format. -/
def Format.double : Format := ⟨52, 11⟩

/-- The 32-bit format. -/
def Format.single : Format := ⟨23, 8⟩

/-- The exponent of the smallest step of the format: its least positive number is two to this power.
-/
def Format.quantum (f : Format) : Int := 2 - 2 ^ (f.exponent - 1) - f.fraction

/-- The bits of infinity, without the sign. Magnitudes below are finite, magnitudes above are NaN.
-/
def Format.infinity (f : Format) : Nat := (2 ^ f.exponent - 1) * 2 ^ f.fraction

/-- The integer that a finite magnitude is a power of two times. -/
def Format.significand (f : Format) (bits : Nat) : Nat :=
  if bits / 2 ^ f.fraction = 0 then bits else bits % 2 ^ f.fraction + 2 ^ f.fraction

/-- The power of two that goes with `Format.significand`. -/
def Format.power (f : Format) (bits : Nat) : Int := f.quantum + (bits / 2 ^ f.fraction - 1 : Nat)

/-- A finite magnitude as numerator and denominator. -/
def Format.ratio (f : Format) (bits : Nat) : Nat × Nat :=
  (f.significand bits * 2 ^ (f.power bits).toNat, 2 ^ (-f.power bits).toNat)

/-- The integer nearest to a ratio, a tie going to the even one. -/
def roundHalfEven (num den : Nat) : Nat :=
  let q := num / den
  let r := num % den
  if den < 2 * r ∨ (2 * r = den ∧ q % 2 = 1) then q + 1 else q

/-- The exponent of the largest power of two that is not above a positive ratio. -/
def floorLog2 (num den : Nat) : Int :=
  let e : Int := (num.log2 : Int) - den.log2
  if den * 2 ^ e.toNat ≤ num * 2 ^ (-e).toNat then e else e - 1

/-- The bits of the magnitude nearest to a ratio, a tie going to the even one, and infinity past the
largest. The step between neighbours is a power of two; as the bits of consecutive magnitudes are
consecutive, a carry needs no care. -/
def Format.ofRatio (f : Format) (num den : Nat) : Nat :=
  if num = 0 then 0
  else
    let step := max (floorLog2 num den - f.fraction) f.quantum
    let k := roundHalfEven (num * 2 ^ (-step).toNat) (den * 2 ^ step.toNat)
    min ((step - f.quantum).toNat * 2 ^ f.fraction + k) f.infinity

/-- The bits of the magnitude nearest to digits times a power of ten. More than a thousand places
before or after the point it is infinite or zero without being worked out. -/
def Format.ofDecimal (f : Format) (digits : Nat) (power : Int) : Nat :=
  let leading : Int := power + (Nat.toDigits 10 digits).length
  if digits = 0 ∨ leading < -1000 then 0
  else if 1000 < leading then f.infinity
  else f.ofRatio (digits * 10 ^ power.toNat) (10 ^ (-power).toNat)

/-- A number of the 64-bit format, as its bits. -/
structure Binary64 where
  bits : UInt64
  deriving DecidableEq, Repr, Inhabited

/-- A number of the 32-bit format, as its bits. -/
structure Binary32 where
  bits : UInt32
  deriving DecidableEq, Repr, Inhabited

/-! ## The 64-bit format -/

/-- The bits without the sign. -/
def Binary64.magnitude (x : Binary64) : Nat := x.bits.toNat % 2 ^ 63

/-- Whether the sign bit is set. -/
def Binary64.negative (x : Binary64) : Bool := 2 ^ 63 ≤ x.bits.toNat

/-- The number with a sign and a magnitude. -/
def Binary64.ofMagnitude (negative : Bool) (magnitude : Nat) : Binary64 :=
  ⟨UInt64.ofNat (magnitude + if negative then 2 ^ 63 else 0)⟩

def Binary64.isNaN (x : Binary64) : Bool := Format.double.infinity < x.magnitude

def Binary64.isInfinite (x : Binary64) : Bool := x.magnitude = Format.double.infinity

def Binary64.isFinite (x : Binary64) : Bool := x.magnitude < Format.double.infinity

def Binary64.isZero (x : Binary64) : Bool := x.magnitude = 0

/-- The quiet NaN. -/
def Binary64.nan : Binary64 := ⟨0x7FF8000000000000⟩

/-- Infinity of either sign. -/
def Binary64.infinity (negative : Bool) : Binary64 := .ofMagnitude negative Format.double.infinity

/-- The number nearest to a ratio. -/
def Binary64.ofRatio (negative : Bool) (num den : Nat) : Binary64 :=
  .ofMagnitude negative (Format.double.ofRatio num den)

/-- The number nearest to an integer. -/
def Binary64.ofInt (n : Int) : Binary64 := .ofRatio (n < 0) n.natAbs 1

/-- The number nearest to a natural number. -/
def Binary64.ofNat (n : Nat) : Binary64 := .ofRatio false n 1

/-- A finite number as a signed numerator and a denominator. -/
def Binary64.ratio (x : Binary64) : Int × Nat :=
  let r := Format.double.ratio x.magnitude
  (if x.negative then -(r.1 : Int) else r.1, r.2)

/-- The number with its sign turned over. -/
def Binary64.neg (x : Binary64) : Binary64 := .ofMagnitude (!x.negative) x.magnitude

/-- Numeric equality: the two zeros are equal, and a NaN equals nothing. -/
def Binary64.eqv (x y : Binary64) : Bool :=
  !x.isNaN && !y.isNaN && (x.bits == y.bits || (x.isZero && y.isZero))

/-- The place of a number that is no NaN on the line: the magnitudes ascend with the numbers. -/
def Binary64.rank (x : Binary64) : Int := if x.negative then -(x.magnitude : Int) else x.magnitude

/-- The integer a number is, when it is one. -/
def Binary64.toInt? (x : Binary64) : Option Int :=
  if x.isFinite then
    let r := x.ratio
    if r.1 % r.2 = 0 then some (r.1 / r.2) else none
  else none

/-- The integer part of a finite number. -/
def Binary64.truncate (x : Binary64) : Int :=
  let r := x.ratio
  Int.tdiv r.1 r.2

/-- Compares an integer with a number that is no NaN, exactly. -/
def Binary64.compareInt (n : Int) (x : Binary64) : Ordering :=
  if x.isFinite then
    let r := x.ratio
    compare (n * r.2) r.1
  else if x.negative then .gt else .lt

/-- The sum. -/
def Binary64.add (x y : Binary64) : Binary64 :=
  if x.isNaN || y.isNaN then .nan
  else if x.isInfinite then if y.isInfinite && x.negative != y.negative then .nan else x
  else if y.isInfinite then y
  else if x.isZero && y.isZero then .ofMagnitude (x.negative && y.negative) 0
  else
    let a := x.ratio
    let b := y.ratio
    let n := a.1 * b.2 + b.1 * a.2
    .ofRatio (n < 0) n.natAbs (a.2 * b.2)

/-- The difference. -/
def Binary64.sub (x y : Binary64) : Binary64 := x.add y.neg

/-- The product. -/
def Binary64.mul (x y : Binary64) : Binary64 :=
  let negative := x.negative != y.negative
  if x.isNaN || y.isNaN then .nan
  else if x.isInfinite || y.isInfinite then
    if x.isZero || y.isZero then .nan else .infinity negative
  else
    let a := x.ratio
    let b := y.ratio
    .ofRatio negative (a.1.natAbs * b.1.natAbs) (a.2 * b.2)

/-- The quotient. -/
def Binary64.div (x y : Binary64) : Binary64 :=
  let negative := x.negative != y.negative
  if x.isNaN || y.isNaN then .nan
  else if x.isInfinite then if y.isInfinite then .nan else .infinity negative
  else if y.isInfinite then .ofMagnitude negative 0
  else if y.isZero then if x.isZero then .nan else .infinity negative
  else
    let a := x.ratio
    let b := y.ratio
    .ofRatio negative (a.1.natAbs * b.2) (a.2 * b.1.natAbs)

/-- The nearest integer, a half going away from zero; it is a number again. -/
def Binary64.round (x : Binary64) : Binary64 :=
  if x.isFinite then
    let r := x.ratio
    .ofRatio x.negative ((2 * r.1.natAbs + r.2) / (2 * r.2)) 1
  else x

/-! ## The 32-bit format -/

/-- The bits without the sign. -/
def Binary32.magnitude (x : Binary32) : Nat := x.bits.toNat % 2 ^ 31

/-- Whether the sign bit is set. -/
def Binary32.negative (x : Binary32) : Bool := 2 ^ 31 ≤ x.bits.toNat

def Binary32.isNaN (x : Binary32) : Bool := Format.single.infinity < x.magnitude

/-- The number with a sign and a magnitude. -/
def Binary32.ofMagnitude (negative : Bool) (magnitude : Nat) : Binary32 :=
  ⟨UInt32.ofNat (magnitude + if negative then 2 ^ 31 else 0)⟩

/-- Numeric equality: the two zeros are equal, and a NaN equals nothing. -/
def Binary32.eqv (x y : Binary32) : Bool :=
  !x.isNaN && !y.isNaN && (x.bits == y.bits || (x.magnitude == 0 && y.magnitude == 0))

/-- The same number in the 64-bit format. -/
def Binary32.widen (x : Binary32) : Binary64 :=
  if x.isNaN then .nan
  else if x.magnitude = Format.single.infinity then .infinity x.negative
  else
    let r := Format.single.ratio x.magnitude
    .ofRatio x.negative r.1 r.2

/-- The nearest number of the 32-bit format, infinity past the largest. -/
def Binary64.narrow (x : Binary64) : Binary32 :=
  if x.isNaN then ⟨0x7FC00000⟩
  else if x.isInfinite then .ofMagnitude x.negative Format.single.infinity
  else
    let r := Format.double.ratio x.magnitude
    .ofMagnitude x.negative (Format.single.ofRatio r.1 r.2)

end SqlMapper
