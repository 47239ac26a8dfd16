import SqlMapper.Number.Binary

/-!
# Decimal text of binary numbers

A finite number is written with the fewest significant digits that read back as the same number, and
of those texts the one nearest to it, an exact tie going up. Reading is `Format.ofRatio`, so the
search tries the two neighbours of the number on the grid of one digit, of two, and so on, and stops
at the first grid with one that reads back. Two layouts use the digits: the one of SQL literals
keeps a point or an exponent, the plain one never writes an exponent.
-/

namespace SqlMapper

/-- Digits and a power of ten. -/
structure Decade where
  digits : Nat
  power : Int
  deriving DecidableEq, Repr

/-- The value as numerator and denominator. -/
def Decade.ratio (d : Decade) : Nat × Nat := (d.digits * 10 ^ d.power.toNat, 10 ^ (-d.power).toNat)

/-- Whether the value reads back as the magnitude. -/
def Decade.reads (f : Format) (bits : Nat) (d : Decade) : Bool :=
  f.ofRatio d.ratio.1 d.ratio.2 == bits

/-- The exponent of the largest power of ten that is not above a positive ratio. The estimate from
the power of two is off by at most one. -/
def floorLog10 (num den : Nat) : Int :=
  let e : Int := (floorLog2 num den * 30103) / 100000
  let above (k : Int) : Bool := den * 10 ^ k.toNat ≤ num * 10 ^ (-k).toNat
  if above (e + 1) then e + 1 else if above e then e else e - 1

/-- The neighbour on the grid of steps of ten to the power that reads back, the nearer one if both
do and the upper one on a tie. -/
def Format.nearestOnGrid (f : Format) (bits : Nat) (power : Int) : Option Decade :=
  let r := f.ratio bits
  let num := r.1 * 10 ^ (-power).toNat
  let den := r.2 * 10 ^ power.toNat
  let low : Decade := ⟨num / den, power⟩
  let high : Decade := ⟨num / den + 1, power⟩
  let lowFirst := 2 * (num % den) < den
  let first := if lowFirst then low else high
  let second := if lowFirst then high else low
  if first.reads f bits then some first else if second.reads f bits then some second else none

/-- The first grid with a neighbour that reads back, from the given number of digits on. -/
def Format.shortestFrom (f : Format) (bits : Nat) (leading : Int) : Nat → Nat → Option Decade
  | 0, _ => none
  | tries + 1, places =>
    match f.nearestOnGrid bits (leading - places) with
    | some d => some d
    | none => f.shortestFrom bits leading tries (places + 1)

/-- The fewest digits that read back as a positive finite magnitude. Seventeen are always enough in
the 64-bit format; the search may go as far as the exact value, which has fewer than 800 digits. -/
def Format.shortest (f : Format) (bits : Nat) : Decade :=
  let r := f.ratio bits
  (f.shortestFrom bits (floorLog10 r.1 r.2) 800 0).getD ⟨0, 0⟩

/-- The digits with the zeros at their end taken off. -/
def Decade.stripZeros (d : Decade) : Nat → Decade
  | 0 => d
  | fuel + 1 => if d.digits % 10 = 0 ∧ d.digits ≠ 0 then Decade.stripZeros ⟨d.digits / 10, d.power + 1⟩ fuel else d

/-- How a number is laid out: where scientific notation takes over, as a range of the exponent of
the leading digit outside which it is used, and whether a whole number keeps a point and a zero. -/
structure RealLayout where
  positional : Option (Int × Int)
  pointZero : Bool

/-- Literals are positional from 0.0001 up to below ten to the sixteenth, and a whole number keeps
its point. -/
def RealLayout.literal : RealLayout := ⟨some (-4, 15), true⟩

/-- Plain text is always positional, and a whole number is written as an integer. -/
def RealLayout.plain : RealLayout := ⟨none, false⟩

/-- Positional notation of digits and a power of ten. -/
def Decade.positional (d : Decade) (pointZero : Bool) : List Char :=
  let ds := Nat.toDigits 10 d.digits
  if 0 ≤ d.power then
    ds ++ List.replicate d.power.toNat '0' ++ (if pointZero then ['.', '0'] else [])
  else
    let places := (-d.power).toNat
    if ds.length ≤ places then
      ['0', '.'] ++ List.replicate (places - ds.length) '0' ++ ds
    else
      ds.take (ds.length - places) ++ '.' :: ds.drop (ds.length - places)

/-- The exponent of the leading digit. -/
def Decade.leading (d : Decade) : Int := d.power + (Nat.toDigits 10 d.digits).length - 1

/-- Scientific notation: one digit, the others after a point, and the exponent. -/
def Decade.scientific (d : Decade) : List Char :=
  let ds := Nat.toDigits 10 d.digits
  let mantissa := ds.take 1 ++ (if ds.length ≤ 1 then [] else '.' :: ds.drop 1)
  mantissa ++ 'e' :: (toString d.leading).toList

/-- The text of a positive finite magnitude of the 64-bit format. -/
def RealLayout.magnitude (layout : RealLayout) (bits : Nat) : List Char :=
  let d := (Format.double.shortest bits).stripZeros 800
  match layout.positional with
  | some (low, high) =>
    if low ≤ d.leading ∧ d.leading ≤ high then d.positional layout.pointZero else d.scientific
  | none => d.positional layout.pointZero

/-- The text of a number: the sign in front, also of a zero, and names for what is not finite. -/
def RealLayout.write (layout : RealLayout) (x : Binary64) : String :=
  if x.isNaN then "NaN"
  else
    let text :=
      if x.isInfinite then ['i', 'n', 'f']
      else if x.isZero then if layout.pointZero then ['0', '.', '0'] else ['0']
      else layout.magnitude x.magnitude
    String.ofList (if x.negative then '-' :: text else text)

/-- The text of a number inside an SQL literal. -/
def Binary64.literal (x : Binary64) : String := RealLayout.literal.write x

/-- The plain text of a number. -/
def Binary64.plain (x : Binary64) : String := RealLayout.plain.write x

end SqlMapper
