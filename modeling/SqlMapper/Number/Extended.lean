import SqlMapper.Number.Shortest

/-!
# Scaling by powers of ten

The engine turns digits into a real, and a real into digits, by one multiplication after another
with a power of ten: hundreds of places first, then tens, then single ones. It multiplies in the
80-bit format and rounds each product, so the result can be off in the last bit of a real or in the
fifteenth digit. Both directions are carried out here as the engine does it.
-/

namespace SqlMapper

/-- The 80-bit format: numbers of 64 significant bits. -/
def Format.extended : Format := ⟨63, 15⟩

/-- The magnitude nearest to a power of ten. -/
def Format.tenTo (f : Format) (power : Int) : Nat :=
  f.ofRatio (10 ^ power.toNat) (10 ^ (-power).toNat)

/-- The product of two magnitudes. -/
def Format.mul (f : Format) (a b : Nat) : Nat :=
  if f.infinity ≤ a ∨ f.infinity ≤ b then f.infinity
  else
    let x := f.ratio a
    let y := f.ratio b
    f.ofRatio (x.1 * y.1) (x.2 * y.2)

/-- Multiplies so many times. -/
def Format.mulTimes (f : Format) (factor : Nat) : Nat → Nat → Nat
  | 0, x => x
  | n + 1, x => f.mulTimes factor n (f.mul x factor)

/-- Moves the point of a magnitude: by hundreds of places, by tens, and by single ones. -/
def Format.movePoint (f : Format) (x : Nat) (power : Int) : Nat :=
  let factor (step : Int) : Nat := f.tenTo (if power < 0 then -step else step)
  let places := power.natAbs
  let hundreds := f.mulTimes (factor 100) (places / 100) x
  let tens := f.mulTimes (factor 10) (places % 100 / 10) hundreds
  f.mulTimes (factor 1) (places % 10) tens

/-! ## Digits to reals -/

/-- A significand of 64 bits with a power of ten, in the making. -/
structure Significand where
  digits : Nat
  power : Int

/-- The significand from which on no further digit is taken in. -/
def Significand.full : Nat := (2 ^ 64 - 1 - 9) / 10

/-- Takes in a digit in front of the point; one that finds no room leaves a place behind. -/
def Significand.pushWhole (s : Significand) (c : Char) : Significand :=
  if s.digits < Significand.full then ⟨s.digits * 10 + (c.toNat - 48), s.power⟩
  else ⟨s.digits, s.power + 1⟩

/-- Takes in a digit after the point; one that finds no room is dropped. -/
def Significand.pushFraction (s : Significand) (c : Char) : Significand :=
  if s.digits < Significand.full then ⟨s.digits * 10 + (c.toNat - 48), s.power - 1⟩ else s

/-- Writes places of the power out as zeros while there is room. -/
def Significand.fill : Nat → Significand → Significand
  | 0, s => s
  | n + 1, s =>
    if 0 < s.power ∧ s.digits < (2 ^ 64 - 1) / 10 then fill n ⟨s.digits * 10, s.power - 1⟩ else s

/-- Takes zeros at the end into the power. -/
def Significand.stripZeros : Nat → Significand → Significand
  | 0, s => s
  | n + 1, s =>
    if s.power < 0 ∧ s.digits % 10 = 0 then stripZeros n ⟨s.digits / 10, s.power + 1⟩ else s

/-- The significand of digits before and after the point, and an exponent. -/
def Significand.ofDigits (whole fraction : List Char) (exponent : Int) : Significand :=
  let s := fraction.foldl pushFraction (whole.foldl pushWhole ⟨0, 0⟩)
  if s.digits = 0 then ⟨0, 0⟩ else stripZeros 20 (fill 20 ⟨s.digits, s.power + exponent⟩)

/-- The magnitude of the 64-bit format. Anything above the largest one is infinite, even if it is
nearer to that than to the next. -/
def Significand.magnitude (s : Significand) : Nat :=
  if s.power = 0 then Format.double.ofRatio s.digits 1
  else
    let x := Format.extended.movePoint (Format.extended.ofRatio s.digits 1) s.power
    let largest := Format.double.ratio (Format.double.infinity - 1)
    if Format.extended.ofRatio largest.1 largest.2 < x then Format.double.infinity
    else
      let r := Format.extended.ratio x
      Format.double.ofRatio r.1 r.2

/-! ## Reals to digits -/

/-- Moves the point to the left by the same number of places for as long as a magnitude is not below
a power of ten, and counts the places. -/
def Format.lower (f : Format) (limit step : Int) : Nat → Nat × Int → Nat × Int
  | 0, x => x
  | n + 1, (x, places) =>
    if f.tenTo limit ≤ x then f.lower limit step n (f.mul x (f.tenTo (-step)), places + step)
    else (x, places)

/-- Moves the point to the right for as long as a magnitude is below a power of ten. -/
def Format.raise (f : Format) (limit step : Int) : Nat → Nat × Int → Nat × Int
  | 0, x => x
  | n + 1, (x, places) =>
    if x < f.tenTo limit then f.raise limit step n (f.mul x (f.tenTo step), places - step)
    else (x, places)

/-- Eighteen or nineteen digits of a positive finite magnitude of the 64-bit format. -/
def Decade.ofMagnitude (bits : Nat) : Decade :=
  let f := Format.extended
  let r := Format.double.ratio bits
  let x := f.ofRatio r.1 r.2
  let s :=
    if f.tenTo 19 ≤ x then f.lower 19 1 12 (f.lower 29 10 12 (f.lower 119 100 12 (x, 0)))
    else f.raise 17 1 12 (f.raise 7 10 12 (f.raise (-97) 100 12 (x, 0)))
  let digits := f.ratio s.1
  ⟨digits.1 / digits.2, s.2⟩

/-- Cut to so many digits; the first digit cut off decides, five and more going up. -/
def Decade.cut (d : Decade) (places : Nat) : Decade :=
  let extra := (Nat.toDigits 10 d.digits).length - places
  if extra = 0 then d
  else
    let kept := d.digits / 10 ^ (extra - 1)
    ⟨kept / 10 + (if 5 ≤ kept % 10 then 1 else 0), d.power + extra⟩

end SqlMapper
