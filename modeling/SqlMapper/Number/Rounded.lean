import SqlMapper.Number.Extended

/-!
# Text with fifteen significant digits

The engine writes a real with fifteen significant digits and without the zeros at their end; at
least one digit stands after the point. Numbers below 0.0001, and those of more than fifteen digits
before the point, are written with an exponent of two digits or more and its sign.
-/

namespace SqlMapper

/-- Scientific notation with a point, and an exponent that has a sign and two digits at least. -/
def Decade.signedScientific (d : Decade) : List Char :=
  let ds := Nat.toDigits 10 d.digits
  let fraction := if ds.length ≤ 1 then ['0'] else ds.drop 1
  let exponent := Nat.toDigits 10 d.leading.natAbs
  ds.take 1 ++ '.' :: fraction ++ 'e' :: (if d.leading < 0 then '-' else '+') ::
    List.replicate (2 - exponent.length) '0' ++ exponent

/-- The text of a positive finite magnitude of the 64-bit format. -/
def roundedText (bits : Nat) : List Char :=
  let d := ((Decade.ofMagnitude bits).cut 15).stripZeros 20
  if -4 ≤ d.leading ∧ d.leading ≤ 14 then d.positional true else d.signedScientific

/-- The text that the engine makes of a real. -/
def Binary64.rounded (x : Binary64) : String :=
  if x.isNaN then "NaN"
  else if x.isZero then "0.0"
  else
    let text := if x.isInfinite then ['I', 'n', 'f'] else roundedText x.magnitude
    String.ofList (if x.negative then '-' :: text else text)

end SqlMapper
