/-!
# Decimal digits

Numbers padded with zeros to a width, fractions without the zeros at their end, and fixed runs of
digits read back.
-/

namespace SqlMapper

/-- The value of a decimal digit. -/
def digitValue? (c : Char) : Option Nat :=
  if '0' ≤ c ∧ c ≤ '9' then some (c.toNat - 48) else none

/-- The digits of a number, with zeros in front up to the width. -/
def paddedDigits (width n : Nat) : List Char :=
  let ds := Nat.toDigits 10 n
  List.replicate (width - ds.length) '0' ++ ds

/-- The same number of digits as places, without the zeros at the end. -/
def fractionDigits (places n : Nat) : List Char :=
  ((paddedDigits places n).reverse.dropWhile (· == '0')).reverse

/-- Reads exactly so many digits: the number and what follows it. -/
def readDigits? : Nat → Nat → List Char → Option (Nat × List Char)
  | 0, value, cs => some (value, cs)
  | _ + 1, _, [] => none
  | width + 1, value, c :: cs => do
    let d ← digitValue? c
    readDigits? width (value * 10 + d) cs

/-- The number that a run of digits stands for; other characters count as their distance from zero
and do not occur. -/
def digitsValue (cs : List Char) : Nat := cs.foldl (fun n c => n * 10 + (c.toNat - 48)) 0

/-- Reads an integer: digits with an optional minus sign. -/
def readInt? (s : String) : Option Int :=
  match s.toList with
  | '-' :: cs => if cs.isEmpty || !cs.all Char.isDigit then none else some (-(digitsValue cs : Int))
  | cs => if cs.isEmpty || !cs.all Char.isDigit then none else some (digitsValue cs)

end SqlMapper
