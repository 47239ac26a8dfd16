import SqlMapper.Number.Extended
import SqlMapper.Text.Digits
import SqlMapper.Value.Scalar

/-!
# Numbers at the beginning of texts

A text may begin as a number: white space, a sign, digits, a fraction and an exponent. It stands for
an integer when neither a point nor an exponent was begun and 64 bits are enough, and for a real
otherwise.
-/

namespace SqlMapper

/-- The number at the beginning of a text: sign, digits, perhaps a fraction and an exponent, and
what follows. -/
structure NumberText where
  negative : Bool
  whole : List Char
  fraction : Option (List Char)
  /-- Whether an exponent was begun. -/
  marked : Bool
  exponent : Option Int
  rest : List Char

/-- White space around numbers. -/
def isNumberSpace (c : Char) : Bool := c == ' ' || (9 ≤ c.toNat && c.toNat ≤ 13)

/-- The size of an exponent; beyond ten thousand another digit brings it back to ten thousand. -/
def exponentSize (ds : List Char) : Nat :=
  ds.foldl (fun n c => if n < 10000 then n * 10 + (c.toNat - 48) else 10000) 0

/-- Reads what follows the mark of an exponent; there has to be a digit. -/
def readExponent (cs : List Char) : Option Int × List Char :=
  let negative := cs.head? == some '-'
  let digits := if negative || cs.head? == some '+' then cs.drop 1 else cs
  let ds := digits.takeWhile Char.isDigit
  if ds.isEmpty then (none, cs)
  else
    let size := exponentSize ds
    (some (if negative then -(size : Int) else size), digits.dropWhile Char.isDigit)

/-- Reads the number at the beginning of a text, white space in front of it skipped. -/
def NumberText.read (s : String) : NumberText :=
  let cs := s.toList.dropWhile isNumberSpace
  let negative := cs.head? == some '-'
  let cs := if negative || cs.head? == some '+' then cs.drop 1 else cs
  let whole := cs.takeWhile Char.isDigit
  let cs := cs.dropWhile Char.isDigit
  let (fraction, cs) :=
    match cs with
    | '.' :: rest => (some (rest.takeWhile Char.isDigit), rest.dropWhile Char.isDigit)
    | _ => (none, cs)
  match cs with
  | c :: rest =>
    if c = 'e' ∨ c = 'E' then
      let e := readExponent rest
      ⟨negative, whole, fraction, true, e.1, e.2⟩
    else ⟨negative, whole, fraction, false, none, cs⟩
  | [] => ⟨negative, whole, fraction, false, none, []⟩

/-- The digits without the point. -/
def NumberText.digits (t : NumberText) : List Char := t.whole ++ t.fraction.getD []

/-- Whether there is neither a point nor an exponent. -/
def NumberText.isWhole (t : NumberText) : Bool := t.fraction.isNone && !t.marked

/-- Whether the text is a number and nothing else but white space. -/
def NumberText.isComplete (t : NumberText) : Bool :=
  !t.digits.isEmpty && (!t.marked || t.exponent.isSome) && t.rest.all isNumberSpace

/-- The integer of the whole part. -/
def NumberText.integer (t : NumberText) : Int :=
  if t.negative then -(digitsValue t.whole : Int) else digitsValue t.whole

/-- The real that the engine makes of the number. -/
def NumberText.real (t : NumberText) : Binary64 :=
  .ofMagnitude t.negative
    (Significand.ofDigits t.whole (t.fraction.getD []) (t.exponent.getD 0)).magnitude

/-- Whether an integer fits 64 bits. -/
def fitsInt64 (n : Int) : Bool := -2 ^ 63 ≤ n && n < 2 ^ 63

/-- The number as a value: an integer if it is whole and fits. -/
def NumberText.value (t : NumberText) : Native :=
  if t.isWhole && fitsInt64 t.integer then .integer (Int64.ofInt t.integer) else .real t.real

end SqlMapper
