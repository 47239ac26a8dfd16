import SqlMapper.Text.CombiningClass
import SqlMapper.Text.Composite

/-!
# Composed text

The same text may be written with composites or with their parts, and with its marks in several
orders. Its composed form has the marks in the order of their classes and every composite that can
stand. It is found by taking all composites apart, putting the marks in order and joining what
joins.
-/

namespace SqlMapper

/-- Takes a character apart, as often as `depth` says. Only the first of two parts has parts. -/
def decomposeWithin : Nat → Nat → List Nat
  | 0, n => [n]
  | depth + 1, n =>
    match compositeParts? n with
    | some (a, b) => decomposeWithin depth a ++ [b]
    | none => [n]

/-- The parts of a character that have no parts; no character has more than four. -/
def decompose (n : Nat) : List Nat := decomposeWithin 3 n

/-- Puts a character in front of ordered ones: a mark goes behind the marks of lower classes. -/
def orderInsert (n : Nat) : List Nat → List Nat
  | [] => [n]
  | m :: rest =>
    if combiningClass m ≠ 0 ∧ combiningClass m < combiningClass n then m :: orderInsert n rest
    else n :: m :: rest

/-- Puts marks that stand together in the order of their classes. -/
def orderMarks (ns : List Nat) : List Nat := ns.foldr orderInsert []

/-- Joins what follows `base` to it. The marks of `kept` stand between the two and have not joined;
one of them keeps off every character whose class is not greater than its own. -/
def composeFrom (base : Nat) (kept : List Nat) : List Nat → List Nat
  | [] => base :: kept
  | n :: rest =>
    let reaches : Bool := match kept.getLast? with
      | some m => decide (combiningClass m < combiningClass n)
      | none => true
    match if reaches then composite? base n else none with
    | some joined => composeFrom joined kept rest
    | none =>
      if combiningClass n = 0 then base :: kept ++ composeFrom n [] rest
      else composeFrom base (kept ++ [n]) rest

/-- Writes composites wherever ordered text has their parts. Marks in front of it all join nothing.
-/
def compose : List Nat → List Nat
  | [] => []
  | n :: rest => if combiningClass n = 0 then composeFrom n [] rest else n :: compose rest

/-- The composed form of a text. -/
def composedForm (ns : List Nat) : List Nat := compose (orderMarks (ns.flatMap decompose))

/-- Whether a text is in its composed form. -/
def isComposed (cs : List Char) : Bool :=
  let ns := cs.map Char.toNat
  composedForm ns == ns

end SqlMapper
