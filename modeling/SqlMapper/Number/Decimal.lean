import SqlMapper.Number.Binary

/-!
# Fixed-point decimals

A decimal is a sign, a magnitude below two to the 96th and a scale of at most 28 places. Its text
keeps the scale, so 12.50 and 12.5 are equal numbers with different texts. Reading rounds a fraction
that does not fit half up, and refuses an integer part that does not fit. The way to a 64-bit number
and back goes through the scale, so a few places survive that the binary number itself does not
have.
-/

namespace SqlMapper

/-- A sign, a magnitude and a number of places after the point. -/
structure Decimal where
  negative : Bool
  magnitude : Nat
  scale : Nat
  magnitude_lt : magnitude < 2 ^ 96 := by decide
  scale_le : scale ≤ 28 := by decide
  deriving DecidableEq

/-- Zero. -/
def Decimal.zero : Decimal := { negative := false, magnitude := 0, scale := 0 }

/-- The decimal with the given parts, if they are within bounds. -/
def Decimal.ofParts? (negative : Bool) (magnitude scale : Nat) : Option Decimal :=
  if h : magnitude < 2 ^ 96 ∧ scale ≤ 28 then some ⟨negative, magnitude, scale, h.1, h.2⟩ else none

/-- Numeric equality, whatever the scales and the sign of zero. -/
def Decimal.eqv (a b : Decimal) : Bool :=
  a.magnitude * 10 ^ b.scale == b.magnitude * 10 ^ a.scale &&
    (a.magnitude == 0 || a.negative == b.negative)

/-- The decimal that is an integer. -/
def Decimal.ofInt? (n : Int) : Option Decimal := Decimal.ofParts? (n < 0) n.natAbs 0

/-- The text: all the places of the scale, and no sign on zero. -/
def Decimal.write (d : Decimal) : String :=
  let ds := Nat.toDigits 10 d.magnitude
  let padded := List.replicate (d.scale + 1 - ds.length) '0' ++ ds
  let whole := padded.take (padded.length - d.scale)
  let places := padded.drop (padded.length - d.scale)
  let text := if d.scale = 0 then whole else whole ++ '.' :: places
  String.ofList (if d.negative ∧ d.magnitude ≠ 0 then '-' :: text else text)

/-! ## Reading -/

/-- Whether a text is made of digits and underscores. -/
def Decimal.digitsOnly (cs : List Char) : Bool := cs.all fun c => c.isDigit || c == '_'

/-- Ends a reading at a fraction digit that does not fit: five and more rounds up. When the rounded
magnitude is too large, one place is dropped, and without a place to drop there is no number. What
is left of the text has to be digits and underscores. -/
def Decimal.roundUp (magnitude scale digit : Nat) (rest : List Char) : Option (Nat × Nat) :=
  if !Decimal.digitsOnly rest then none
  else if digit < 5 then some (magnitude, scale)
  else if magnitude + 1 < 2 ^ 96 then some (magnitude + 1, scale)
  else if scale = 0 then none
  else some ((magnitude + 5) / 10, scale - 1)

/-- The least magnitude that is read on in wide arithmetic: another digit might not fit into 64
bits. -/
def Decimal.wideFrom : Nat := (2 ^ 64 - 1) / 10 - 255

/-- Reads digits with at most one point among them: the magnitude and the scale so far, and whether
a point and a digit have come. Underscores may stand anywhere after the first digit. The digit after
the last place that fits decides the rounding; an underscore there counts as a zero, and is skipped
only when the magnitude is read in wide arithmetic. -/
def Decimal.scan (point digits : Bool) (magnitude scale : Nat) : List Char → Option (Nat × Nat)
  | [] => if digits then some (magnitude, scale) else none
  | c :: rest =>
    if c.isDigit then
      let digit := c.toNat - 48
      let next := magnitude * 10 + digit
      let places := if point then scale + 1 else 0
      if 2 ^ 96 ≤ next then if point then Decimal.roundUp magnitude scale digit rest else none
      else if places < 28 then Decimal.scan point true next places rest
      else
        match rest with
        | [] => some (next, places)
        | '_' :: more =>
          if Decimal.wideFrom ≤ magnitude then Decimal.scan point true next places more
          else Decimal.roundUp next places 0 more
        | d :: more => if d.isDigit then Decimal.roundUp next places (d.toNat - 48) more else none
    else if c = '.' then
      if point then none else Decimal.scan true digits magnitude scale rest
    else if c = '_' && digits then Decimal.scan point digits magnitude scale rest
    else none

/-- Reads an optional sign and digits. Places beyond the 28th, which only an underscore lets in, are
counted modulo 29. -/
def Decimal.readPlain? (cs : List Char) : Option Decimal :=
  let signed (negative : Bool) (body : List Char) : Option Decimal := do
    let r ← Decimal.scan false false 0 0 body
    Decimal.ofParts? negative r.1 (r.2 % 29)
  match cs with
  | '-' :: rest => signed true rest
  | '+' :: rest => signed false rest
  | _ => signed false cs

/-- Reads an exponent below two to the 32nd; a plus sign may stand in front. -/
def Decimal.readExponent? (cs : List Char) : Option Nat :=
  let body := match cs with
    | '+' :: rest => rest
    | _ => cs
  if body.isEmpty || !body.all Char.isDigit then none
  else
    let n := body.foldl (fun n c => n * 10 + (c.toNat - 48)) 0
    if n < 2 ^ 32 then some n else none

/-- Takes places off a magnitude, the last one taken off rounding half up. -/
def Decimal.dropPlaces (magnitude places : Nat) : Nat :=
  if places = 0 then magnitude
  else
    let last := magnitude / 10 ^ (places - 1)
    if 5 ≤ last % 10 then last / 10 + 1 else last / 10

/-- Moves the point to the left. -/
def Decimal.shiftLeft? (d : Decimal) (exponent : Nat) : Option Decimal :=
  if 28 < exponent then none
  else if d.scale + exponent ≤ 28 then Decimal.ofParts? d.negative d.magnitude (d.scale + exponent)
  else Decimal.ofParts? d.negative (Decimal.dropPlaces d.magnitude (d.scale + exponent - 28)) 28

/-- Moves the point to the right. -/
def Decimal.shiftRight? (d : Decimal) (exponent : Nat) : Option Decimal :=
  if exponent ≤ d.scale then Decimal.ofParts? d.negative d.magnitude (d.scale - exponent)
  else if 28 < exponent then none
  else Decimal.ofParts? d.negative (d.magnitude * 10 ^ (exponent - d.scale)) 0

/-- Reads a base, the letter `e` of either case, and an exponent. -/
def Decimal.readScientific? (cs : List Char) : Option Decimal :=
  let isMark (c : Char) : Bool := c == 'e' || c == 'E'
  match cs.dropWhile fun c => !isMark c with
  | [] => none
  | _ :: exponent => do
    let base ← Decimal.readPlain? (cs.takeWhile fun c => !isMark c)
    match exponent with
    | '-' :: rest => do
      let n ← Decimal.readExponent? rest
      base.shiftLeft? n
    | _ => do
      let n ← Decimal.readExponent? exponent
      base.shiftRight? n

/-- Reads a decimal, in plain notation or with an exponent. -/
def Decimal.read? (s : String) : Option Decimal :=
  match Decimal.readPlain? s.toList with
  | some d => some d
  | none => Decimal.readScientific? s.toList

/-! ## Binary numbers -/

/-- The 64-bit number of a decimal: whole and fractional part are converted apart and added, and the
sum is rounded to the places of the scale. -/
def Decimal.toBinary (d : Decimal) : Binary64 :=
  let signed (x : Binary64) : Binary64 := if d.negative && d.magnitude != 0 then x.neg else x
  if d.scale = 0 then signed (.ofNat d.magnitude)
  else
    let unit := 10 ^ d.scale
    let fraction := (Binary64.ofNat (d.magnitude % unit)).div (.ofNat unit)
    let whole := Binary64.ofNat (d.magnitude / unit)
    if fraction.isZero then signed whole
    else signed ((((whole.add fraction).mul (.ofNat unit)).round).div (.ofNat unit))

/-- A magnitude in the making: it stands for `digits` times a power of ten. -/
structure Decimal.Draft where
  digits : Nat
  power : Int

/-- Takes the last digit off, rounding half up. -/
def Decimal.Draft.shed (d : Decimal.Draft) : Decimal.Draft :=
  ⟨d.digits / 10 + (if 5 ≤ d.digits % 10 then 1 else 0), d.power + 1⟩

/-- Takes out factors of one half: each becomes a factor of five and a place, or a bit is lost. -/
def Decimal.Draft.halve : Nat → Decimal.Draft → Decimal.Draft
  | 0, d => d
  | n + 1, d =>
    halve n <|
      if d.digits % 2 = 0 then ⟨d.digits / 2, d.power + 1⟩
      else if d.digits * 5 < 2 ^ 96 then ⟨d.digits * 5, d.power⟩
      else ⟨d.digits / 2, d.power + 1⟩

/-- Puts in factors of two; when there is no room, a factor of five is taken out of the places
instead. -/
def Decimal.Draft.twice : Nat → Decimal.Draft → Option Decimal.Draft
  | 0, d => some d
  | n + 1, d =>
    if d.digits < 2 ^ 95 then twice n ⟨d.digits * 2, d.power - 1⟩
    else if 2 * d.power > n + 1 then none
    else twice n ⟨d.digits / 5, d.power⟩

/-- Writes out the power of ten, if it is positive. -/
def Decimal.Draft.expand : Nat → Decimal.Draft → Option Decimal.Draft
  | 0, d => some d
  | n + 1, d => if d.digits * 10 < 2 ^ 96 then expand n ⟨d.digits * 10, d.power - 1⟩ else none

/-- Sheds digits until at most 28 places are left. -/
def Decimal.Draft.fit : Nat → Decimal.Draft → Decimal.Draft
  | 0, d => d
  | n + 1, d => if d.digits / 10 = 0 then ⟨0, 0⟩ else fit n d.shed

/-- Sheds places until the digits are below two to the 52nd. -/
def Decimal.Draft.trim : Nat → Decimal.Draft → Decimal.Draft
  | 0, d => d
  | n + 1, d => if d.power < 0 ∧ 2 ^ 52 ≤ d.digits then trim n d.shed else d

/-- Takes zeros off the places. -/
def Decimal.Draft.stripZeros : Nat → Decimal.Draft → Decimal.Draft
  | 0, d => d
  | n + 1, d => if d.power < 0 ∧ d.digits % 10 = 0 then stripZeros n ⟨d.digits / 10, d.power + 1⟩ else d

/-- The decimal of a 64-bit number, of about as many digits as the number carries; there is none for
what is not finite or too large. -/
def Decimal.ofBinary? (x : Binary64) : Option Decimal :=
  if !x.isFinite then none
  else if x.isZero then some .zero
  else do
    let power := Format.double.power x.magnitude
    let start : Decimal.Draft := ⟨Format.double.significand x.magnitude, power⟩
    let scaled ← if power < 0 then some (start.halve power.natAbs) else start.twice power.natAbs
    let whole ← scaled.expand scaled.power.toNat
    let fitted := whole.fit (-28 - whole.power).toNat
    let trimmed := fitted.trim 28
    let bare := trimmed.stripZeros 28
    Decimal.ofParts? x.negative bare.digits (-bare.power).toNat

end SqlMapper
