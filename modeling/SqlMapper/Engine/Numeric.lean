import SqlMapper.Number.Rounded
import SqlMapper.Value.NumberText

/-!
# Numbers and texts of stored values

Where the engine needs a number it reads the longest beginning of a text that is one, and where it
needs a text it writes the number out. Integer arithmetic that leaves 64 bits goes on in reals,
division by zero is null, and so is everything that is done to a null.
-/

namespace SqlMapper

/-! ## Texts -/

/-- Bytes as text: as UTF-8 where they are that, and otherwise a character for a byte. -/
def decodeBytes (bytes : List UInt8) : String :=
  (String.fromUTF8? ⟨bytes.toArray⟩).getD (String.ofList (bytes.map fun b => Char.ofNat b.toNat))

/-- A value as text; null has none. -/
def Native.toText? : Native → Option String
  | .null => none
  | .integer n => some (toString n.toInt)
  | .real x => some x.rounded
  | .text s => some s
  | .blob b => some (decodeBytes b)

/-! ## Values as numbers -/

/-- A value as an operand of arithmetic: an integer or a real, or null. -/
def Native.toNumber : Native → Native
  | .text s => (NumberText.read s).value
  | .blob b => (NumberText.read (decodeBytes b)).value
  | v => v

/-- A value as a real; null has none. -/
def Native.toReal? (v : Native) : Option Binary64 :=
  match v.toNumber with
  | .integer n => some (.ofInt n.toInt)
  | .real x => some x
  | _ => none

/-- The nearest 64-bit integer below or above. -/
def clampInt64 (n : Int) : Int64 := Int64.ofInt (max (-2 ^ 63) (min n (2 ^ 63 - 1)))

/-- The integer part of a real, the outermost integers standing for what lies beyond. -/
def Binary64.toInt64 (x : Binary64) : Int64 :=
  if x.isFinite then clampInt64 x.truncate else if x.negative then clampInt64 (-2 ^ 63) else clampInt64 (2 ^ 63)

/-- A value as an integer; null has none. Of a text only the digits in front count. -/
def Native.toInt64? : Native → Option Int64
  | .null => none
  | .integer n => some n
  | .real x => some x.toInt64
  | .text s => some (clampInt64 (NumberText.read s).integer)
  | .blob b => some (clampInt64 (NumberText.read (decodeBytes b)).integer)

/-- A text that is a number as that number, and every other value as it is. -/
def Native.asNumeric : Native → Native
  | .text s =>
    let t := NumberText.read s
    if t.isComplete then t.value else .text s
  | v => v

/-- A real as a value; NaN is null. -/
def Native.ofReal (x : Binary64) : Native := if x.isNaN then .null else .real x

/-! ## Arithmetic -/

/-- An operation on two numbers: on integers as long as the result is one that fits, and on reals
otherwise. -/
def Native.arithmetic (onInt : Int → Int → Option Int) (onReal : Binary64 → Binary64 → Native) (a b : Native) :
    Native :=
  let reals : Native :=
    match a.toReal?, b.toReal? with
    | some x, some y => onReal x y
    | _, _ => .null
  match a.toNumber, b.toNumber with
  | .integer m, .integer n =>
    match onInt m.toInt n.toInt with
    | some r => if fitsInt64 r then .integer (Int64.ofInt r) else reals
    | none => .null
  | _, _ => reals

/-- The sum. -/
def Native.add (a b : Native) : Native :=
  .arithmetic (fun m n => some (m + n)) (fun x y => .ofReal (x.add y)) a b

/-- The difference. -/
def Native.sub (a b : Native) : Native :=
  .arithmetic (fun m n => some (m - n)) (fun x y => .ofReal (x.sub y)) a b

/-- The product. -/
def Native.mul (a b : Native) : Native :=
  .arithmetic (fun m n => some (m * n)) (fun x y => .ofReal (x.mul y)) a b

/-- The quotient, of integers toward zero; null when the divisor is zero. -/
def Native.div (a b : Native) : Native :=
  .arithmetic (fun m n => if n = 0 then none else some (m.tdiv n))
    (fun x y => if y.isZero then .null else .ofReal (x.div y)) a b

/-- The remainder of the operands as integers; a real when one of them is a real. -/
def Native.rem (a b : Native) : Native :=
  match a.toNumber, b.toNumber with
  | .null, _ | _, .null => .null
  | .integer m, .integer n => if n = 0 then .null else .integer (Int64.ofInt (m.toInt.tmod n.toInt))
  | _, _ =>
    match a.toInt64?, b.toInt64? with
    | some m, some n => if n = 0 then .null else .real (.ofInt (m.toInt.tmod n.toInt))
    | _, _ => .null

/-- An operation on the bits of the operands as integers. -/
def Native.bits (op : Int64 → Int64 → Int64) (a b : Native) : Native :=
  match a.toInt64?, b.toInt64? with
  | some m, some n => .integer (op m n)
  | _, _ => .null

end SqlMapper
