import SqlMapper.Text.Digits
import SqlMapper.Time.Calendar
import SqlMapper.Toml.Basic
import SqlMapper.Toml.Text

/-!
# Numbers, truth values and dates of TOML

What is neither quoted nor bracketed is one word of letters, digits and signs; a date and a time may
also be two words with a space between them. A word is read as a whole: an integer in one of four
bases, a real, a truth value or a date.
-/

namespace SqlMapper

/-! ## Numbers -/

/-- Whether the characters are digits with single underscores between them. -/
def Toml.isDigitRun (isDigit : Char → Bool) : List Char → Bool
  | [] => false
  | [c] => isDigit c
  | c :: '_' :: rest => isDigit c && Toml.isDigitRun isDigit rest
  | c :: rest => isDigit c && Toml.isDigitRun isDigit rest

/-- The number that digits of a base stand for, underscores between them. -/
def Toml.digits? (base : Nat) (cs : List Char) : Option Nat :=
  let isDigit (c : Char) : Bool :=
    match Hex.digit? c with
    | some d => d < base
    | none => false
  if Toml.isDigitRun isDigit cs then
    some ((cs.filterMap Hex.digit?).foldl (fun n d => base * n + d) 0)
  else none

/-- The sign in front, if there is one, and the rest. -/
def Toml.sign : List Char → Bool × List Char
  | '-' :: rest => (true, rest)
  | '+' :: rest => (false, rest)
  | cs => (false, cs)

/-- A decimal number without a sign: no zero in front of other digits. -/
def Toml.natural? (cs : List Char) : Option Nat :=
  match cs with
  | '0' :: _ :: _ => none
  | _ => Toml.digits? 10 cs

/-- A number of a base that its first two characters name. -/
def Toml.basedInteger? : List Char → Option Nat
  | '0' :: 'x' :: rest => Toml.digits? 16 rest
  | '0' :: 'o' :: rest => Toml.digits? 8 rest
  | '0' :: 'b' :: rest => Toml.digits? 2 rest
  | _ => none

/-- An integer; it has to fit 64 bits. -/
def Toml.integer? (cs : List Char) : Option Toml :=
  let bounded (n : Int) : Option Toml := if -2 ^ 63 ≤ n ∧ n < 2 ^ 63 then some (.integer n) else none
  match Toml.basedInteger? cs with
  | some n => bounded n
  | none => do
    let (negative, digits) := Toml.sign cs
    let n ← Toml.natural? digits
    bounded (if negative then -n else n)

/-- The characters before and after the first one that is among the given ones. -/
def Toml.splitAtFirst (marks : List Char) (cs : List Char) : List Char × Option (List Char) :=
  match cs.dropWhile fun c => !marks.contains c with
  | [] => (cs, none)
  | _ :: rest => (cs.takeWhile fun c => !marks.contains c, some rest)

/-- A real: digits with a point, an exponent or both. One too large on the positive side is refused.
-/
def Toml.real? (cs : List Char) : Option Toml := do
  let (negative, rest) := Toml.sign cs
  let (mantissa, exponent) := Toml.splitAtFirst ['e', 'E'] rest
  let (whole, fraction) := Toml.splitAtFirst ['.'] mantissa
  if exponent.isNone && fraction.isNone then none
  else
    let whole ← Toml.natural? whole
    let places ← match fraction with
      | some ds => if Toml.isDigitRun Char.isDigit ds then some (ds.filter Char.isDigit) else none
      | none => some []
    let power ← match exponent with
      | some ds =>
        let (negative, ds) := Toml.sign ds
        (Toml.digits? 10 ds).map fun n => if negative then -(n : Int) else n
      | none => some 0
    let digits := places.foldl (fun n c => 10 * n + (c.toNat - 48)) whole
    let magnitude := Format.double.ofDecimal digits (power - places.length)
    if magnitude = Format.double.infinity ∧ !negative then none
    else some (.real (.ofMagnitude negative magnitude))

/-- Infinity and NaN, by name. -/
def Toml.namedReal? (cs : List Char) : Option Toml :=
  let (negative, name) := Toml.sign cs
  if name = ['i', 'n', 'f'] then some (.real (.infinity negative))
  else if name = ['n', 'a', 'n'] then some (.real .nan)
  else none

/-! ## Dates and times -/

/-- Takes a date off: a day of the calendar. -/
def Toml.afterDate? (cs : List Char) : Option (List Char) := do
  let (year, cs) ← readDigits? 4 0 cs
  match cs with
  | '-' :: cs => do
    let (month, cs) ← readDigits? 2 0 cs
    match cs with
    | '-' :: cs => do
      let (day, cs) ← readDigits? 2 0 cs
      if (CalendarDay.mk year month day).isValid then some cs else none
    | _ => none
  | _ => none

/-- Takes hours and minutes off. -/
def Toml.afterMinutes? (cs : List Char) : Option (List Char) := do
  let (hour, cs) ← readDigits? 2 0 cs
  match cs with
  | ':' :: cs => do
    let (minute, cs) ← readDigits? 2 0 cs
    if hour ≤ 23 ∧ minute ≤ 59 then some cs else none
  | _ => none

/-- Takes a fraction of a second off, if there is one. -/
def Toml.afterFraction? : List Char → Option (List Char)
  | '.' :: cs => if (cs.takeWhile Char.isDigit).isEmpty then none else some (cs.dropWhile Char.isDigit)
  | cs => some cs

/-- Takes a time off; a second of sixty may be a leap second. -/
def Toml.afterTime? (cs : List Char) : Option (List Char) := do
  match ← Toml.afterMinutes? cs with
  | ':' :: cs => do
    let (second, cs) ← readDigits? 2 0 cs
    if second ≤ 60 then Toml.afterFraction? cs else none
  | _ => none

/-- Whether the characters are an offset from UTC, or none at all. -/
def Toml.isOffset : List Char → Bool
  | [] => true
  | c :: cs =>
    if c = 'Z' ∨ c = 'z' then cs.isEmpty
    else (c = '+' ∨ c = '-') && Toml.afterMinutes? cs == some []

/-- Whether a word is a date alone. -/
def Toml.isDate (cs : List Char) : Bool := Toml.afterDate? cs == some []

/-- A date, a time, or both and perhaps an offset. -/
def Toml.moment? (cs : List Char) : Option Toml :=
  let valid :=
    match Toml.afterDate? cs with
    | some [] => true
    | some (c :: rest) =>
      (c = 'T' ∨ c = 't' ∨ c = ' ') &&
        match Toml.afterTime? rest with
        | some rest => Toml.isOffset rest
        | none => false
    | none => Toml.afterTime? cs == some []
  if valid then some (.moment (String.ofList cs)) else none

/-! ## Words -/

/-- Characters of a word. -/
def Toml.isWordChar (c : Char) : Bool :=
  c.isAlphanum || c == '+' || c == '-' || c == '_' || c == '.' || c == ':'

/-- A word of the text and what follows it; after a date and a space a time belongs to the word. -/
def Toml.word (cs : List Char) : List Char × List Char :=
  let w := cs.takeWhile Toml.isWordChar
  let rest := cs.dropWhile Toml.isWordChar
  match rest with
  | ' ' :: d :: more =>
    if Toml.isDate w ∧ d.isDigit then
      (w ++ ' ' :: (d :: more).takeWhile Toml.isWordChar, (d :: more).dropWhile Toml.isWordChar)
    else (w, rest)
  | _ => (w, rest)

/-- The value that a word stands for. -/
def Toml.ofWord? (w : List Char) : Option Toml :=
  if w = ['t', 'r', 'u', 'e'] then some (.boolean true)
  else if w = ['f', 'a', 'l', 's', 'e'] then some (.boolean false)
  else (Toml.integer? w).or ((Toml.real? w).or ((Toml.namedReal? w).or (Toml.moment? w)))

/-- Reads a word as a value. -/
def Toml.readWord (cs : List Char) : Option (Toml × List Char) :=
  let r := Toml.word cs
  (Toml.ofWord? r.1).map fun v => (v, r.2)

end SqlMapper
