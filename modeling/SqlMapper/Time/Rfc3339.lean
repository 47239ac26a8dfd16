import SqlMapper.Time.DateTime

/-!
# RFC 3339

The interchange text of date-times. It is written when the local year has four digits and the offset
is whole minutes within a day, with the fraction as short as it can be and `Z` for the offset zero.
Reading takes any one-byte separator between date and time, and a leap second where one may be: it
is read as the last nanosecond of the minute.
-/

namespace SqlMapper

/-- The RFC 3339 text; there is none for a year outside 0 to 9999, an offset with seconds or one of
a day and more. -/
def DateTime.rfc3339? (t : DateTime) : Option String :=
  let f := t.fields
  let o := t.offsetParts
  if 0 ≤ f.date.year ∧ f.date.year ≤ 9999 ∧ o.1 ≤ 23 ∧ o.2.2 = 0 then
    let fraction := if f.nano = 0 then [] else '.' :: fractionDigits 9 f.nano
    let zone :=
      if t.offset = 0 then ['Z']
      else (if t.offset < 0 then '-' else '+') :: paddedDigits 2 o.1 ++ ':' :: paddedDigits 2 o.2.1
    some <| String.ofList <|
      paddedDigits 4 f.date.year.natAbs ++ '-' :: paddedDigits 2 f.date.month ++ '-' :: paddedDigits 2 f.date.day ++
        'T' :: paddedDigits 2 f.hour ++ ':' :: paddedDigits 2 f.minute ++ ':' :: paddedDigits 2 f.second ++
        fraction ++ zone
  else none

/-- Reads one given character. -/
def Rfc3339.expect (c : Char) : List Char → Option (List Char)
  | d :: rest => if d = c then some rest else none
  | [] => none

/-- Reads a number of two digits, a separator in front of it. -/
def Rfc3339.field (separator : Char) (cs : List Char) : Option (Nat × List Char) := do
  readDigits? 2 0 (← Rfc3339.expect separator cs)

/-- Nanoseconds of the digits after the point; digits past the ninth are dropped. -/
def Rfc3339.fraction (ds : List Char) : Nat :=
  digitsValue (ds.take 9 ++ List.replicate (9 - ds.length) '0')

/-- Reads an optional fraction: a point and at least one digit. -/
def Rfc3339.readFraction : List Char → Option (Nat × List Char)
  | '.' :: cs =>
    let ds := cs.takeWhile Char.isDigit
    if ds.isEmpty then none else some (Rfc3339.fraction ds, cs.dropWhile Char.isDigit)
  | cs => some (0, cs)

/-- Reads the offset, which ends the text. -/
def Rfc3339.readOffset : List Char → Option Int
  | [] => none
  | c :: cs =>
    if c = 'Z' ∨ c = 'z' then if cs.isEmpty then some 0 else none
    else if c = '+' ∨ c = '-' then do
      let (hours, cs) ← readDigits? 2 0 cs
      let (minutes, cs) ← Rfc3339.field ':' cs
      if 23 < hours ∨ 59 < minutes ∨ !cs.isEmpty then none
      else
        let seconds : Int := hours * 3600 + minutes * 60
        some (if c = '-' then -seconds else seconds)
    else none

/-- Whether an instant lies in the last second of a month in UTC. -/
def DateTime.isLastSecondOfMonth (nanos : Int) : Bool :=
  let f := DateTime.Fields.ofNanos nanos
  f.hour == 23 && f.minute == 59 && f.second == 59 && f.date.day == daysInMonth f.date.year f.date.month

/-- Reads RFC 3339 text. -/
def DateTime.ofRfc3339? (s : String) : Option DateTime := do
  let (year, cs) ← readDigits? 4 0 s.toList
  let (month, cs) ← Rfc3339.field '-' cs
  let (day, cs) ← Rfc3339.field '-' cs
  let (separator, cs) ← match cs with
    | c :: rest => some (c, rest)
    | [] => none
  let (hour, cs) ← readDigits? 2 0 cs
  let (minute, cs) ← Rfc3339.field ':' cs
  let (second, cs) ← Rfc3339.field ':' cs
  let (nano, cs) ← Rfc3339.readFraction cs
  let offset ← Rfc3339.readOffset cs
  let date : CalendarDay := ⟨year, month, day⟩
  if 128 ≤ separator.toNat ∨ !date.isValid ∨ 23 < hour ∨ 59 < minute ∨ 60 < second then none
  else
    let leap := second = 60
    let fields : DateTime.Fields :=
      if leap then ⟨date, hour, minute, 59, 999999999⟩ else ⟨date, hour, minute, second, nano⟩
    let nanos := fields.toNanos - offset * 1000000000
    if leap ∧ !DateTime.isLastSecondOfMonth nanos then none
    else some ⟨nanos, offset⟩

end SqlMapper
