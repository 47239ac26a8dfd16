import SqlMapper.Text.Digits
import SqlMapper.Time.Calendar

/-!
# Date-times and time spans

A date-time is an instant, counted in nanoseconds from the start of 1970 in UTC, together with the
offset at which its fields are shown. Two date-times are the same moment when their instants are
equal, whatever their offsets. A span is a signed number of nanoseconds.
-/

namespace SqlMapper

/-- An instant in nanoseconds, and the offset from UTC in seconds at which it is shown. -/
structure DateTime where
  nanos : Int
  offset : Int
  deriving DecidableEq, Repr

/-- The same moment, whatever the offsets. -/
def DateTime.eqv (a b : DateTime) : Bool := a.nanos == b.nanos

/-- The fields of a date-time. -/
structure DateTime.Fields where
  date : CalendarDay
  hour : Nat
  minute : Nat
  second : Nat
  nano : Nat
  deriving DecidableEq, Repr

/-- The fields of an instant, read in UTC. -/
def DateTime.Fields.ofNanos (nanos : Int) : DateTime.Fields :=
  let seconds := nanos / 1000000000
  let ofDay := (seconds % 86400).toNat
  { date := .ofDays (seconds / 86400)
    hour := ofDay / 3600
    minute := ofDay / 60 % 60
    second := ofDay % 60
    nano := (nanos % 1000000000).toNat }

/-- The instant of fields that are read in UTC. -/
def DateTime.Fields.toNanos (f : DateTime.Fields) : Int :=
  (f.date.toDays * 86400 + f.hour * 3600 + f.minute * 60 + f.second) * 1000000000 + f.nano

/-- The fields at the date-time's own offset. -/
def DateTime.fields (t : DateTime) : DateTime.Fields := .ofNanos (t.nanos + t.offset * 1000000000)

/-- Hours, minutes and seconds of an offset, without its sign. -/
def DateTime.offsetParts (t : DateTime) : Nat × Nat × Nat :=
  let n := t.offset.natAbs
  (n / 3600, n / 60 % 60, n % 60)

/-- The text in messages: date, time with at least one place after the point, and the offset to the
second. The hour stands without a zero in front. -/
def DateTime.display (t : DateTime) : String :=
  let f := t.fields
  let fraction := if f.nano = 0 then ['0'] else fractionDigits 9 f.nano
  let o := t.offsetParts
  let sign (negative : Bool) : List Char := if negative then ['-'] else []
  String.ofList <|
    sign (f.date.year < 0) ++ paddedDigits 4 f.date.year.natAbs ++ '-' :: paddedDigits 2 f.date.month ++
      '-' :: paddedDigits 2 f.date.day ++
      ' ' :: Nat.toDigits 10 f.hour ++ ':' :: paddedDigits 2 f.minute ++ ':' :: paddedDigits 2 f.second ++
      '.' :: fraction ++
      ' ' :: (if t.offset < 0 then '-' else '+') :: paddedDigits 2 o.1 ++ ':' :: paddedDigits 2 o.2.1 ++
      ':' :: paddedDigits 2 o.2.2

/-- A signed number of nanoseconds. -/
structure Span where
  nanos : Int
  deriving DecidableEq, Repr

/-- The parts of a span that are not zero, each with its unit. -/
def Span.parts (n : Nat) : List (Nat × String) :=
  [(n / 86400000000000, "d"), (n / 3600000000000 % 24, "h"), (n / 60000000000 % 60, "m"),
    (n / 1000000000 % 60, "s"), (n / 1000000 % 1000, "ms"), (n / 1000 % 1000, "µs"), (n % 1000, "ns")].filter
    fun p => p.1 != 0

/-- The text in messages: the sign, and the parts that are not zero from days to nanoseconds. -/
def Span.display (s : Span) : String :=
  let parts := Span.parts s.nanos.natAbs
  let text := if parts.isEmpty then "0s" else String.join (parts.map fun p => toString p.1 ++ p.2)
  if s.nanos < 0 then "-" ++ text else text

end SqlMapper
