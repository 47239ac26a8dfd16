import SqlMapper.Time.Rfc3339
import SqlMapper.Value.Scalar

/-!
# Coercion between scalars and stored values

`Scalar.toNative` stores a scalar and `Native.toScalar` reads a stored value as a kind. Integers and
booleans are stored as integers, floats and decimals as reals, date-times as nanoseconds or as RFC
3339 text, spans as nanoseconds, UUIDs and URLs as text. Reading takes every stored class that the
kind can be made of, both forms of date-times among them, and a null reads as null for every kind.
-/

namespace SqlMapper

/-- How scalars are stored. -/
structure Coercion where
  /-- Date-times are stored as nanoseconds, otherwise as RFC 3339 text. -/
  dateTimeAsTicks : Bool := true
  deriving DecidableEq, Repr

/-- Why a value cannot be stored, or not be read as a kind. -/
inductive CoercionError where
  | unsignedTooLarge (value : Int)
  | dateTimeOutOfTicks (value : DateTime)
  | dateTimeNotWritable (value : DateTime)
  | spanOutOfTicks (value : Span)
  | wrongClass (value : Native) (kind : Kind)
  | outOfRange (value : Int) (kind : Kind)
  | notDecimal (text : String)
  | realNotDecimal (value : Binary64)
  | notDateTime (text : String)
  | notUuidText (text : String)
  | notUuidBlob
  | notUrl (text : String)
  | nullNotOptional (kind : Kind)
  | otherKind (expected found : Kind)
  deriving DecidableEq

/-- The wording of each cause. -/
def CoercionError.message : CoercionError → String
  | .unsignedTooLarge v => s!"u64 value {v} exceeds the INTEGER range"
  | .dateTimeOutOfTicks v => "datetime " ++ v.display ++ " does not fit in 64-bit nanoseconds"
  | .dateTimeNotWritable v => "datetime " ++ v.display ++ " cannot be formatted"
  | .spanOutOfTicks v => "timespan " ++ v.display ++ " does not fit in 64-bit nanoseconds"
  | .wrongClass v k => "cannot read " ++ v.className ++ " value as " ++ k.name
  | .outOfRange v k => s!"{v} is out of range for " ++ k.name
  | .notDecimal text => "'" ++ text ++ "' is not a decimal"
  | .realNotDecimal v => "real " ++ v.plain ++ " has no decimal representation"
  | .notDateTime text => "'" ++ text ++ "' is not RFC 3339"
  | .notUuidText text => "'" ++ text ++ "' is not a uuid"
  | .notUuidBlob => "blob is not a uuid"
  | .notUrl text => "'" ++ text ++ "' is not a url"
  | .nullNotOptional k => "NULL cannot be read as non-optional " ++ k.name
  | .otherKind expected found => "expected " ++ expected.name ++ ", found Some(" ++ found.title ++ ")"

/-- A 64-bit integer that an integer is, if it is in range. -/
def int64? (n : Int) : Option Int64 :=
  if IntegerKind.i64.Contains n then some (Int64.ofInt n) else none

/-! ## Storing -/

/-- Stores a date-time. -/
def DateTime.toNative (options : Coercion) (t : DateTime) : Except CoercionError Native :=
  if options.dateTimeAsTicks then
    match int64? t.nanos with
    | some n => .ok (.integer n)
    | none => .error (.dateTimeOutOfTicks t)
  else
    match t.rfc3339? with
    | some s => .ok (.text s)
    | none => .error (.dateTimeNotWritable t)

/-- Stores a scalar. -/
def Scalar.toNative (options : Coercion) : Scalar → Except CoercionError Native
  | .null => .ok .null
  | .bool b => .ok (.integer (if b then 1 else 0))
  | .integer _ n _ =>
    match int64? n with
    | some n => .ok (.integer n)
    | none => .error (.unsignedTooLarge n)
  | .f32 x => .ok (.real x.widen)
  | .f64 x => .ok (.real x)
  | .decimal d => .ok (.real d.toBinary)
  | .text s => .ok (.text s)
  | .bytes b => .ok (.blob b)
  | .dateTime t => t.toNative options
  | .timeSpan s =>
    match int64? s.nanos with
    | some n => .ok (.integer n)
    | none => .error (.spanOutOfTicks s)
  | .uuid u => .ok (.text u.write)
  | .url u => .ok (.text u.text)

/-! ## Reading -/

/-- Reads an integer: one that is stored, or a stored real that is a 64-bit integer. -/
def Native.readInteger (kind : Kind) (v : Native) : Except CoercionError Int64 :=
  match v with
  | .integer n => .ok n
  | .real x =>
    match x.toInt?.bind int64? with
    | some n => .ok n
    | none => .error (.wrongClass v kind)
  | _ => .error (.wrongClass v kind)

/-- Reads a real: one that is stored, or the one nearest to a stored integer. -/
def Native.readReal (kind : Kind) (v : Native) : Except CoercionError Binary64 :=
  match v with
  | .real x => .ok x
  | .integer n => .ok (.ofInt n.toInt)
  | _ => .error (.wrongClass v kind)

/-- Reads an integer of a width. -/
def Native.readWidth (k : IntegerKind) (v : Native) : Except CoercionError Scalar := do
  let n ← v.readInteger (.integer k)
  match Scalar.integer? k n.toInt with
  | some s => .ok s
  | none => .error (.outOfRange n.toInt (.integer k))

/-- A reading that may fail. -/
def CoercionError.orElse {α : Type} (cause : CoercionError) : Option α → Except CoercionError α
  | some a => .ok a
  | none => .error cause

/-- Reads a stored value as a kind. -/
def Native.toScalar (kind : Kind) (v : Native) : Except CoercionError Scalar :=
  if v.isNull then .ok .null
  else
    match kind with
    | .bool => do return .bool ((← v.readInteger kind) != 0)
    | .integer k => v.readWidth k
    | .f32 => do return .f32 (← v.readReal kind).narrow
    | .f64 => do return .f64 (← v.readReal kind)
    | .decimal =>
      match v with
      | .text s => do return .decimal (← CoercionError.orElse (.notDecimal s) (Decimal.read? s))
      | .integer n => do return .decimal (← CoercionError.orElse (.wrongClass v kind) (Decimal.ofInt? n.toInt))
      | .real x => do return .decimal (← CoercionError.orElse (.realNotDecimal x) (Decimal.ofBinary? x))
      | _ => .error (.wrongClass v kind)
    | .text =>
      match v with
      | .text s => .ok (.text s)
      | .integer n => .ok (.text (toString n.toInt))
      | .real x => .ok (.text x.plain)
      | _ => .error (.wrongClass v kind)
    | .bytes =>
      match v with
      | .blob b => .ok (.bytes b)
      | .text s => .ok (.bytes s.toUTF8.data.toList)
      | _ => .error (.wrongClass v kind)
    | .dateTime =>
      match v with
      | .integer n => .ok (.dateTime ⟨n.toInt, 0⟩)
      | .text s => do return .dateTime (← CoercionError.orElse (.notDateTime s) (DateTime.ofRfc3339? s))
      | _ => .error (.wrongClass v kind)
    | .timeSpan => do return .timeSpan ⟨(← v.readInteger kind).toInt⟩
    | .uuid =>
      match v with
      | .text s => do return .uuid (← CoercionError.orElse (.notUuidText s) (Uuid.read? s))
      | .blob b => do return .uuid (← CoercionError.orElse .notUuidBlob (Uuid.ofBytes? b))
      | _ => .error (.wrongClass v kind)
    | .url =>
      match v with
      | .text s => do return .url (← CoercionError.orElse (.notUrl s) (Url.read? s))
      | _ => .error (.wrongClass v kind)

/-- Takes a scalar as a value of a kind, where null is no value. -/
def Scalar.expect (kind : Kind) (s : Scalar) : Except CoercionError Scalar :=
  match s.kind? with
  | none => .error (.nullNotOptional kind)
  | some found => if found = kind then .ok s else .error (.otherKind kind found)

/-- Takes a scalar as a value of a kind or null. -/
def Scalar.expectOptional (kind : Kind) (s : Scalar) : Except CoercionError Scalar :=
  if s.isNull then .ok .null else s.expect kind

end SqlMapper
