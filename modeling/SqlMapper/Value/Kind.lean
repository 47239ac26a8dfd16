import SqlMapper.Number.Power

/-!
# Kinds of values

The kinds of scalars that columns are declared with. The eight integer kinds differ only in their
range, so they are one constructor with a width.
-/

namespace SqlMapper

/-- The widths of integers, signed and unsigned. -/
inductive IntegerKind where
  | i8 | i16 | i32 | i64 | u8 | u16 | u32 | u64
  deriving DecidableEq, Repr

/-- The kinds of scalars. -/
inductive Kind where
  | bool
  | integer (kind : IntegerKind)
  | f32
  | f64
  | decimal
  | text
  | bytes
  | dateTime
  | timeSpan
  | uuid
  | url
  deriving DecidableEq, Repr

/-- The least integer of a kind. -/
def IntegerKind.low : IntegerKind → Int
  | .i8 => -2 ^ 7
  | .i16 => -2 ^ 15
  | .i32 => -2 ^ 31
  | .i64 => -2 ^ 63
  | .u8 | .u16 | .u32 | .u64 => 0

/-- The greatest integer of a kind. -/
def IntegerKind.high : IntegerKind → Int
  | .i8 => 2 ^ 7 - 1
  | .i16 => 2 ^ 15 - 1
  | .i32 => 2 ^ 31 - 1
  | .i64 => 2 ^ 63 - 1
  | .u8 => 2 ^ 8 - 1
  | .u16 => 2 ^ 16 - 1
  | .u32 => 2 ^ 32 - 1
  | .u64 => 2 ^ 64 - 1

/-- Whether an integer is of a kind. -/
def IntegerKind.Contains (k : IntegerKind) (n : Int) : Prop := k.low ≤ n ∧ n ≤ k.high

instance (k : IntegerKind) (n : Int) : Decidable (k.Contains n) :=
  inferInstanceAs (Decidable (k.low ≤ n ∧ n ≤ k.high))

/-- The name of a width. -/
def IntegerKind.name : IntegerKind → String
  | .i8 => "i8"
  | .i16 => "i16"
  | .i32 => "i32"
  | .i64 => "i64"
  | .u8 => "u8"
  | .u16 => "u16"
  | .u32 => "u32"
  | .u64 => "u64"

/-- All widths. -/
def IntegerKind.all : List IntegerKind := [.i8, .i16, .i32, .i64, .u8, .u16, .u32, .u64]

/-- The name of a kind, as messages have it. -/
def Kind.name : Kind → String
  | .bool => "bool"
  | .integer k => k.name
  | .f32 => "f32"
  | .f64 => "f64"
  | .decimal => "decimal"
  | .text => "text"
  | .bytes => "bytes"
  | .dateTime => "datetime"
  | .timeSpan => "timespan"
  | .uuid => "uuid"
  | .url => "url"

/-- The key of a kind in stored settings: its name with the words set apart. -/
def Kind.key : Kind → String
  | .dateTime => "date_time"
  | .timeSpan => "time_span"
  | k => k.name

/-- The name of a kind with its words capitalised. -/
def Kind.title : Kind → String
  | .bool => "Bool"
  | .integer .i8 => "I8"
  | .integer .i16 => "I16"
  | .integer .i32 => "I32"
  | .integer .i64 => "I64"
  | .integer .u8 => "U8"
  | .integer .u16 => "U16"
  | .integer .u32 => "U32"
  | .integer .u64 => "U64"
  | .f32 => "F32"
  | .f64 => "F64"
  | .decimal => "Decimal"
  | .text => "Text"
  | .bytes => "Bytes"
  | .dateTime => "DateTime"
  | .timeSpan => "TimeSpan"
  | .uuid => "Uuid"
  | .url => "Url"

/-- All kinds. -/
def Kind.all : List Kind :=
  [.bool] ++ IntegerKind.all.map .integer ++
    [.f32, .f64, .decimal, .text, .bytes, .dateTime, .timeSpan, .uuid, .url]

/-- The kind with a name. -/
def Kind.ofName? (name : String) : Option Kind := Kind.all.find? fun k => k.name = name

/-- The kind with a key. -/
def Kind.ofKey? (key : String) : Option Kind := Kind.all.find? fun k => k.key = key

/-- Whether a kind is one of the integer kinds. -/
def Kind.isInteger : Kind → Bool
  | .integer _ => true
  | _ => false

end SqlMapper
