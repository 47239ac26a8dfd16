import SqlMapper.Number.Decimal
import SqlMapper.Number.Shortest
import SqlMapper.Time.DateTime
import SqlMapper.Url
import SqlMapper.Uuid
import SqlMapper.Value.Kind

/-!
# Stored values and scalars

The store holds five classes of values (`Native`). A mapped column is declared with a kind, and its
values on the side of the application are scalars of that kind, or null (`Scalar`). Equality of
scalars is that of their kinds: numeric for decimals and floats, by instant for date-times.
-/

namespace SqlMapper

/-- A value as the store holds it. -/
inductive Native where
  | null
  | integer (value : Int64)
  | real (value : Binary64)
  | text (value : String)
  | blob (value : List UInt8)
  deriving DecidableEq, Inhabited

/-- Whether a stored value is a blob. -/
def Native.isBlob : Native → Bool
  | .blob _ => true
  | _ => false

/-- Whether a stored value is null. -/
def Native.isNull : Native → Bool
  | .null => true
  | _ => false

/-- The name of the storage class of a value. -/
def Native.className : Native → String
  | .null => "null"
  | .integer _ => "integer"
  | .real _ => "real"
  | .text _ => "text"
  | .blob _ => "blob"

/-- A value of the application. -/
inductive Scalar where
  | null
  | bool (value : Bool)
  | integer (kind : IntegerKind) (value : Int) (inRange : kind.Contains value)
  | f32 (value : Binary32)
  | f64 (value : Binary64)
  | decimal (value : Decimal)
  | text (value : String)
  | bytes (value : List UInt8)
  | dateTime (value : DateTime)
  | timeSpan (value : Span)
  | uuid (value : Uuid)
  | url (value : Url)
  deriving DecidableEq

/-- The integer of a kind, if it is in range. -/
def Scalar.integer? (kind : IntegerKind) (value : Int) : Option Scalar :=
  if h : kind.Contains value then some (.integer kind value h) else none

/-- The kind of a scalar; null has none. -/
def Scalar.kind? : Scalar → Option Kind
  | .null => none
  | .bool _ => some .bool
  | .integer k _ _ => some (.integer k)
  | .f32 _ => some .f32
  | .f64 _ => some .f64
  | .decimal _ => some .decimal
  | .text _ => some .text
  | .bytes _ => some .bytes
  | .dateTime _ => some .dateTime
  | .timeSpan _ => some .timeSpan
  | .uuid _ => some .uuid
  | .url _ => some .url

def Scalar.isNull : Scalar → Bool
  | .null => true
  | _ => false

/-- Equality of values: of one kind, and equal as values of that kind. -/
def Scalar.eqv : Scalar → Scalar → Bool
  | .null, .null => true
  | .bool a, .bool b => a == b
  | .integer j a _, .integer k b _ => j == k && a == b
  | .f32 a, .f32 b => a.eqv b
  | .f64 a, .f64 b => a.eqv b
  | .decimal a, .decimal b => a.eqv b
  | .text a, .text b => a == b
  | .bytes a, .bytes b => a == b
  | .dateTime a, .dateTime b => a.eqv b
  | .timeSpan a, .timeSpan b => a == b
  | .uuid a, .uuid b => a.bytes == b.bytes
  | .url a, .url b => a.text == b.text
  | _, _ => false

/-- Equality of two lists of scalars, item by item. -/
def Scalar.eqvList : List Scalar → List Scalar → Bool
  | [], [] => true
  | a :: as, b :: bs => a.eqv b && Scalar.eqvList as bs
  | _, _ => false

end SqlMapper
