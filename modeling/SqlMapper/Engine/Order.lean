import SqlMapper.Value.Scalar

/-!
# The order of stored values

Null comes first, then numbers by their numeric value, then texts and last blobs, both byte by byte.
Equal in this order are also an integer and the real of the same value.
-/

namespace SqlMapper

/-- Two lists of bytes: the first difference decides, and a proper beginning comes first. -/
def compareBytes : List UInt8 → List UInt8 → Ordering
  | [], [] => .eq
  | [], _ :: _ => .lt
  | _ :: _, [] => .gt
  | a :: as, b :: bs => (compare a.toNat b.toNat).then (compareBytes as bs)

/-- Bytes compare as equal only if they are the same. -/
theorem compareBytes_eq_iff {a b : List UInt8} : compareBytes a b = .eq ↔ a = b := by
  induction a generalizing b with
  | nil => cases b <;> simp [compareBytes]
  | cons x a ih =>
    cases b with
    | nil => simp [compareBytes]
    | cons y b => simp [compareBytes, Ordering.then_eq_eq, ih, UInt8.toNat_inj]

/-- The bytes of a text. -/
def textBytes (s : String) : List UInt8 := s.toUTF8.data.toList

/-- The place of a storage class. -/
def Native.classRank : Native → Nat
  | .null => 0
  | .integer _ | .real _ => 1
  | .text _ => 2
  | .blob _ => 3

/-- The order of stored values. -/
def Native.compare : Native → Native → Ordering
  | .integer a, .integer b => Ord.compare a.toInt b.toInt
  | .integer a, .real b => Binary64.compareInt a.toInt b
  | .real a, .integer b => (Binary64.compareInt b.toInt a).swap
  | .real a, .real b => Ord.compare a.rank b.rank
  | .text a, .text b => compareBytes (textBytes a) (textBytes b)
  | .blob a, .blob b => compareBytes a b
  | a, b => Ord.compare a.classRank b.classRank

/-- Equal in the order of stored values. -/
def Native.same (a b : Native) : Bool := a.compare b == .eq

end SqlMapper
