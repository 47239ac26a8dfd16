import SqlMapper.Error

/-!
# Rows

A row of a result: column names in the order of the result, and their values. A column is found by
the first occurrence of its name, and read as a kind that may or may not allow null.
-/

namespace SqlMapper

/-- A row of a result. -/
structure Row where
  columns : List String
  values : List Native
  coercion : Coercion
  deriving DecidableEq

/-- The position of the first column with a name. -/
def Row.position? (r : Row) (name : String) : Option Nat := r.columns.findIdx? fun c => c == name

/-- The stored value of the first column with a name. -/
def Row.value? (r : Row) (name : String) : Option Native :=
  (r.position? name).bind fun i => r.values[i]?

/-- The value at a position, read as a kind. -/
def Row.getAt (r : Row) (kind : Kind) (optional : Bool) (index : Nat) : Except Error Scalar :=
  match r.values[index]? with
  | none => .error (.operation (.indexOutOfRange index r.values.length))
  | some v => Error.ofCoercion do
    let s ← v.toScalar kind
    if optional then s.expectOptional kind else s.expect kind

/-- The value of a column, read as a kind. -/
def Row.get (r : Row) (kind : Kind) (optional : Bool) (name : String) : Except Error Scalar :=
  match r.position? name with
  | none => .error (.unknownColumn none name)
  | some i => r.getAt kind optional i

end SqlMapper
