import SqlMapper.Expr.Operator
import SqlMapper.Value.Scalar

/-!
# Expressions

Expressions over columns, constants and named parameters, as trees. They are built with the
functions below, one for each operator and method; nothing is checked until an expression is
compiled.
-/

namespace SqlMapper

/-- A reference to a column by name or property, with or without its table. -/
structure ColumnRef where
  table : Option String
  column : String
  deriving DecidableEq, Repr

/-- An expression. -/
inductive Expr where
  | constant (value : Scalar)
  | list (values : List Scalar)
  | parameter (name : String)
  | column (ref : ColumnRef)
  | binary (op : Operator) (left right : Expr)
  | not (operand : Expr)
  | method (name : String) (receiver : Expr) (args : List Expr)
  | call (name : String) (args : List Expr)
  | convert (operand : Expr) (target : Kind)

/-- The name of the sort of an expression's root. -/
def Expr.sort : Expr → String
  | .constant _ => "Constant"
  | .list _ => "ConstantList"
  | .parameter _ => "Parameter"
  | .column _ => "ColumnRef"
  | .binary .. => "Binary"
  | .not _ => "Not"
  | .method .. => "Call"
  | .call .. => "Call"
  | .convert .. => "Convert"

mutual

/-- Equality of expressions: the same tree, with constants equal as values. -/
def Expr.eqv : Expr → Expr → Bool
  | .constant a, .constant b => a.eqv b
  | .list as, .list bs => Scalar.eqvList as bs
  | .parameter a, .parameter b => a == b
  | .column a, .column b => a == b
  | .binary f a b, .binary g c d => f == g && a.eqv c && b.eqv d
  | .not a, .not b => a.eqv b
  | .method f r as, .method g s bs => f == g && r.eqv s && Expr.eqvList as bs
  | .call f as, .call g bs => f == g && Expr.eqvList as bs
  | .convert a k, .convert b l => a.eqv b && k == l
  | _, _ => false

/-- Equality of two lists of expressions, item by item. -/
def Expr.eqvList : List Expr → List Expr → Bool
  | [], [] => true
  | a :: as, b :: bs => a.eqv b && Expr.eqvList as bs
  | _, _ => false

end

/-! ## Leaves -/

/-- A column of any table in scope. -/
def Expr.ofColumn (column : String) : Expr := .column ⟨none, column⟩

/-- A column of one table. -/
def Expr.ofTableColumn (table column : String) : Expr := .column ⟨some table, column⟩

/-- The constant null. -/
def Expr.null : Expr := .constant .null

/-! ## Operators -/

def Expr.eq (a b : Expr) : Expr := .binary .eq a b
def Expr.ne (a b : Expr) : Expr := .binary .ne a b
def Expr.gt (a b : Expr) : Expr := .binary .gt a b
def Expr.ge (a b : Expr) : Expr := .binary .ge a b
def Expr.lt (a b : Expr) : Expr := .binary .lt a b
def Expr.le (a b : Expr) : Expr := .binary .le a b
def Expr.and (a b : Expr) : Expr := .binary .and a b
def Expr.or (a b : Expr) : Expr := .binary .or a b
def Expr.bitAnd (a b : Expr) : Expr := .binary .bitAnd a b
def Expr.bitOr (a b : Expr) : Expr := .binary .bitOr a b
def Expr.concat (a b : Expr) : Expr := .binary .concat a b
def Expr.add (a b : Expr) : Expr := .binary .add a b
def Expr.sub (a b : Expr) : Expr := .binary .sub a b
def Expr.mul (a b : Expr) : Expr := .binary .mul a b
def Expr.div (a b : Expr) : Expr := .binary .div a b
def Expr.rem (a b : Expr) : Expr := .binary .rem a b

/-- Is null; written as an equality with the constant null. -/
def Expr.isNull (a : Expr) : Expr := a.eq .null

/-- Is not null; written as an inequality with the constant null. -/
def Expr.isNotNull (a : Expr) : Expr := a.ne .null

/-! ## Methods -/

def Expr.like (a pattern : Expr) : Expr := .method "Like" a [pattern]

/-- Holds the needle as a part, or as a member when the receiver is a list. -/
def Expr.contains (a needle : Expr) : Expr := .method "Contains" a [needle]

def Expr.startsWith (a start : Expr) : Expr := .method "StartsWith" a [start]
def Expr.endsWith (a ending : Expr) : Expr := .method "EndsWith" a [ending]
def Expr.equals (a b : Expr) : Expr := .method "Equals" a [b]
def Expr.is (a b : Expr) : Expr := .method "Is" a [b]
def Expr.isNot (a b : Expr) : Expr := .method "IsNot" a [b]
def Expr.toLower (a : Expr) : Expr := .method "ToLower" a []
def Expr.toUpper (a : Expr) : Expr := .method "ToUpper" a []
def Expr.trim (a : Expr) : Expr := .method "Trim" a []
def Expr.replace (a old new : Expr) : Expr := .method "Replace" a [old, new]

/-- Is a member of a list of constants. -/
def Expr.inList (a : Expr) (values : List Scalar) : Expr := .call "Contains" [.list values, a]

/-- Is null or the empty text. -/
def Expr.isNullOrEmpty (a : Expr) : Expr := .call "IsNullOrEmpty" [a]

end SqlMapper
