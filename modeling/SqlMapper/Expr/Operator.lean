import SqlMapper.Sql.Term

/-!
# Operators

The operators that an expression may be built with. Some have no spelling in SQL; an expression with
one of those is refused when it is compiled.
-/

namespace SqlMapper

/-- Binary operators. -/
inductive Operator where
  | gt | ge | lt | le
  | bitAnd | and | bitOr | or
  | eq | ne
  | add | sub | mul | div | rem
  | concat
  | xor | shl | shr | power | coalesce
  deriving DecidableEq, Repr

/-- The SQL operator that stands for an operator, if there is one. -/
def Operator.toSql? : Operator → Option Sql.BinaryOp
  | .gt => some .gt
  | .ge => some .ge
  | .lt => some .lt
  | .le => some .le
  | .bitAnd => some .bitAnd
  | .and => some .and
  | .bitOr => some .bitOr
  | .or => some .or
  | .eq => some .eq
  | .ne => some .ne
  | .add => some .add
  | .sub => some .sub
  | .mul => some .mul
  | .div => some .div
  | .rem => some .rem
  | .concat => some .concat
  | .xor | .shl | .shr | .power | .coalesce => none

/-- The spelling of an operator in SQL, if it has one. -/
def Operator.sql? (op : Operator) : Option String := op.toSql?.map Sql.BinaryOp.text

/-- The name of an operator. -/
def Operator.name : Operator → String
  | .gt => "Gt"
  | .ge => "Ge"
  | .lt => "Lt"
  | .le => "Le"
  | .bitAnd => "BitAnd"
  | .and => "And"
  | .bitOr => "BitOr"
  | .or => "Or"
  | .eq => "Eq"
  | .ne => "Ne"
  | .add => "Add"
  | .sub => "Sub"
  | .mul => "Mul"
  | .div => "Div"
  | .rem => "Rem"
  | .concat => "Concat"
  | .xor => "Xor"
  | .shl => "Shl"
  | .shr => "Shr"
  | .power => "Power"
  | .coalesce => "Coalesce"

/-- All operators. -/
def Operator.all : List Operator :=
  [.gt, .ge, .lt, .le, .bitAnd, .and, .bitOr, .or, .eq, .ne, .add, .sub, .mul, .div, .rem, .concat, .xor, .shl,
    .shr, .power, .coalesce]

/-- The operator with a name. -/
def Operator.ofName? (name : String) : Option Operator :=
  Operator.all.find? fun op => op.name = name

end SqlMapper
