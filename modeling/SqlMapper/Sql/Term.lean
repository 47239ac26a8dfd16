import SqlMapper.Text.Hex
import SqlMapper.Text.Quoted
import SqlMapper.Value.Scalar

/-!
# SQL expressions

The expressions of the SQL that is sent, as syntax: what stands in parentheses is a node of its own,
so the text of a term shows every parenthesis that is in it and no other. `Sql.BinaryOp.level` is
the precedence by which the text is grouped when it is read; a term whose operands are looser than
its operator is therefore read back as another term.
-/

namespace SqlMapper

namespace Sql

/-- The binary operators of SQL. -/
inductive BinaryOp where
  | or | and
  | eq | ne | is | isNot | like
  | lt | le | gt | ge
  | bitAnd | bitOr
  | add | sub
  | mul | div | rem
  | concat
  deriving DecidableEq, Repr

/-- The spelling of an operator. -/
def BinaryOp.text : BinaryOp → String
  | .or => "OR"
  | .and => "AND"
  | .eq => "="
  | .ne => "!="
  | .is => "IS"
  | .isNot => "IS NOT"
  | .like => "LIKE"
  | .lt => "<"
  | .le => "<="
  | .gt => ">"
  | .ge => ">="
  | .bitAnd => "&"
  | .bitOr => "|"
  | .add => "+"
  | .sub => "-"
  | .mul => "*"
  | .div => "/"
  | .rem => "%"
  | .concat => "||"

/-- The precedence of an operator: a higher level binds tighter. Level two is the operator `NOT`,
level nine the sign. -/
def BinaryOp.level : BinaryOp → Nat
  | .or => 0
  | .and => 1
  | .eq | .ne | .is | .isNot | .like => 3
  | .lt | .le | .gt | .ge => 4
  | .bitAnd | .bitOr => 5
  | .add | .sub => 6
  | .mul | .div | .rem => 7
  | .concat => 8

/-- The level of `NOT`. -/
def notLevel : Nat := 2

/-- The functions of one argument. -/
inductive TextFunction where
  | lower | upper | trim
  deriving DecidableEq, Repr

/-- The name of a function. -/
def TextFunction.text : TextFunction → String
  | .lower => "lower"
  | .upper => "upper"
  | .trim => "trim"

/-- A place for a value that is bound when the statement is run: one of its own, one for the
parameter of a number, or one for the parameter of a name and the mark in front of it. -/
inductive Place where
  | anonymous
  | numbered (number : Nat)
  | named (mark : Char) (name : String)
  deriving DecidableEq, Repr

/-- A constant: written out, or a place for a value. -/
inductive Constant where
  | literal (value : Native)
  | place (p : Place)
  deriving DecidableEq

/-- An expression. -/
inductive Term where
  | constant (value : Constant)
  | column (table : Option String) (name : String)
  /-- A column by a name that is not in quotation marks. -/
  | word (name : String)
  /-- The word `TRUE` or `FALSE`. -/
  | truth (value : Bool)
  | not (operand : Term)
  /-- A sign in front: minus turns a number over, plus leaves the value as it is. -/
  | sign (negative : Bool) (operand : Term)
  | binary (op : BinaryOp) (left right : Term)
  | member (item : Term) (set : List Constant)
  | apply (function : TextFunction) (operand : Term)
  | replace (text old new : Term)
  | castText (operand : Term)
  | paren (inner : Term)
  deriving DecidableEq

/-- The constant null. -/
def Term.null : Term := .constant (.literal .null)

/-- A constant text. -/
def Term.string (s : String) : Term := .constant (.literal (.text s))

/-- A place without a name. -/
def Constant.placeholder : Constant := .place .anonymous

/-- A named parameter. -/
def Term.parameter (name : String) : Term := .constant (.place (.named ':' name))

/-- The text of a value as a literal. Reals that are not finite have no literal and do not occur. -/
def literalText : Native → String
  | .null => "NULL"
  | .integer n => toString n.toInt
  | .real x => x.literal
  | .text s => quoteString s
  | .blob b => String.ofList ('X' :: '\'' :: Hex.upper b ++ ['\''])

/-- The text of a place. -/
def Place.text : Place → String
  | .anonymous => "?"
  | .numbered n => "?" ++ toString n
  | .named mark name => String.singleton mark ++ name

/-- The text of a constant. -/
def Constant.text : Constant → String
  | .literal v => literalText v
  | .place p => p.text

/-- The text of a column, after its table if it has one. -/
def columnText (table : Option String) (name : String) : String :=
  match table with
  | some t => quoteIdentifier t ++ "." ++ quoteIdentifier name
  | none => quoteIdentifier name

/-- The text of a term. -/
def Term.text : Term → String
  | .constant c => c.text
  | .column table name => columnText table name
  | .word name => name
  | .truth b => if b then "TRUE" else "FALSE"
  | .not x => "NOT" ++ x.text
  | .sign negative x => (if negative then "-" else "+") ++ x.text
  | .binary op l r => l.text ++ " " ++ op.text ++ " " ++ r.text
  | .member item set => item.text ++ " IN (" ++ ", ".intercalate (set.map Constant.text) ++ ")"
  | .apply f x => f.text ++ "(" ++ x.text ++ ")"
  | .replace x old new => "replace(" ++ x.text ++ ", " ++ old.text ++ ", " ++ new.text ++ ")"
  | .castText x => "CAST(" ++ x.text ++ " AS TEXT)"
  | .paren x => "(" ++ x.text ++ ")"

end Sql

end SqlMapper
