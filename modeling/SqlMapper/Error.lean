import SqlMapper.Engine.Error
import SqlMapper.Expr.Operator
import SqlMapper.Schema.Table
import SqlMapper.Text.Escaped
import SqlMapper.Value.Coercion

/-!
# Errors

Everything that can go wrong, by cause. Each error has a code, which is stable, and a message, which
says what was the matter; an engine failure has a message only when its wording is fixed.
-/

namespace SqlMapper

/-- Why an expression is not compiled. -/
inductive ExpressionFault where
  | listOutsideMembership
  | parameterName (name : String)
  | nonFinite (value : Binary64)
  | arity (method : String) (expected given : Nat)
  deriving DecidableEq

def ExpressionFault.message : ExpressionFault → String
  | .listOutsideMembership => "constant list is only valid as the set operand of Contains"
  | .parameterName name => "parameter name '" ++ name ++ "' must be non-empty and alphanumeric"
  | .nonFinite value => "non-finite float " ++ value.plain ++ " has no SQL literal"
  | .arity method expected given =>
    method ++ s!" expects {expected} operands including the receiver, got {given}"

/-- Why an operation is refused. -/
inductive OperationFault where
  | beginInside (depth : Nat)
  | emptySelect
  | deleteFromJoin
  | unboundName (name : String)
  | unboundIndex (index : Nat)
  | valueCount (table : String) (values columns : Nat)
  | notNullable (table column : String)
  | indexOutOfRange (index columns : Nat)
  | busy (milliseconds : Nat)
  deriving DecidableEq, Repr

/-- A whole number of milliseconds; zero is shown in nanoseconds, and from a second on the unit is
seconds. -/
def showMilliseconds (n : Nat) : String :=
  if n = 0 then "0ns"
  else if n < 1000 then s!"{n}ms"
  else
    let fraction := fractionDigits 3 (n % 1000)
    toString (n / 1000) ++ (if fraction.isEmpty then "" else "." ++ String.ofList fraction) ++ "s"

def OperationFault.message : OperationFault → String
  | .beginInside depth => s!"cannot begin a transaction at depth {depth}"
  | .emptySelect => "select requires at least one projected expression"
  | .deleteFromJoin => "delete is only supported on single-table queries"
  | .unboundName name => "no value bound for parameter :" ++ name
  | .unboundIndex index => s!"no value bound for parameter {index}"
  | .valueCount table values columns => table ++ s!" produced {values} values for {columns} columns"
  | .notNullable table column => "column " ++ table ++ "." ++ column ++ " is not nullable"
  | .indexOutOfRange index columns => s!"column index {index} out of range for row of {columns} columns"
  | .busy milliseconds => "connection busy for more than " ++ showMilliseconds milliseconds

/-- Everything that can go wrong. -/
inductive Error where
  | expression (fault : ExpressionFault)
  | operator (op : Operator)
  | coercion (error : CoercionError)
  | unknownMethod (name : String)
  | unknownColumn (table : Option String) (column : String)
  | ambiguousColumn (column : String) (tables : List String)
  | unknownSavepoint (name : String)
  | operation (fault : OperationFault)
  | schema (table : String) (fault : SchemaFault)
  | engine (error : EngineError)
  | config (path : String)
  | missingFile
  | custom (message : String)
  deriving DecidableEq

/-- The code of an error. -/
def Error.code : Error → String
  | .expression _ => "UnsupportedExpression"
  | .operator _ => "UnsupportedOperator"
  | .coercion _ => "UnsupportedType"
  | .unknownMethod _ => "NotSupported"
  | .unknownColumn .. => "UnknownColumn"
  | .ambiguousColumn .. => "AmbiguousColumn"
  | .unknownSavepoint _ => "InvalidSavepoint"
  | .operation _ => "InvalidOperation"
  | .schema .. => "InvalidSchema"
  | .engine _ => "Sqlite"
  | .config _ => "Config"
  | .missingFile => "Io"
  | .custom _ => "Custom"

/-- The message of an error, where its wording is fixed. -/
def Error.message? : Error → Option String
  | .expression fault => some ("unsupported expression: " ++ fault.message)
  | .operator op => some ("unsupported operator '" ++ op.name ++ "'")
  | .coercion error => some ("unsupported type: " ++ error.message)
  | .unknownMethod name => some ("method '" ++ name ++ "' is not supported in queries")
  | .unknownColumn none column => some ("unknown column '" ++ column ++ "'")
  | .unknownColumn (some table) column => some ("unknown column '" ++ column ++ "' on table '" ++ table ++ "'")
  | .ambiguousColumn column tables =>
    some ("column '" ++ column ++ "' is ambiguous between tables " ++ Escaped.writeList tables)
  | .unknownSavepoint name => some ("savepoint '" ++ name ++ "' is not active on this connection")
  | .operation fault => some ("invalid operation: " ++ fault.message)
  | .schema table fault => some ("invalid schema for table '" ++ table ++ "': " ++ fault.message)
  | .engine error => error.message?.map fun m => "sqlite: " ++ m
  | .config path => some ("config " ++ path ++ ":")
  | .missingFile => some "I/O error: No such file or directory (os error 2)"
  | .custom message => some message

/-- A coercion as a step that may fail. -/
def Error.ofCoercion {α : Type} : Except CoercionError α → Except Error α
  | .ok a => .ok a
  | .error e => .error (.coercion e)

end SqlMapper
