/-!
# Failures of the engine

Why the engine refuses a statement. Failures with a fixed wording carry it; those that depend on a
place in the statement's text, or on how the statement was sent, carry none.
-/

namespace SqlMapper

/-- Why a statement fails. -/
inductive EngineError where
  | beginInside
  | commitIdle
  | rollbackIdle
  | noSuchSavepoint (name : String)
  | noSuchTable (name : String)
  | noSuchColumn (column : String)
  | noSuchTableColumn (table column : String)
  | duplicateColumn (column : String)
  | uniqueViolation (table column : String)
  | mismatch
  | parameterCount (given needed : Nat)
  | valueCount (values columns : Nat)
  | tableValueCount (table : String) (columns values : Nat)
  | full
  | reservedName (name : String)
  | noTables
  | noStatement
  | incomplete
  | malformed
  | unknownColumn
  | ambiguousColumn
  | noSuchResultColumn
  | tableExists
  | returnsRows
  | invalidText
  deriving DecidableEq, Repr

/-- The wording of a failure, where it has one. -/
def EngineError.message? : EngineError → Option String
  | .beginInside => some "cannot start a transaction within a transaction"
  | .commitIdle => some "cannot commit - no transaction is active"
  | .rollbackIdle => some "cannot rollback - no transaction is active"
  | .noSuchSavepoint name => some ("no such savepoint: " ++ name)
  | .noSuchTable name => some ("no such table: " ++ name)
  | .noSuchColumn column => some ("no such column: " ++ column)
  | .noSuchTableColumn table column => some ("table " ++ table ++ " has no column named " ++ column)
  | .duplicateColumn column => some ("duplicate column name: " ++ column)
  | .uniqueViolation table column => some ("UNIQUE constraint failed: " ++ table ++ "." ++ column)
  | .mismatch => some "datatype mismatch"
  | .parameterCount given needed =>
    some s!"Wrong number of parameters passed to query. Got {given}, needed {needed}"
  | .valueCount values columns => some s!"{values} values for {columns} columns"
  | .tableValueCount table columns values =>
    some ("table " ++ table ++ s!" has {columns} columns but {values} values were supplied")
  | .full => some "database or disk is full"
  | .reservedName name => some ("object name reserved for internal use: " ++ name)
  | .noTables => some "no tables specified"
  | .noStatement => some "not an error"
  | .incomplete => some "incomplete input"
  | .malformed | .unknownColumn | .ambiguousColumn | .noSuchResultColumn | .tableExists
  | .returnsRows | .invalidText => none

end SqlMapper
