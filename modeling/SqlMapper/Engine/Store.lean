import SqlMapper.Engine.Term

/-!
# Stored tables

The rows of a table are ordered by their row numbers, which are all different. A column that is the
row number holds it; a unique column holds no value twice, nulls apart. Every change of a table
checks this row by row and is refused as a whole.
-/

namespace SqlMapper

/-- A column of a stored table. -/
structure StoredColumn where
  name : String
  unique : Bool
  /-- Whether the column is the row number. -/
  rowNumber : Bool
  deriving DecidableEq, Repr

/-- A row and its number. -/
structure StoredRow where
  number : Int64
  values : List Native
  deriving DecidableEq

/-- A stored table. -/
structure StoredTable where
  name : String
  columns : List StoredColumn
  rows : List StoredRow
  deriving DecidableEq

/-- The columns of a table as part of a frame. -/
def StoredTable.frame (t : StoredTable) : Frame :=
  t.columns.map fun c => ⟨t.name, c.name, c.rowNumber⟩

/-- The position of a column. -/
def StoredTable.position? (t : StoredTable) (name : String) : Option Nat :=
  t.columns.findIdx? fun c => Sql.sameWord c.name name

/-- The name of the column that is the row number, for messages. -/
def StoredTable.numberName (t : StoredTable) : String :=
  ((t.columns.find? StoredColumn.rowNumber).map StoredColumn.name).getD "rowid"

/-- Whether a row with this number is there. -/
def StoredTable.hasNumber (t : StoredTable) (number : Int64) : Bool :=
  t.rows.any fun r => r.number == number

/-- Whether a value that is not null stands in a column of some row. -/
def StoredTable.holds (t : StoredTable) (column : Nat) (v : Native) : Bool :=
  !v.isNull && t.rows.any fun r => ((r.values[column]?).map v.same).getD false

/-- The unique column, the last one declared first, that would hold a value of the row twice. -/
def StoredTable.violated? (t : StoredTable) (values : List Native) : Option StoredColumn :=
  ((t.columns.zipIdx.reverse.find? fun p =>
    p.1.unique && t.holds p.2 (values[p.2]?.getD .null))).map Prod.fst

/-- Puts a row where its number belongs. -/
def insertByNumber (row : StoredRow) : List StoredRow → List StoredRow
  | [] => [row]
  | r :: rest => if row.number < r.number then row :: r :: rest else r :: insertByNumber row rest

/-- Adds a row, if its number and its unique values are new. -/
def StoredTable.add (t : StoredTable) (row : StoredRow) : Except EngineError StoredTable :=
  if t.hasNumber row.number then .error (.uniqueViolation t.name t.numberName)
  else
    match t.violated? row.values with
    | some c => .error (.uniqueViolation t.name c.name)
    | none => .ok { t with rows := insertByNumber row t.rows }

/-! ## Insertion -/

/-- The number that a new row is given: one more than the largest, from one on. -/
def StoredTable.nextNumber (t : StoredTable) : Except EngineError Int64 :=
  match t.rows.getLast? with
  | none => .ok 1
  | some r => if r.number.toInt = 2 ^ 63 - 1 then .error .full else .ok (r.number + 1)

/-- A value as a row number; a text counts if it is an integer, and a real if it is one above the
smallest. -/
def Native.rowNumber? (v : Native) : Option Int64 :=
  match v.asNumeric with
  | .integer n => some n
  | .real x => x.toInt?.bind fun n => if -2 ^ 63 < n ∧ fitsInt64 n then some (Int64.ofInt n) else none
  | _ => none

/-- The number that the values of a row ask for: none where the number is to be assigned. -/
def StoredTable.givenNumber (t : StoredTable) (values : List Native) :
    Except EngineError (Option Int64) :=
  match t.columns.findIdx? StoredColumn.rowNumber with
  | none => .ok none
  | some i =>
    match values[i]?.getD .null with
    | .null => .ok none
    | v =>
      match v.rowNumber? with
      | some n => .ok (some n)
      | none => .error .mismatch

/-- The values of a row with its number in the column that is the row number. -/
def StoredTable.numbered (t : StoredTable) (number : Int64) (values : List Native) : List Native :=
  (t.columns.zip values).map fun p => if p.1.rowNumber then .integer number else p.2

/-- Inserts a row of values, one for each column; the table and the number of the row. -/
def StoredTable.insert (t : StoredTable) (values : List Native) :
    Except EngineError (StoredTable × Int64) := do
  let number ← match ← t.givenNumber values with
    | some n => pure n
    | none => t.nextNumber
  let table ← t.add ⟨number, t.numbered number values⟩
  return (table, number)

/-! ## Deletion and update -/

/-- Removes the rows for which a test holds; the table and how many rows there were. -/
def StoredTable.remove (t : StoredTable) (test : List Native → Bool) : StoredTable × Nat :=
  ({ t with rows := t.rows.filter fun r => !test r.values }, (t.rows.filter fun r => test r.values).length)

/-- A row with another value in a column; in the column that is the row number it has to be one. -/
def StoredTable.changed (t : StoredTable) (column : Nat) (value : Native) (row : StoredRow) :
    Except EngineError StoredRow :=
  if ((t.columns[column]?).map StoredColumn.rowNumber).getD false then
    match value.rowNumber? with
    | some n => .ok ⟨n, t.numbered n row.values⟩
    | none => .error .mismatch
  else .ok { row with values := row.values.set column value }

/-- Sets a column of one row. -/
def StoredTable.change (t : StoredTable) (column : Nat) (value : Native) (row : StoredRow) :
    Except EngineError StoredTable := do
  let row' ← t.changed column value row
  StoredTable.add { t with rows := t.rows.filter fun r => r.number != row.number } row'

/-- Sets a column of rows, one after another. -/
def StoredTable.changeAll (t : StoredTable) (column : Nat) (value : Native) :
    List StoredRow → Except EngineError StoredTable
  | [] => .ok t
  | row :: rest => do
    let t ← t.change column value row
    t.changeAll column value rest

/-- Sets a column of the rows for which a test holds; the table and how many rows there were. -/
def StoredTable.update (t : StoredTable) (column : Nat) (value : Native) (test : List Native → Bool) :
    Except EngineError (StoredTable × Nat) := do
  let rows := t.rows.filter fun r => test r.values
  return (← t.changeAll column value rows, rows.length)

end SqlMapper
