import SqlMapper.Config
import SqlMapper.Engine.Query
import SqlMapper.Sql.Place

/-!
# The database

A database holds tables and a list of open levels, each with the tables as they were when it was
opened. `BEGIN` opens a level where none is open and `SAVEPOINT` opens one anywhere; a release drops
the levels from a savepoint inwards and keeps what was done, a rollback to a savepoint takes the
tables back and keeps the savepoint, and a commit or a rollback closes all levels. A name means the
innermost savepoint of that name. A statement that fails changes nothing.
-/

namespace SqlMapper

/-- An open level: the name of the savepoint, if it is one, and the tables when it was opened. -/
structure OpenLevel where
  name : Option String
  before : Tables

/-- A database. -/
structure Database where
  tables : Tables
  levels : List OpenLevel
  /-- How many rows the last insertion, update or deletion changed. -/
  changes : Nat
  /-- The path that it was opened by, if any; it is kept in memory all the same. -/
  path : Option String
  settings : Config

/-- A database without tables. -/
def Database.empty (path : Option String) (settings : Config) : Database :=
  ⟨[], [], 0, path, settings⟩

/-- What a statement gives: rows, or the number of rows it changed and the number of a row it
inserted, or nothing. -/
inductive Outcome where
  | rows (result : ResultSet)
  | changed (count : Nat) (inserted : Option Int64)
  | done
  deriving DecidableEq

/-- What may be done with a database: it ends in a value or in a failure, and in a database either
way. -/
abbrev DatabaseStep (α : Type) := Database → Except EngineError α × Database

/-! ## Levels -/

/-- Whether a level is the savepoint of a name, in any case. -/
def OpenLevel.isNamed (name : String) (l : OpenLevel) : Bool :=
  (l.name.map (Sql.sameWord name)).getD false

/-- The levels outside the innermost savepoint of a name, and that savepoint. -/
def OpenLevel.find? (name : String) : List OpenLevel → Option (List OpenLevel × OpenLevel)
  | [] => none
  | l :: inner =>
    match OpenLevel.find? name inner with
    | some (outer, found) => some (l :: outer, found)
    | none => if l.isNamed name then some ([], l) else none

/-- Opens a transaction. -/
def Database.begin : DatabaseStep Unit := fun db =>
  if db.levels.isEmpty then (.ok (), { db with levels := [⟨none, db.tables⟩] }) else (.error .beginInside, db)

/-- Opens a savepoint. -/
def Database.savepoint (name : String) : DatabaseStep Unit := fun db =>
  (.ok (), { db with levels := db.levels ++ [⟨some name, db.tables⟩] })

/-- Releases a savepoint. -/
def Database.release (name : String) : DatabaseStep Unit := fun db =>
  match OpenLevel.find? name db.levels with
  | some (outer, _) => (.ok (), { db with levels := outer })
  | none => (.error (.noSuchSavepoint name), db)

/-- Goes back to a savepoint. -/
def Database.rollbackTo (name : String) : DatabaseStep Unit := fun db =>
  match OpenLevel.find? name db.levels with
  | some (outer, l) => (.ok (), { db with tables := l.before, levels := outer ++ [l] })
  | none => (.error (.noSuchSavepoint name), db)

/-- Keeps everything and closes all levels. -/
def Database.commit : DatabaseStep Unit := fun db =>
  if db.levels.isEmpty then (.error .commitIdle, db) else (.ok (), { db with levels := [] })

/-- Undoes everything and closes all levels. -/
def Database.rollback : DatabaseStep Unit := fun db =>
  match db.levels with
  | [] => (.error .rollbackIdle, db)
  | outermost :: _ => (.ok (), { db with tables := outermost.before, levels := [] })

/-- Whether no level is open. -/
def Database.isIdle (db : Database) : Bool := db.levels.isEmpty

/-! ## Tables -/

/-- The tables with one of them replaced. -/
def Tables.replace (ts : Tables) (t : StoredTable) : Tables :=
  List.map (fun u : StoredTable => if Sql.sameWord u.name t.name then t else u) ts

/-- The first column whose name an earlier one has. -/
def repeatedColumn? : List String → List StoredColumn → Option String
  | _, [] => none
  | seen, c :: rest =>
    if seen.any (Sql.sameWord c.name) then some c.name else repeatedColumn? (seen ++ [c.name]) rest

/-- Whether a text is read to its end. It would end at a null character, which can only stand in a
quoted name and leaves that name open. -/
def isSendable (text : String) : Bool := text.toList.all fun c => c.toNat != 0

/-- Whether a name is kept for the engine's own tables. -/
def isReservedName (name : String) : Bool :=
  "sqlite_".toList.isPrefixOf (name.toList.map Char.toLower)

/-- Creates an empty table. -/
def Database.createTable (name : String) (columns : List StoredColumn) :
    DatabaseStep Unit := fun db =>
  if !(name :: columns.map StoredColumn.name).all isSendable then (.error .malformed, db)
  else if isReservedName name then (.error (.reservedName name), db)
  else if db.tables.any fun t => Sql.sameWord t.name name then (.error .tableExists, db)
  else
    match repeatedColumn? [] columns with
    | some c => (.error (.duplicateColumn c), db)
    | none => (.ok (), { db with tables := db.tables ++ [⟨name, columns, []⟩] })

/-- The stored columns of a mapped table: an integer primary key is the row number, another primary
key is unique, and so are the columns listed. -/
def Table.storedColumns (t : Table) (unique : List String) : List StoredColumn :=
  t.columns.map fun c =>
    let rowNumber := c.primaryKey && c.kind.isInteger
    ⟨c.name, !rowNumber && (c.primaryKey || unique.contains c.name), rowNumber⟩

/-! ## Insertion, update and deletion -/

/-- The positions of the columns of an insertion. -/
def StoredTable.positions (t : StoredTable) : List String → Except EngineError (List Nat)
  | [] => .ok []
  | name :: rest => do
    match t.position? name with
    | some i => return i :: (← t.positions rest)
    | none => .error (.noSuchTableColumn t.name name)

/-- The positions that values are inserted at, as many as there are values. -/
def StoredTable.insertPositions (t : StoredTable) (columns : List String) (values : Nat) :
    Except EngineError (List Nat) := do
  if columns.isEmpty then
    if t.columns.length = values then return List.range values
    else .error (.tableValueCount t.name t.columns.length values)
  else
    let positions ← t.positions columns
    if positions.length = values then return positions else .error (.valueCount values positions.length)

/-- A row with values at some positions, the first that is given for one, and nulls at the others.
-/
def StoredTable.spread (t : StoredTable) (positions : List Nat) (values : List Native) :
    List Native :=
  (List.range t.columns.length).map fun i => ((positions.zip values).lookup i).getD .null

/-- Inserts values into a table. -/
def Tables.insert (ts : Tables) (table : String) (columns : List String) (values : List Native) :
    Except EngineError (Tables × Int64) := do
  let t ← ts.find table
  let positions ← t.insertPositions columns values.length
  let (t, number) ← t.insert (t.spread positions values)
  return (ts.replace t, number)

/-- Inserts a row of nulls into a table. -/
def Tables.insertDefaults (ts : Tables) (table : String) : Except EngineError (Tables × Int64) := do
  let t ← ts.find table
  let (t, number) ← t.insert (t.columns.map fun _ => .null)
  return (ts.replace t, number)

/-- The test of a condition on the rows of a table; without a condition it always holds. -/
def StoredTable.test (t : StoredTable) (condition : Option Sql.Term) (row : List Native) : Bool :=
  match condition with
  | some c => c.holds t.frame row
  | none => true

/-- Deletes the rows of a table for which a condition holds. -/
def Tables.delete (ts : Tables) (table : String) (condition : Option Sql.Term) :
    Except EngineError (Tables × Nat) := do
  let t ← ts.find table
  checkTerms t.frame condition.toList
  let (t, count) := t.remove (t.test condition)
  return (ts.replace t, count)

/-- The position of the column that an update sets. -/
def StoredTable.updatePosition (t : StoredTable) (column : String) : Except EngineError Nat :=
  match t.position? column with
  | some i => .ok i
  | none => .error (.noSuchColumn column)

/-- Sets a column of the rows of a table for which a condition holds. -/
def Tables.update (ts : Tables) (table column : String) (value : Native) (condition : Option Sql.Term) :
    Except EngineError (Tables × Nat) := do
  let t ← ts.find table
  let i ← t.updatePosition column
  checkTerms t.frame condition.toList
  let (t, count) ← t.update i value (t.test condition)
  return (ts.replace t, count)

/-! ## Settings -/

/-- The number of a way of waiting for the disk. -/
def SyncMode.number : SyncMode → Int64
  | .off => 0
  | .normal => 1
  | .full => 2

/-- The journal of a database in memory: none if it is switched off, and otherwise in memory. -/
def JournalMode.inMemory : JournalMode → JournalMode
  | .off => .off
  | _ => .memory

/-- The title and the value of a setting; other names have none. -/
def Config.setting? (c : Config) (name : String) : Option (String × Native) :=
  if Sql.sameWord name "foreign_keys" then some ("foreign_keys", .integer (if c.foreignKeys then 1 else 0))
  else if Sql.sameWord name "synchronous" then some ("synchronous", .integer c.synchronous.number)
  else if Sql.sameWord name "journal_mode" then
    some ("journal_mode", .text (keyOf JournalMode.keys c.journalMode.inMemory))
  else if Sql.sameWord name "busy_timeout" then some ("timeout", .integer (Int64.ofNat c.busyTimeout))
  else none

/-! ## Statements -/

/-- The titles of what a statement returns, known before it is run; none for a statement that
returns nothing. -/
def Database.titles (db : Database) (s : Sql.Statement) : List String :=
  match s with
  | .select q =>
    match q.check db.tables with
    | .ok f => q.columns.flatMap fun c => c.titles f
    | .error _ => []
  | .countRows .. | .countOf _ => ["count(*)"]
  | .setting name => ((db.settings.setting? name).map Prod.fst).toList
  | _ => []

/-- Whether a statement can be run at all: its text is read to the end, and its tables and columns
are there. -/
def Database.prepare (db : Database) (s : Sql.Statement) : Except EngineError Unit := do
  unless isSendable s.text do throw .malformed
  match s with
  | .select q | .countOf q => do
    let _ ← q.check db.tables
  | .countRows source condition => do
    let r ← Sql.Source.relation db.tables (some source)
    checkTerms r.frame (Sql.Source.terms (some source) ++ condition.toList)
  | .delete table condition => do
    let t ← db.tables.find table
    checkTerms t.frame condition.toList
  | .insert table columns values => do
    let t ← db.tables.find table
    let _ ← t.insertPositions columns values.length
  | .insertDefaults table => do
    let _ ← db.tables.find table
  | .update table column _ condition => do
    let t ← db.tables.find table
    let _ ← t.updatePosition column
    checkTerms t.frame condition.toList
  | _ => return ()

/-- A change of the tables; one that is refused counts as a change of no rows. -/
def Database.change {α : Type} (count : α → Nat) (step : Tables → Except EngineError (Tables × α)) :
    DatabaseStep α :=
  fun db =>
    match step db.tables with
    | .ok (ts, a) => (.ok a, { db with tables := ts, changes := count a })
    | .error e => (.error e, { db with changes := 0 })

/-- A step that gives nothing, as the outcome of a statement. -/
def Outcome.ofUnit (r : Except EngineError Unit × Database) :
    Except EngineError Outcome × Database :=
  (r.1.map fun _ => .done, r.2)

/-- A count of rows, as the outcome of a statement. -/
def Outcome.ofCount (titles : List String) (count : Nat) : Outcome :=
  .rows { titles, rows := [[.integer (Int64.ofNat count)]] }

/-- Runs a statement whose places are filled, under the given titles. -/
def Database.run (titles : List String) (s : Sql.Statement) : DatabaseStep Outcome := fun db =>
  match s with
  | .select q => ((q.run titles db.tables).map .rows, db)
  | .countOf q => ((q.run [] db.tables).map fun r => .ofCount titles r.rows.length, db)
  | .countRows source condition =>
    let counted := (Sql.Source.relation db.tables (some source)).map fun r =>
      .ofCount titles (r.restrict condition).rows.length
    (counted, db)
  | .delete table condition =>
    let r := Database.change id (fun ts => ts.delete table condition) db
    (r.1.map fun n => .changed n none, r.2)
  | .insert table columns values =>
    let r := Database.change (fun _ => 1) (fun ts => ts.insert table columns (values.map Sql.Constant.value)) db
    (r.1.map fun n => .changed 1 (some n), r.2)
  | .insertDefaults table =>
    let r := Database.change (fun _ => 1) (fun ts => ts.insertDefaults table) db
    (r.1.map fun n => .changed 1 (some n), r.2)
  | .update table column value condition =>
    let r := Database.change id (fun ts => ts.update table column value.value condition) db
    (r.1.map fun n => .changed n none, r.2)
  | .begin _ => Outcome.ofUnit (Database.begin db)
  | .commit => Outcome.ofUnit (Database.commit db)
  | .rollback => Outcome.ofUnit (Database.rollback db)
  | .savepoint name => Outcome.ofUnit (Database.savepoint name db)
  | .release name => Outcome.ofUnit (Database.release name db)
  | .rollbackTo name => Outcome.ofUnit (Database.rollbackTo name db)
  | .setting name =>
    match db.settings.setting? name with
    | some (title, v) => (.ok (.rows { titles := [title], rows := [[v]] }), db)
    | none => (.ok .done, db)

/-- Prepares and runs a statement whose parameters, if it has any, are null. -/
def Database.executeUnbound (s : Sql.Statement) : DatabaseStep Outcome := fun db =>
  match db.prepare s with
  | .error e => (.error e, db)
  | .ok _ => Database.run (db.titles s) (s.bind []) db

/-- Prepares a statement, checks the number of values for its parameters, binds them and runs it. -/
def Database.execute (s : Sql.Statement) (values : List Native) : DatabaseStep Outcome := fun db =>
  match db.prepare s with
  | .error e => (.error e, db)
  | .ok _ =>
    let needed := s.parameters.length
    if values.length = needed then Database.run (db.titles s) (s.bind values) db
    else (.error (.parameterCount (min values.length (needed + 1)) needed), db)

end SqlMapper
