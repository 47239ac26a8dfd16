import SqlMapper.Engine.Database
import SqlMapper.Query.Chain
import SqlMapper.Savepoint.Session
import SqlMapper.Schema.Row
import SqlMapper.Sql.StatementReader

/-!
# Connections

A connection is a session over a database. Statements come to it as text, or as queries and rows of
mapped tables; the constants of a query are bound, and its named parameters are given by name. What
a connection sends of its own is grouped as the engine groups the text of it.
-/

namespace SqlMapper

/-- A connection. -/
abbrev Connection := Session Database

/-- Opens a connection to an empty database in memory. -/
def Connection.open (path : Option String) (config : Config) : Connection :=
  Session.idle config.savepointNaming (Database.empty path config)

/-- The settings of a connection. -/
def Connection.config (c : Connection) : Config := c.store.settings

/-- How the connection stores scalars. -/
def Connection.coercion (c : Connection) : Coercion := c.store.settings.coercion

/-- A failure of the engine as an error. -/
def Error.ofEngine {α : Type} : Except EngineError α → Except Error α
  | .ok a => .ok a
  | .error e => .error (.engine e)

/-- A step of the database as an operation. -/
def Connection.step {α : Type} (step : DatabaseStep α) : Operation Connection α := fun c =>
  let r := step c.store
  (Error.ofEngine r.1, { c with store := r.2 })

/-- An operation that ends at once in a value or in an error. -/
def Connection.yield {α : Type} (r : Except Error α) : Operation Connection α := fun c => (r, c)

/-! ## Batches of a session -/

/-- Runs statements one after another, up to the first failure. -/
def Database.executeAll : List Sql.Statement → DatabaseStep Unit
  | [], db => (.ok (), db)
  | s :: rest, db =>
    match Database.executeUnbound s db with
    | (.ok _, db) => Database.executeAll rest db
    | (.error e, db) => (.error e, db)

/-- A database runs the batches of a session. -/
def Database.executor : Executor Database where
  run b db :=
    let r := Database.executeAll b.statements db
    (Error.ofEngine r.1, r.2)

/-! ## Statements as text -/

/-- A fault in a text as a failure of the engine. -/
def EngineError.ofFault : Sql.SyntaxFault → EngineError
  | .unexpected => .malformed
  | .incomplete => .incomplete

/-- Why a text without a statement cannot be run with values. -/
def EngineError.ofEmptyText (values : List Native) : EngineError :=
  if values.isEmpty then .noStatement else .parameterCount 1 0

/-- Runs the first statement of a text with values for its parameters. -/
def Database.executeText (sql : String) (values : List Native) : DatabaseStep Outcome := fun db =>
  match Sql.readBatch sql with
  | [] => (.error (EngineError.ofEmptyText values), db)
  | .error e :: _ => (.error (.ofFault e), db)
  | .ok s :: _ => Database.execute s values db

/-- The number of rows that a statement changed. A statement that changes none keeps the number of
the one before it, and one that returns a row is no change. -/
def Database.countChanged (r : Except EngineError Outcome × Database) :
    Except EngineError Nat × Database :=
  match r with
  | (.ok (.changed n _), db) => (.ok n, db)
  | (.ok .done, db) => (.ok db.changes, db)
  | (.ok (.rows result), db) => if result.rows.isEmpty then (.ok db.changes, db) else (.error .returnsRows, db)
  | (.error e, db) => (.error e, db)

/-- Runs a text; the number of rows it changed. -/
def Connection.execute (sql : String) (values : List Native) : Operation Connection Nat :=
  Connection.step fun db => Database.countChanged (Database.executeText sql values db)

/-- Runs the statements of a text, up to the first failure. -/
def Database.executeReadings : List (Except Sql.SyntaxFault Sql.Statement) → DatabaseStep Unit
  | [], db => (.ok (), db)
  | .error e :: _, db => (.error (.ofFault e), db)
  | .ok s :: rest, db =>
    match Database.executeUnbound s db with
    | (.ok _, db) => Database.executeReadings rest db
    | (.error e, db) => (.error e, db)

/-- Runs all statements of a text. -/
def Connection.executeBatch (sql : String) : Operation Connection Unit :=
  Connection.step (Database.executeReadings (Sql.readBatch sql))

/-- The rows of an outcome; there are none where none are returned. -/
def Outcome.toRows (coercion : Coercion) : Outcome → Except EngineError (List Row)
  | .rows result =>
    if result.damaged then .error .invalidText
    else .ok (result.rows.map fun values => ⟨result.titles, values, coercion⟩)
  | _ => .ok []

/-- Runs a text; the rows it returns. -/
def Connection.queryText (sql : String) (values : List Native) :
    Operation Connection (List Row) := fun c =>
  Connection.step (fun db =>
    let r := Database.executeText sql values db
    (r.1.bind (Outcome.toRows c.coercion), r.2)) c

/-! ## Parameters -/

/-- Values for parameters by name; of two with one name the first counts. -/
abbrev NamedValues := List (String × Scalar)

/-- The values of parameters, from a number on: one with a name by its name, one without from the
values at hand. -/
def bindParameters (coercion : Coercion) (named : NamedValues) (index : Nat) :
    List (Option String) → List Native → Except Error (List Native)
  | [], _ => .ok []
  | some name :: rest, values =>
    match named.lookup name with
    | none => .error (.operation (.unboundName name))
    | some s => do
      let v ← Error.ofCoercion (s.toNative coercion)
      return v :: (← bindParameters coercion named (index + 1) rest values)
  | none :: _, [] => .error (.operation (.unboundIndex index))
  | none :: rest, v :: values => do
    return v :: (← bindParameters coercion named (index + 1) rest values)

/-- Whether there is a colon in the text of a statement. -/
def Sql.Statement.hasColon (s : Sql.Statement) : Bool := s.text.toList.contains ':'

/-- The values for the parameters of a statement in the order of their numbers. Without named
values, a text without a colon takes the values as they are. -/
def Connection.bindOrder (c : Connection) (named : NamedValues) (b : Bound Sql.Statement) :
    Except Error (List Native) :=
  if named.isEmpty && !b.sql.hasColon then .ok b.params
  else do
    Error.ofEngine (c.store.prepare b.sql.grouped)
    bindParameters c.coercion named 1 b.sql.parameters b.params

/-- Sends a compiled statement with values for its named parameters. -/
def Connection.send (named : NamedValues) (b : Except Error (Bound Sql.Statement)) :
    Operation Connection Outcome :=
  fun c =>
    match b with
    | .error e => (.error e, c)
    | .ok b =>
      match c.bindOrder named b with
      | .error e => (.error e, c)
      | .ok values => Connection.step (Database.execute b.sql.grouped values) c

/-- The style and the coercion that a connection compiles with. -/
def Connection.rendering (c : Connection) : Rendering := ⟨.positional, c.coercion⟩

/-! ## Queries -/

/-- The rows of a query. -/
def Connection.query (q : Query) (named : NamedValues) : Operation Connection (List Row) := fun c =>
  let r := Connection.send named (q.statement c.rendering) c
  (r.1.bind fun o => Error.ofEngine (o.toRows c.coercion), r.2)

/-- A row as the scalars of a table's columns, by the columns' names and with null allowed. -/
def Table.scalarsOf (t : Table) (r : Row) : Except Error (List Scalar) :=
  t.columns.mapM fun c => r.get c.kind true c.name

/-- The rows of a query as scalars of a table. -/
def Connection.queryAs (t : Table) (q : Query) (named : NamedValues) :
    Operation Connection (List (List Scalar)) :=
  Operation.andThen (Connection.query q named) fun rows => Connection.yield (rows.mapM t.scalarsOf)

/-- The number in the first row of an outcome. -/
def Outcome.firstNumber : Outcome → Int
  | .rows ⟨_, [.integer n] :: _, _⟩ => n.toInt
  | _ => 0

/-- The number of rows of a selection with a predicate. -/
def Connection.count (s : Selection) (predicate : Option Expr) (named : NamedValues) :
    Operation Connection Int := fun c =>
  let r := Connection.send named (s.countWhere predicate c.rendering) c
  (r.1.map Outcome.firstNumber, r.2)

/-- The number of rows that an outcome says were changed. -/
def Outcome.count : Outcome → Nat
  | .changed n _ => n
  | _ => 0

/-- Deletes the rows of a filter on one table; their number. -/
def Connection.delete (f : Filter) (named : NamedValues) : Operation Connection Nat := fun c =>
  let r := Connection.send named (f.deleteStatement c.rendering) c
  (r.1.map Outcome.count, r.2)

/-! ## Insertion -/

/-- The value of a column to be inserted. -/
def Column.store (coercion : Coercion) (table : String) (c : Column) (s : Scalar) :
    Except Error Native :=
  if s.isNull && !c.nullable then .error (.operation (.notNullable table c.name))
  else Error.ofCoercion (s.toNative coercion)

/-- The values that are inserted of a row of scalars. -/
def Table.insertValues (t : Table) (coercion : Coercion) (values : List Scalar) :
    Except Error (List Native) :=
  if values.length = t.columns.length then
    t.insertColumns.mapM fun p => p.2.store coercion t.name (values[p.1]?.getD .null)
  else .error (.operation (.valueCount t.name values.length t.columns.length))

/-- The statement that inserts a row. -/
def Table.insertStatement (t : Table) : Sql.Statement :=
  let names := t.insertColumns.map fun p => p.2.name
  if names.isEmpty then .insertDefaults t.name else .insert t.name names (names.map fun _ => .placeholder)

/-- The number of the row that an outcome says was inserted. -/
def Outcome.rowNumber : Outcome → Int64
  | .changed _ (some n) => n
  | _ => 0

/-- Inserts a row; its number. -/
def Connection.insert (t : Table) (values : List Scalar) : Operation Connection Int64 := fun c =>
  match t.insertValues c.coercion values with
  | .error e => (.error e, c)
  | .ok params =>
    let r := Connection.step (Database.execute t.insertStatement params) c
    (r.1.map Outcome.rowNumber, r.2)

/-- Inserts rows one after another, up to the first failure. -/
def Connection.insertEach (t : Table) : List (List Scalar) → Operation Connection Unit
  | [] => Connection.yield (.ok ())
  | values :: rest => Operation.andThen (Connection.insert t values) fun _ => Connection.insertEach t rest

/-- Inserts rows in a scope of their own; their number. -/
def Connection.insertAll (t : Table) (rows : List (List Scalar)) :
    Operation Connection Nat := fun c =>
  Session.scope Database.executor c.config.defaultMode
    (Operation.andThen (Connection.insertEach t rows) fun _ => Connection.yield (.ok rows.length)) c

/-- Creates the table of a mapping. -/
def Connection.createTable (t : Table) (unique : List String) : Operation Connection Unit :=
  Connection.step (Database.createTable t.name (t.storedColumns unique))

end SqlMapper
