import SqlMapper.Connection.Basic
import SqlMapper.Savepoint.Script

/-!
# Scripts on connections

The actions that the steps of a script may take on a connection, and what they give.
-/

namespace SqlMapper

/-- An action on a connection. -/
inductive Action where
  | create (table : Table) (unique : List String)
  | insert (table : Table) (values : List Scalar)
  | insertAll (table : Table) (rows : List (List Scalar))
  | query (query : Query) (named : NamedValues)
  | queryAs (table : Table) (query : Query) (named : NamedValues)
  | count (selection : Selection) (predicate : Option Expr) (named : NamedValues)
  | delete (filter : Filter) (named : NamedValues)
  | execute (sql : String) (values : List Native)
  | batch (sql : String)
  | rows (sql : String) (values : List Native)
  | info

/-- What is known about a connection. -/
structure ConnectionInfo where
  path : Option String
  config : Config
  idle : Bool

/-- What an action gives. -/
inductive Reply where
  | number (value : Int)
  | rows (rows : List Row)
  | scalars (rows : List (List Scalar))
  | info (info : ConnectionInfo)

/-- What is known about a connection. -/
def Connection.info (c : Connection) : ConnectionInfo := ⟨c.store.path, c.config, c.store.isIdle⟩

/-- An operation with its value made an answer. -/
def Operation.answer {σ α : Type} (make : α → Answer Reply) (op : Operation σ α) :
    Operation σ (Answer Reply) := fun s =>
  let r := op s
  (r.1.map make, r.2)

/-- Takes an action. -/
def Action.run (a : Action) : Operation Connection (Answer Reply) :=
  match a with
  | .create t unique => Operation.answer (fun _ => .none) (Connection.createTable t unique)
  | .insert t values => Operation.answer (fun n => .data (.number n.toInt)) (Connection.insert t values)
  | .insertAll t scalars => Operation.answer .count (Connection.insertAll t scalars)
  | .query q named => Operation.answer (fun rs => .data (.rows rs)) (Connection.query q named)
  | .queryAs t q named => Operation.answer (fun rs => .data (.scalars rs)) (Connection.queryAs t q named)
  | .count s p named => Operation.answer (fun n => .data (.number n)) (Connection.count s p named)
  | .delete f named => Operation.answer .count (Connection.delete f named)
  | .execute sql values => Operation.answer .count (Connection.execute sql values)
  | .batch sql => Operation.answer (fun _ => .none) (Connection.executeBatch sql)
  | .rows sql values => Operation.answer (fun rs => .data (.rows rs)) (Connection.queryText sql values)
  | .info => fun c => (.ok (.data (.info c.info)), c)

/-- Scripts on connections. -/
def Connection.stage : Stage Database Action Reply Unit where
  executor := Database.executor
  act := Action.run
  look db := ((), db)

end SqlMapper
