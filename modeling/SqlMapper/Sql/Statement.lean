import SqlMapper.Sql.Term

/-!
# SQL statements

The statements that are sent, as syntax, and their text: one clause on a line. Apart from queries,
counts, insertions and deletions these are the statements that open and close transactions,
assignments to a column, and questions about settings.
-/

namespace SqlMapper

namespace Sql

/-- How a table is joined. -/
inductive JoinKind where
  | inner | left
  deriving DecidableEq, Repr

/-- The keywords of a join. -/
def JoinKind.text : JoinKind → String
  | .inner => "INNER JOIN"
  | .left => "LEFT JOIN"

/-- A joined table and the condition of the join. -/
structure Join where
  kind : JoinKind
  table : String
  condition : Term
  deriving DecidableEq

/-- A table and the tables joined to it, in order. -/
structure Source where
  table : String
  joins : List Join
  deriving DecidableEq

/-- What a query returns: every column, or a term with or without a title of its own. -/
inductive ResultColumn where
  | all
  | term (value : Term) (title : Option String)
  deriving DecidableEq

/-- A key that rows are ordered by. -/
structure SortKey where
  term : Term
  descending : Bool
  /-- The number that the term is, if it is one: such a key means a result column. -/
  number : Option Int := none
  deriving DecidableEq

/-- A query. A limit below zero is no limit. -/
structure Select where
  distinct : Bool := false
  columns : List ResultColumn
  source : Option Source
  condition : Option Term := none
  order : List SortKey := []
  limit : Option Int := none
  offset : Option Int := none
  deriving DecidableEq

/-- How a transaction takes its locks. -/
inductive LockMode where
  | deferred | immediate | exclusive
  deriving DecidableEq, Repr

/-- A statement. An insertion without column names is into all columns. -/
inductive Statement where
  | select (query : Select)
  | countRows (source : Source) (condition : Option Term)
  | countOf (query : Select)
  | delete (table : String) (condition : Option Term)
  | insert (table : String) (columns : List String) (values : List Constant)
  | insertDefaults (table : String)
  | update (table column : String) (value : Constant) (condition : Option Term)
  | begin (mode : LockMode)
  | commit
  | rollback
  | savepoint (name : String)
  | release (name : String)
  | rollbackTo (name : String)
  | setting (name : String)
  deriving DecidableEq

/-! ## Text -/

/-- The keyword of a lock mode. -/
def LockMode.text : LockMode → String
  | .deferred => "DEFERRED"
  | .immediate => "IMMEDIATE"
  | .exclusive => "EXCLUSIVE"

/-- Clauses on a line each. -/
def lines (clauses : List String) : String := "\n".intercalate clauses

/-- Items of a list. -/
def commas (items : List String) : String := ", ".intercalate items

def Join.text (j : Join) : String :=
  j.kind.text ++ " " ++ quoteIdentifier j.table ++ " ON " ++ j.condition.text

/-- The clauses of a source. -/
def Source.clauses (s : Source) : List String :=
  ("FROM " ++ quoteIdentifier s.table) :: s.joins.map Join.text

def ResultColumn.text : ResultColumn → String
  | .all => "*"
  | .term t none => t.text
  | .term t (some title) => t.text ++ " AS " ++ quoteIdentifier title

def SortKey.text (k : SortKey) : String :=
  if k.descending then k.term.text ++ " DESC" else k.term.text

/-- The clause of a condition, if there is one. -/
def conditionClause : Option Term → List String
  | some t => ["WHERE " ++ t.text]
  | none => []

/-- The clauses of a query. -/
def Select.clauses (q : Select) : List String :=
  [(if q.distinct then "SELECT DISTINCT " else "SELECT ") ++ commas (q.columns.map ResultColumn.text)] ++
    (match q.source with
      | some s => s.clauses
      | none => []) ++
    conditionClause q.condition ++
    (if q.order.isEmpty then [] else ["ORDER BY " ++ commas (q.order.map SortKey.text)]) ++
    (match q.limit with
      | some n => ["LIMIT " ++ toString n]
      | none => []) ++
    (match q.offset with
      | some n => ["OFFSET " ++ toString n]
      | none => [])

/-- The text of a statement. -/
def Statement.text : Statement → String
  | .select q => lines q.clauses
  | .countRows s condition => lines (["SELECT count(*)"] ++ s.clauses ++ conditionClause condition)
  | .countOf q => lines (["SELECT count(*)", "FROM ("] ++ q.clauses ++ [")"])
  | .delete table condition => lines (["DELETE FROM " ++ quoteIdentifier table] ++ conditionClause condition)
  | .insert table columns values =>
    "INSERT INTO " ++ quoteIdentifier table ++
      (if columns.isEmpty then "" else " (" ++ commas (columns.map quoteIdentifier) ++ ")") ++
      " VALUES (" ++ commas (values.map Constant.text) ++ ")"
  | .insertDefaults table => "INSERT INTO " ++ quoteIdentifier table ++ " DEFAULT VALUES"
  | .update table column value condition =>
    "UPDATE " ++ quoteIdentifier table ++ " SET " ++ quoteIdentifier column ++ " = " ++ value.text ++
      (match condition with
        | some t => " WHERE " ++ t.text
        | none => "")
  | .begin mode => "BEGIN " ++ mode.text
  | .commit => "COMMIT"
  | .rollback => "ROLLBACK"
  | .savepoint name => "SAVEPOINT " ++ quoteIdentifier name
  | .release name => "RELEASE " ++ quoteIdentifier name
  | .rollbackTo name => "ROLLBACK TO " ++ quoteIdentifier name
  | .setting name => "PRAGMA " ++ name

end Sql

end SqlMapper
