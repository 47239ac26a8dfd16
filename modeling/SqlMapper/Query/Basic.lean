import SqlMapper.Compiler.Compile
import SqlMapper.Sql.Statement

/-!
# Queries

A query starts from a table, may join others to it, selects columns, filters, orders and pages. Each
step makes a new value and leaves the old one as it was. Columns are written with their table as
soon as there is a join, and the condition of a join sees the tables up to the joined one. A limit
and an offset may come in either order: what is set last counts, and an offset alone goes with a
limit of minus one, which is no limit.
-/

namespace SqlMapper

/-- A joined table and the condition it is joined on. -/
structure JoinClause where
  kind : Sql.JoinKind
  table : Table
  condition : Expr

/-- A table and the tables joined to it. -/
structure Source where
  table : Table
  joins : List JoinClause

/-- The scope of a table and joined tables. -/
def Source.scopeOf (t : Table) (joins : List JoinClause) : Scope :=
  joins.foldl (fun s j => s.join j.table) (.single t)

/-- The scope of all tables. -/
def Source.scope (s : Source) : Scope := Source.scopeOf s.table s.joins

/-- A source of one table. -/
def Source.ofTable (t : Table) : Source := ⟨t, []⟩

/-- The source with one more table joined. -/
def Source.join (s : Source) (kind : Sql.JoinKind) (t : Table) (condition : Expr) : Source :=
  { s with joins := s.joins ++ [⟨kind, t, condition⟩] }

/-- What a query returns: all columns of all tables, or expressions. -/
inductive Projection where
  | all
  | exprs (columns : List Expr)

/-- A source and what is selected from it. -/
structure Selection where
  source : Source
  projection : Projection
  distinct : Bool

/-- All columns. -/
def Source.selectAll (s : Source) : Selection := ⟨s, .all, false⟩

/-- The given expressions. -/
def Source.select (s : Source) (columns : List Expr) : Selection := ⟨s, .exprs columns, false⟩

/-- The given expressions, equal rows once. -/
def Source.selectDistinct (s : Source) (columns : List Expr) : Selection :=
  ⟨s, .exprs columns, true⟩

def Selection.scope (s : Selection) : Scope := s.source.scope

/-- A selection and a predicate. -/
structure Filter where
  selection : Selection
  predicate : Expr

/-- The rows for which the predicate holds. -/
def Selection.where (s : Selection) (predicate : Expr) : Filter := ⟨s, predicate⟩

/-- The rows for which this predicate holds as well. -/
def Filter.where (f : Filter) (predicate : Expr) : Filter :=
  { f with predicate := f.predicate.and predicate }

/-- A key that rows are ordered by. -/
structure OrderKey where
  expr : Expr
  descending : Bool

/-- A query: a selection, and what is filtered, ordered and paged of it. -/
structure Query where
  selection : Selection
  predicate : Option Expr := none
  keys : List OrderKey := []
  limit : Option Int := none
  offset : Option Int := none

def Selection.toQuery (s : Selection) : Query := { selection := s }

def Filter.toQuery (f : Filter) : Query :=
  { selection := f.selection, predicate := some f.predicate }

/-- One more key, after those there are. -/
def Query.orderBy (q : Query) (x : Expr) (descending : Bool) : Query :=
  { q with keys := q.keys ++ [⟨x, descending⟩] }

/-- A number of rows as a limit or an offset: the largest 64-bit integer stands for all above it. -/
def clampCount (n : Nat) : Int := if n < 2 ^ 63 then n else 2 ^ 63 - 1

/-- The limit that is no limit. -/
def unbounded : Int := -1

/-- At most so many rows. -/
def Query.take (q : Query) (n : Nat) : Query := { q with limit := some (clampCount n) }

/-- All rows but the first so many. -/
def Query.skip (q : Query) (n : Nat) : Query :=
  { q with limit := some (q.limit.getD unbounded), offset := some (clampCount n) }

/-- The row at an index. -/
def Query.elementAt (q : Query) (n : Nat) : Query := (q.skip n).take 1

end SqlMapper
