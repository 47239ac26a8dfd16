import SqlMapper.Error
import SqlMapper.Expr.Basic

/-!
# Scopes

The tables that a column reference may mean, in the order in which they were added. A reference with
a table means the first table of that name; one without has to be found in exactly one table.
Columns are written with their table when the scope is qualified, which it is as soon as tables are
joined.
-/

namespace SqlMapper

/-- Tables in scope, and whether columns are written with their table. -/
structure Scope where
  tables : List Table
  qualified : Bool
  deriving DecidableEq

/-- The scope of one table. -/
def Scope.single (t : Table) : Scope := ⟨[t], false⟩

/-- The scope with a joined table. -/
def Scope.join (s : Scope) (t : Table) : Scope := ⟨s.tables ++ [t], true⟩

/-- The tables that a key stands for a column in, each with the column. -/
def Scope.owners (s : Scope) (key : String) : List (Table × Column) :=
  s.tables.filterMap fun t => (t.column? key).map fun c => (t, c)

/-- The column that a reference means. -/
def Scope.resolve (s : Scope) (ref : ColumnRef) : Except Error (Table × Column) :=
  match ref.table with
  | some name =>
    match s.tables.find? fun t => t.name == name with
    | some t =>
      match t.column? ref.column with
      | some c => .ok (t, c)
      | none => .error (.unknownColumn ref.table ref.column)
    | none => .error (.unknownColumn ref.table ref.column)
  | none =>
    match s.owners ref.column with
    | [] => .error (.unknownColumn none ref.column)
    | [owner] => .ok owner
    | owners => .error (.ambiguousColumn ref.column (owners.map fun o => o.1.name))

/-- A column as the scope writes it. -/
def Scope.term (s : Scope) (t : Table) (c : Column) : Sql.Term :=
  .column (if s.qualified then some t.name else none) c.name

end SqlMapper
