import SqlMapper.Query.Basic

/-!
# Statements of queries

A query becomes a statement clause by clause, in the order of the text: projection, source,
predicate, order. The values of its places come in that order, and so does the first error. A count
leaves the projection out, unless equal rows count once; then it counts the rows of the query
itself. A deletion takes the source and the predicate of a query on one table.
-/

namespace SqlMapper

/-- The style of constants and the coercion with which a statement is made. -/
structure Rendering where
  style : Style := .inline
  coercion : Coercion := {}
  deriving DecidableEq, Repr

/-- The compiler for a scope. -/
def Rendering.compiler (r : Rendering) (scope : Scope) : Compiler := ⟨scope, r.style, r.coercion⟩

/-- Compiles joins, each in the scope of the tables up to its own. -/
def Rendering.joins (r : Rendering) (scope : Scope) :
    List JoinClause → Except Error (Bound (List Sql.Join))
  | [] => .ok ⟨[], []⟩
  | j :: rest => do
    let scope := scope.join j.table
    let on ← (r.compiler scope).compile j.condition
    let others ← r.joins scope rest
    return ⟨⟨j.kind, j.table.name, on.sql⟩ :: others.sql, on.params ++ others.params⟩

/-- Compiles a source. -/
def Rendering.source (r : Rendering) (s : Source) : Except Error (Bound Sql.Source) := do
  let joins ← r.joins (.single s.table) s.joins
  return joins.map fun js => ⟨s.table.name, js⟩

/-- All columns of all tables in scope. -/
def Scope.allColumns (s : Scope) : List Sql.Term :=
  s.tables.flatMap fun t => t.columns.map fun c => s.term t c

/-- Compiles what a selection returns. -/
def Rendering.projection (r : Rendering) (s : Selection) : Except Error (Bound (List Sql.Term)) :=
  match s.projection with
  | .all => .ok (.pure s.scope.allColumns)
  | .exprs [] => .error (.operation .emptySelect)
  | .exprs columns => (r.compiler s.scope).compileAll columns

/-- Compiles a predicate, if there is one. -/
def Rendering.predicate (r : Rendering) (scope : Scope) :
    Option Expr → Except Error (Bound (Option Sql.Term))
  | none => .ok (.pure none)
  | some p => do
    let p ← (r.compiler scope).compile p
    return p.map some

/-- Compiles the keys of an order. -/
def Rendering.keys (r : Rendering) (scope : Scope) :
    List OrderKey → Except Error (Bound (List Sql.SortKey))
  | [] => .ok ⟨[], []⟩
  | k :: rest => do
    let first ← (r.compiler scope).compile k.expr
    let others ← r.keys scope rest
    let key : Sql.SortKey := { term := first.sql, descending := k.descending }
    return ⟨key :: others.sql, first.params ++ others.params⟩

/-- Compiles a query. -/
def Query.compile (q : Query) (r : Rendering) : Except Error (Bound Sql.Select) := do
  let scope := q.selection.scope
  let columns ← r.projection q.selection
  let source ← r.source q.selection.source
  let condition ← r.predicate scope q.predicate
  let order ← r.keys scope q.keys
  let select : Sql.Select :=
    { distinct := q.selection.distinct
      columns := columns.sql.map fun t => .term t none
      source := some source.sql
      condition := condition.sql
      order := order.sql
      limit := q.limit
      offset := q.offset }
  return ⟨select, columns.params ++ source.params ++ condition.params ++ order.params⟩

/-- The statement of a query. -/
def Query.statement (q : Query) (r : Rendering) : Except Error (Bound Sql.Statement) := do
  return (← q.compile r).map .select

/-- The statement that counts the rows of a selection with a predicate. -/
def Selection.countWhere (s : Selection) (predicate : Option Expr) (r : Rendering) :
    Except Error (Bound Sql.Statement) :=
  if s.distinct then do
    return (← Query.compile { selection := s, predicate } r).map .countOf
  else do
    let source ← r.source s.source
    let condition ← r.predicate s.scope predicate
    return ⟨.countRows source.sql condition.sql, source.params ++ condition.params⟩

/-- The statement that counts the rows of a selection. -/
def Selection.countStatement (s : Selection) (r : Rendering) : Except Error (Bound Sql.Statement) :=
  s.countWhere none r

/-- The statement that counts the rows of a filter. -/
def Filter.countStatement (f : Filter) (r : Rendering) : Except Error (Bound Sql.Statement) :=
  f.selection.countWhere (some f.predicate) r

/-- The statement that deletes the rows of a filter on one table. -/
def Filter.deleteStatement (f : Filter) (r : Rendering) : Except Error (Bound Sql.Statement) :=
  match f.selection.scope.tables with
  | [t] => do
    let condition ← (r.compiler f.selection.scope).compile f.predicate
    return condition.map fun p => .delete t.name (some p)
  | _ => .error (.operation .deleteFromJoin)

/-- A statement as text, with the values of its places. -/
structure CompiledSql where
  text : String
  params : List Native
  deriving DecidableEq

/-- The text of a statement with its values. -/
def Bound.toText (b : Bound Sql.Statement) : CompiledSql := ⟨b.sql.text, b.params⟩

/-- A query as text. -/
def Query.render (q : Query) (r : Rendering) : Except Error CompiledSql := do
  return (← q.statement r).toText

/-- A query as text with its constants written out. -/
def Query.toSql (q : Query) : Except Error String := do
  return (← q.render {}).text

/-- A query as text with its constants bound to places. -/
def Query.toStatement (q : Query) : Except Error CompiledSql := q.render { style := .positional }

end SqlMapper
