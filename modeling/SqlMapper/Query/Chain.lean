import SqlMapper.Query.Compile

/-!
# Chains of clauses

A query is built one step at a time, and each step is allowed at some positions only: tables are
joined before anything is selected, predicates come before an order, an order before a limit. A
clause is the state of a chain after some steps.
-/

namespace SqlMapper

/-- A step of a chain. -/
inductive ChainStep where
  | from (table : Table)
  | join (kind : Sql.JoinKind) (table : Table) (condition : Expr)
  | selectAll
  | select (distinct : Bool) (columns : List Expr)
  | where (predicate : Expr)
  | orderBy (expr : Expr) (descending : Bool)
  | thenBy (expr : Expr) (descending : Bool)
  | take (count : Nat)
  | skip (count : Nat)
  | elementAt (index : Nat)

/-- A chain after some steps. -/
inductive Clause where
  | source (s : Source)
  | selection (s : Selection)
  | filter (f : Filter)
  | ordered (q : Query)
  | limited (q : Query)
  | paged (q : Query)

/-- The query a chain stands for; a source alone is none. -/
def Clause.query? : Clause → Option Query
  | .source _ => none
  | .selection s => some s.toQuery
  | .filter f => some f.toQuery
  | .ordered q => some q
  | .limited q => some q
  | .paged q => some q

/-- Queries that an order or a page can be put on, the order last. -/
def Clause.unpaged? : Clause → Option Query
  | .selection s => some s.toQuery
  | .filter f => some f.toQuery
  | .ordered q => some q
  | _ => none

/-- The next step of a chain, where it is allowed. -/
def Clause.step (c : Clause) : ChainStep → Option Clause
  | .from _ => none
  | .join kind t condition =>
    match c with
    | .source s => some (.source (s.join kind t condition))
    | _ => none
  | .selectAll =>
    match c with
    | .source s => some (.selection s.selectAll)
    | _ => none
  | .select distinct columns =>
    match c with
    | .source s => some (.selection (if distinct then s.selectDistinct columns else s.select columns))
    | _ => none
  | .where p =>
    match c with
    | .selection s => some (.filter (s.where p))
    | .filter f => some (.filter (f.where p))
    | _ => none
  | .orderBy x descending =>
    match c with
    | .selection s => some (.ordered (s.toQuery.orderBy x descending))
    | .filter f => some (.ordered (f.toQuery.orderBy x descending))
    | _ => none
  | .thenBy x descending =>
    match c with
    | .ordered q => some (.ordered (q.orderBy x descending))
    | _ => none
  | .take n =>
    match c with
    | .paged q => some (.paged (q.take n))
    | _ => c.unpaged?.map fun q => .limited (q.take n)
  | .skip n =>
    match c with
    | .limited q => some (.paged (q.skip n))
    | _ => c.unpaged?.map fun q => .paged (q.skip n)
  | .elementAt n => c.unpaged?.map fun q => .paged (q.elementAt n)

/-- A step on a chain that may not have begun yet. -/
def Clause.start (c : Option Clause) (s : ChainStep) : Option Clause :=
  match s with
  | .from t => some (.source (.ofTable t))
  | _ => c.bind fun c => c.step s

/-- The clause after a whole chain. -/
def Clause.ofChain (steps : List ChainStep) : Option Clause := steps.foldl Clause.start none

/-- The tables in scope. -/
def Clause.scope : Clause → Scope
  | .source s => s.scope
  | .selection s => s.scope
  | .filter f => f.selection.scope
  | .ordered q => q.selection.scope
  | .limited q => q.selection.scope
  | .paged q => q.selection.scope

/-- The name of the position of a chain. -/
def Clause.phase : Clause → String
  | .source s => if s.joins.isEmpty then "from" else "join"
  | .selection _ => "select"
  | .filter _ => "where"
  | .ordered _ => "order_by"
  | .limited _ => "limit"
  | .paged _ => "offset"

/-- The statement that counts the rows of a chain, where it can be counted. -/
def Clause.count? (c : Clause) (r : Rendering) : Option (Except Error (Bound Sql.Statement)) :=
  match c with
  | .selection s => some (s.countStatement r)
  | .filter f => some (f.countStatement r)
  | _ => none

/-- The statement that deletes the rows of a chain, where they can be deleted. -/
def Clause.delete? (c : Clause) (r : Rendering) : Option (Except Error (Bound Sql.Statement)) :=
  match c with
  | .filter f => some (f.deleteStatement r)
  | _ => none

end SqlMapper
