import Mathlib.Data.List.Induction
import SqlMapper.Engine.Query
import SqlMapper.Proofs.Compiler.Resolution
import SqlMapper.Proofs.Query.Filling
import SqlMapper.Proofs.Query.Steps

/-!
# Scopes along a chain

What is in scope at each clause of a chain. The condition of a join is compiled in the scope of the first table and
the tables joined up to its own, in their order, and everything else in the scope of them all (`Clause.compiled`);
columns are written with their table as soon as there is a join. No condition that is compiled therefore has a
column of a table that is joined later (`Source.conditions_stay`).
-/

namespace SqlMapper

/-! ## The tables of a chain -/

/-- The source that a chain stands on. -/
def Clause.underlying : Clause → Source
  | .source s => s
  | .selection s => s.source
  | .filter f => f.selection.source
  | .ordered q => q.selection.source
  | .limited q => q.selection.source
  | .paged q => q.selection.source

/-- The scope of the condition of a join: the first table, and those that are joined up to this one. -/
def Source.onScope (s : Source) (i : Nat) : Scope := ⟨s.table :: (s.joins.take (i + 1)).map JoinClause.table, true⟩

/-- The scope of a source has the first table and all that are joined to it, and is qualified if there are any. -/
theorem Source.scope_eq (s : Source) : s.scope = ⟨s.table :: s.joins.map JoinClause.table, !s.joins.isEmpty⟩ := by
  have hall : ∀ (joins : List JoinClause) (scope : Scope), joins.foldl (fun s j => s.join j.table) scope =
      ⟨scope.tables ++ joins.map JoinClause.table, scope.qualified || !joins.isEmpty⟩ := by
    intro joins
    induction joins with
    | nil => simp
    | cons j rest ih =>
      intro scope
      rw [List.foldl_cons, ih]
      simp [Scope.join]
  exact hall s.joins (.single s.table)

/-- A deletion from joined tables has no statement. -/
theorem deleteStatement_joined {f : Filter} (h : f.selection.source.joins ≠ []) (r : Rendering) :
    f.deleteStatement r = .error (.operation .deleteFromJoin) := by
  obtain ⟨j, rest, hjoins⟩ := List.exists_cons_of_ne_nil h
  unfold Filter.deleteStatement Selection.scope
  rw [Source.scope_eq, hjoins]
  rfl

/-- A deletion from one table keeps the predicate. -/
theorem deleteStatement_single {f : Filter} (h : f.selection.source.joins = []) (r : Rendering) :
    f.deleteStatement r = ((r.compiler f.selection.scope).compile f.predicate).map
      fun b => b.map fun x => .delete f.selection.source.table.name (some x) := by
  have htables : f.selection.scope.tables = [f.selection.source.table] := by
    rw [Selection.scope, Source.scope_eq, h]; rfl
  unfold Filter.deleteStatement
  rw [htables]
  cases (r.compiler f.selection.scope).compile f.predicate <;> rfl

namespace Clause

theorem scope_eq_underlying (k : Clause) : k.scope = k.underlying.scope := by cases k <;> rfl

end Clause

/-! ## Compilations of clauses -/

/-- The terms of a statement in the order in which they are compiled. -/
def Sql.Select.compiled (q : Sql.Select) : List Sql.Term :=
  q.columns.filterMap (fun c =>
    match c with
    | .all => none
    | .term t _ => some t) ++
  Sql.Source.terms q.source ++ q.condition.toList ++ q.order.map Sql.SortKey.term

/-- The terms of a statement in the order in which they are compiled. -/
def Sql.Statement.compiled : Sql.Statement → List Sql.Term
  | .select q => q.compiled
  | .countOf q => q.compiled
  | .countRows s condition => s.joins.map Sql.Join.condition ++ condition.toList
  | .delete _ condition => condition.toList
  | _ => []

section Compilations

variable (r : Rendering)

/-- The conditions of joins, each compiled in its scope. -/
def Source.conditions (s : Source) (on : Nat → Scope) : List (Except Error (Bound Sql.Term)) :=
  s.joins.mapIdx fun i j => (r.compiler (on i)).compile j.condition

/-- What is selected, compiled in a scope; nothing cannot be selected. -/
def Selection.columns (s : Selection) (scope : Scope) : List (Except Error (Bound Sql.Term)) :=
  match s.projection with
  | .all => scope.allColumns.map fun t => .ok (.pure t)
  | .exprs [] => [.error (.operation .emptySelect)]
  | .exprs columns => columns.map (r.compiler scope).compile

/-- The clauses of a query, compiled in their scopes. -/
def Query.clauses (q : Query) (on : Nat → Scope) (scope : Scope) : List (Except Error (Bound Sql.Term)) :=
  q.selection.columns r scope ++ q.selection.source.conditions r on ++
    q.predicate.toList.map (r.compiler scope).compile ++
    q.keys.map fun k => (r.compiler scope).compile k.expr

/-- The clauses of a count, compiled in their scopes: those of the query if equal rows count once, else all but what
is selected. -/
def Selection.countClauses (s : Selection) (predicate : Option Expr) (on : Nat → Scope) (scope : Scope) :
    List (Except Error (Bound Sql.Term)) :=
  if s.distinct then Query.clauses r { selection := s, predicate } on scope
  else s.source.conditions r on ++ predicate.toList.map (r.compiler scope).compile

/-- The predicate of a deletion, compiled in a scope; nothing can be deleted from joined tables. -/
def Filter.deleteClauses (f : Filter) (scope : Scope) : List (Except Error (Bound Sql.Term)) :=
  if f.selection.source.joins.isEmpty then [(r.compiler scope).compile f.predicate]
  else [.error (.operation .deleteFromJoin)]

/-- The clauses of a chain for a purpose, compiled in their scopes. -/
def Clause.clauses? (k : Clause) (on : Nat → Scope) (scope : Scope) : Purpose →
    Option (List (Except Error (Bound Sql.Term)))
  | .rows => k.query?.map fun q => q.clauses r on scope
  | .count =>
    match k with
    | .selection s => some (s.countClauses r none on scope)
    | .filter f => some (f.selection.countClauses r (some f.predicate) on scope)
    | _ => none
  | .deletion =>
    match k with
    | .filter f => some (f.deleteClauses r scope)
    | _ => none

end Compilations

namespace Bound

variable {α β : Type}

/-- Operands are collected part by part. -/
theorem collect_append (xs ys : List (Except Error (Bound α))) :
    collect (xs ++ ys) = collect xs >>= fun a => collect ys >>=
      fun b => .ok ⟨a.sql ++ b.sql, a.params ++ b.params⟩ := by
  induction xs with
  | nil =>
    rw [List.nil_append]
    cases collect ys <;> rfl
  | cons x rest ih =>
    rw [List.cons_append, collect, collect, ih]
    cases x with
    | error e => rfl
    | ok first =>
      cases collect rest with
      | error e => rfl
      | ok others =>
        cases collect ys with
        | error e => rfl
        | ok more => exact congrArg Except.ok (by simp)

/-- Terms that are written as they are. -/
theorem collect_pure (as : List α) : collect (as.map fun a => .ok (Bound.pure a)) = .ok ⟨as, []⟩ := by
  induction as with
  | nil => rfl
  | cons a as ih =>
    rw [List.map_cons, collect, ih]
    rfl

end Bound

/-! ## What is compiled in which scope -/

section Compiled

variable (r : Rendering)

/-- The terms of a projection are compiled in the scope that is given for them. -/
theorem projection_eq (s : Selection) : r.projection s = Bound.collect (s.columns r s.scope) := by
  cases hprojection : s.projection with
  | all =>
    simp only [Rendering.projection, Selection.columns, hprojection]
    exact (Bound.collect_pure _).symm
  | exprs columns =>
    cases columns with
    | nil =>
      simp only [Rendering.projection, Selection.columns, hprojection]
      rfl
    | cons first rest =>
      have hmap : ∀ (xs : List Expr), (r.compiler s.scope).compileEach xs = xs.map (r.compiler s.scope).compile := by
        intro xs
        induction xs with
        | nil => rfl
        | cons x rest ih => rw [Compiler.compileEach, ih, List.map_cons]
      simp only [Rendering.projection, Selection.columns, hprojection, Compiler.compileAll, hmap]

/-- Each join is compiled in the scope of the tables before it and its own. -/
theorem joins_eq (scope : Scope) (joins : List JoinClause) :
    (r.joins scope joins).map (Bound.map (List.map Sql.Join.condition)) =
      Bound.collect (joins.mapIdx fun i j =>
        (r.compiler ⟨scope.tables ++ (joins.take (i + 1)).map JoinClause.table, true⟩).compile j.condition) := by
  induction joins generalizing scope with
  | nil => rfl
  | cons j rest ih =>
    have hrest := ih (scope.join j.table)
    simp only [Scope.join, List.append_assoc, List.singleton_append] at hrest
    rw [List.mapIdx_cons, Rendering.joins, Bound.collect]
    simp only [List.take_succ_cons, List.map_cons, List.take_zero, List.map_nil, Nat.zero_add]
    rw [← hrest]
    change Except.map _ ((r.compiler (scope.join j.table)).compile j.condition >>= _) = _
    rw [Scope.join]
    cases (r.compiler ⟨scope.tables ++ [j.table], true⟩).compile j.condition with
    | error e => rfl
    | ok on => cases r.joins ⟨scope.tables ++ [j.table], true⟩ rest <;> rfl

/-- Each condition of a join is compiled in the scope up to its table. -/
theorem source_eq (s : Source) :
    (r.source s).map (Bound.map fun x => x.joins.map Sql.Join.condition) =
    Bound.collect (s.conditions r s.onScope) := by
  have hjoins := joins_eq r (.single s.table) s.joins
  rw [Rendering.source, Source.conditions]
  refine Eq.trans ?_ hjoins
  cases r.joins (.single s.table) s.joins <;> rfl

/-- A condition is compiled in the scope of all tables. -/
theorem predicate_eq (scope : Scope) (predicate : Option Expr) :
    (r.predicate scope predicate).map (Bound.map Option.toList) =
      Bound.collect (predicate.toList.map (r.compiler scope).compile) := by
  cases predicate with
  | none => rfl
  | some p =>
    change Except.map _ ((r.compiler scope).compile p >>= _) = Bound.collect [(r.compiler scope).compile p]
    cases (r.compiler scope).compile p with
    | error e => rfl
    | ok b => simp [Bound.collect, Bound.map, Except.map, bind, Except.bind, pure, Except.pure]

theorem keys_eq (scope : Scope) (keys : List OrderKey) :
    (r.keys scope keys).map (Bound.map (List.map Sql.SortKey.term)) =
      Bound.collect (keys.map fun k => (r.compiler scope).compile k.expr) := by
  induction keys with
  | nil => rfl
  | cons k rest ih =>
    rw [List.map_cons, Bound.collect, ← ih, Rendering.keys]
    cases (r.compiler scope).compile k.expr with
    | error e => rfl
    | ok first => cases r.keys scope rest <;> rfl

/-- A query compiles its clauses in their scopes, one after another. -/
theorem query_eq (q : Query) :
    (q.compile r).map (Bound.map Sql.Select.compiled) =
      Bound.collect (q.clauses r q.selection.source.onScope q.selection.scope) := by
  unfold Query.compile Query.clauses
  dsimp only
  rw [Bound.collect_append, Bound.collect_append, Bound.collect_append, ← projection_eq, ← source_eq,
    ← predicate_eq, ← keys_eq]
  cases r.projection q.selection with
  | error e => rfl
  | ok columns =>
    cases r.source q.selection.source with
    | error e => rfl
    | ok source =>
      cases r.predicate q.selection.scope q.predicate with
      | error e => rfl
      | ok condition =>
        cases r.keys q.selection.scope q.keys with
        | error e => rfl
        | ok order =>
          simp [Except.map, bind, Except.bind, pure, Except.pure, Bound.map, Sql.Select.compiled, Sql.Source.terms,
            List.filterMap_map]

/-- A count compiles its parts in the scopes in which the query does. -/
theorem count_eq (s : Selection) (predicate : Option Expr) :
    (s.countWhere predicate r).map (Bound.map Sql.Statement.compiled) =
      Bound.collect (s.countClauses r predicate s.source.onScope s.scope) := by
  unfold Selection.countWhere Selection.countClauses
  split
  · rw [← query_eq]
    cases Query.compile { selection := s, predicate } r <;> rfl
  · rw [Bound.collect_append, ← source_eq, ← predicate_eq]
    cases r.source s.source with
    | error e => rfl
    | ok source => cases r.predicate s.scope predicate <;> rfl

theorem delete_eq (f : Filter) :
    (f.deleteStatement r).map (Bound.map Sql.Statement.compiled) =
    Bound.collect (f.deleteClauses r f.selection.scope) := by
  unfold Filter.deleteClauses
  cases hjoins : f.selection.source.joins with
  | nil =>
    rw [deleteStatement_single hjoins]
    cases (r.compiler f.selection.scope).compile f.predicate with
    | error e => rfl
    | ok b => simp [Bound.collect, Bound.map, Except.map, bind, Except.bind, pure, Except.pure, Sql.Statement.compiled]
  | cons j rest =>
    rw [deleteStatement_joined (by simp [hjoins])]
    rfl

/-- Whatever a chain is compiled for, its clauses are compiled in their scopes, one after another. -/
theorem Clause.compiled (k : Clause) (p : Purpose) :
    (k.statement? r p).map (Except.map (Bound.map Sql.Statement.compiled)) =
      (k.clauses? r k.underlying.onScope k.scope p).map Bound.collect := by
  have hquery : ∀ q : Query, (q.statement r).map (Bound.map Sql.Statement.compiled) =
      Bound.collect (q.clauses r q.selection.source.onScope q.selection.scope) := by
    intro q
    rw [← query_eq, Query.statement]
    cases q.compile r <;> rfl
  cases p with
  | rows =>
    cases k with
    | source s => rfl
    | selection s => exact congrArg some (hquery s.toQuery)
    | filter f => exact congrArg some (hquery f.toQuery)
    | ordered q => exact congrArg some (hquery q)
    | limited q => exact congrArg some (hquery q)
    | paged q => exact congrArg some (hquery q)
  | count =>
    cases k with
    | selection s => exact congrArg some (count_eq r s none)
    | filter f => exact congrArg some (count_eq r f.selection (some f.predicate))
    | _ => rfl
  | deletion =>
    cases k with
    | filter f => exact congrArg some (delete_eq r f)
    | _ => rfl

end Compiled

end SqlMapper
