import SqlMapper.Proofs.Compiler.Filling
import SqlMapper.Proofs.Query.Emitter

/-!
# Statements written out and statements bound

With constants written out and with constants bound a chain becomes statements that are the same but for their
terms, and each term of the first is the term of the second with its places filled; the values go through the terms
in the order of the text (`Sql.Statement.Fills`). This is shown clause by clause (`Clause.statement_alike`).
-/

namespace SqlMapper

/-! ## Parts of statements with their places filled -/

namespace Sql

/-- A join with the places of its condition filled. -/
structure Join.Fills (j : Join) (values : List Native) (filled : Join) : Prop where
  kind : filled.kind = j.kind
  table : filled.table = j.table
  condition : j.condition.Fills values filled.condition

/-- A source with the conditions of its joins filled. -/
structure Source.Fills (s : Source) (values : List Native) (filled : Source) : Prop where
  table : filled.table = s.table
  joins : Each Join.Fills s.joins values filled.joins

/-- A key of an order with its places filled. -/
structure SortKey.Fills (k : SortKey) (values : List Native) (filled : SortKey) : Prop where
  descending : filled.descending = k.descending
  term : k.term.Fills values filled.term

/-- A condition with its places filled, if there is one. -/
inductive ConditionFills : Option Term → List Native → Option Term → Prop where
  | none : ConditionFills none [] none
  | some {t u : Term} {values : List Native} (h : t.Fills values u) : ConditionFills (some t) values (some u)

/-- A query on tables whose terms have no titles. -/
def Select.ofTerms (distinct : Bool) (columns : List Term) (source : Source) (condition : Option Term)
    (order : List SortKey) (limit offset : Option Int) : Select :=
  { distinct, columns := columns.map fun t => .term t none, source := some source, condition, order, limit, offset }

/-- A query with its places filled: those of its columns, then of its source, its condition and its keys. -/
inductive Select.Fills : Select → List Native → Select → Prop where
  | ofTerms {columns columns' : List Term} {source source' : Source} {condition condition' : Option Term}
    {order order' : List SortKey} {cs ss ws os : List Native} (distinct : Bool) (limit offset : Option Int)
    (hcolumns : Each Term.Fills columns cs columns') (hsource : source.Fills ss source')
    (hcondition : ConditionFills condition ws condition') (horder : Each SortKey.Fills order os order') :
    Fills (.ofTerms distinct columns source condition order limit offset) (cs ++ ss ++ ws ++ os)
      (.ofTerms distinct columns' source' condition' order' limit offset)

/-- A statement with its places filled. -/
inductive Statement.Fills : Statement → List Native → Statement → Prop where
  | select {q q' : Select} {vs : List Native} (h : q.Fills vs q') : Fills (.select q) vs (.select q')
  | countOf {q q' : Select} {vs : List Native} (h : q.Fills vs q') : Fills (.countOf q) vs (.countOf q')
  | countRows {source source' : Source} {condition condition' : Option Term} {vs ws : List Native}
    (hs : source.Fills vs source')
    (hc : ConditionFills condition ws condition') :
    Fills (.countRows source condition) (vs ++ ws) (.countRows source' condition')
  | delete (table : String) {t t' : Term} {vs : List Native} (h : t.Fills vs t') :
    Fills (.delete table (some t)) vs (.delete table (some t'))

end Sql

/-! ## Clauses -/

section Statements

variable (coercion : Coercion)

/-- Joins are compiled alike in both styles. -/
theorem joins_alike (js : List JoinClause) (scope : Scope) :
    Alike (Bound.Agrees (Each Sql.Join.Fills)) (Rendering.joins ⟨.inline, coercion⟩ scope js)
      (Rendering.joins ⟨.positional, coercion⟩ scope js) := by
  induction js generalizing scope with
  | nil => exact Alike.ok ⟨rfl, Each.nil⟩
  | cons j rest ih =>
    refine (compile_alike (scope.join j.table) coercion j.condition).bind fun i p h => ?_
    refine (ih (scope.join j.table)).bind fun is ps hs => ?_
    exact Alike.ok ⟨by simp [h.1, hs.1], Each.cons ⟨rfl, rfl, h.2⟩ hs.2⟩

/-- A source fills the conditions of its joins in their order. -/
theorem source_alike (s : Source) :
    Alike (Bound.Agrees Sql.Source.Fills) (Rendering.source ⟨.inline, coercion⟩ s)
      (Rendering.source ⟨.positional, coercion⟩ s) :=
  (joins_alike coercion s.joins (.single s.table)).bind fun _ _ h => Alike.ok ⟨h.1, rfl, h.2⟩

theorem projection_alike (s : Selection) :
    Alike (Bound.Agrees (Each Sql.Term.Fills)) (Rendering.projection ⟨.inline, coercion⟩ s)
      (Rendering.projection ⟨.positional, coercion⟩ s) := by
  unfold Rendering.projection
  split
  · refine Alike.ok ⟨rfl, Each.refl ?_⟩
    intro t ht
    simp only [Bound.pure, Scope.allColumns, List.mem_flatMap, List.mem_map] at ht
    obtain ⟨table, -, column, -, rfl⟩ := ht
    exact .column _ _
  · exact Alike.error _
  · exact collect_alike (compileEach_alike s.scope coercion _)

theorem predicate_alike (scope : Scope) (predicate : Option Expr) :
    Alike (Bound.Agrees Sql.ConditionFills) (Rendering.predicate ⟨.inline, coercion⟩ scope predicate)
      (Rendering.predicate ⟨.positional, coercion⟩ scope predicate) := by
  cases predicate with
  | none => exact Alike.ok ⟨rfl, .none⟩
  | some p => exact (compile_alike scope coercion p).bind fun i p h => Alike.ok ⟨h.1, .some h.2⟩

theorem keys_alike (scope : Scope) (keys : List OrderKey) :
    Alike (Bound.Agrees (Each Sql.SortKey.Fills)) (Rendering.keys ⟨.inline, coercion⟩ scope keys)
      (Rendering.keys ⟨.positional, coercion⟩ scope keys) := by
  induction keys with
  | nil => exact Alike.ok ⟨rfl, Each.nil⟩
  | cons k rest ih =>
    refine (compile_alike scope coercion k.expr).bind fun i p h => ?_
    refine ih.bind fun is ps hs => ?_
    exact Alike.ok ⟨by simp [h.1, hs.1], Each.cons ⟨rfl, h.2⟩ hs.2⟩

/-- A query fills projection, source, condition and order in the order of its lines. -/
theorem query_alike (q : Query) :
    Alike (Bound.Agrees Sql.Select.Fills) (q.compile ⟨.inline, coercion⟩) (q.compile ⟨.positional, coercion⟩) := by
  refine (projection_alike coercion q.selection).bind fun i p hcolumns => ?_
  refine (source_alike coercion q.selection.source).bind fun i' p' hsource => ?_
  refine (predicate_alike coercion q.selection.scope q.predicate).bind fun i'' p'' hcondition => ?_
  refine (keys_alike coercion q.selection.scope q.keys).bind fun i3 p3 horder => ?_
  refine Alike.ok ⟨by simp [hcolumns.1, hsource.1, hcondition.1, horder.1], ?_⟩
  exact .ofTerms q.selection.distinct q.limit q.offset hcolumns.2 hsource.2 hcondition.2 horder.2

/-! ## Statements -/

/-- The statements of a query in both styles are a pair of which the one is the other with its places filled. -/
theorem statement_alike (q : Query) :
    Alike (Bound.Agrees Sql.Statement.Fills) (q.statement ⟨.inline, coercion⟩) (q.statement ⟨.positional, coercion⟩) :=
  (query_alike coercion q).bind fun _ _ h => Alike.ok ⟨h.1, .select h.2⟩

/-- A count of distinct rows fills its query, and any other count its source and condition. -/
theorem countWhere_alike (s : Selection) (predicate : Option Expr) :
    Alike (Bound.Agrees Sql.Statement.Fills) (s.countWhere predicate ⟨.inline, coercion⟩)
      (s.countWhere predicate ⟨.positional, coercion⟩) := by
  unfold Selection.countWhere
  split
  · exact (query_alike coercion { selection := s, predicate }).bind fun i p h => Alike.ok ⟨h.1, .countOf h.2⟩
  · refine (source_alike coercion s.source).bind fun i p hsource => ?_
    refine (predicate_alike coercion s.scope predicate).bind fun j q hcondition => ?_
    exact Alike.ok ⟨by simp [hsource.1, hcondition.1], .countRows hsource.2 hcondition.2⟩

/-- So are the deletions of a filter, which is refused for the same reason in both. -/
theorem deleteStatement_alike (f : Filter) :
    Alike (Bound.Agrees Sql.Statement.Fills) (f.deleteStatement ⟨.inline, coercion⟩)
      (f.deleteStatement ⟨.positional, coercion⟩) := by
  unfold Filter.deleteStatement
  split
  · rename_i t _
    exact (compile_alike f.selection.scope coercion f.predicate).bind fun i p h => Alike.ok ⟨h.1, .delete t.name h.2⟩
  · exact Alike.error _

end Statements

namespace Clause

/-- The statement of a chain for a purpose, where it has one. -/
def statement? (k : Clause) (r : Rendering) : Purpose → Option (Except Error (Bound Sql.Statement))
  | .rows => k.query?.map fun q => q.statement r
  | .count => k.count? r
  | .deletion => k.delete? r

/-- A chain is rendered to the text of its statement. -/
theorem render?_eq (k : Clause) (r : Rendering) (p : Purpose) :
    k.render? r p = (k.statement? r p).map (Except.map Bound.toText) := by
  cases p with
  | rows =>
    unfold render? statement?
    cases k.query? <;> rfl
  | count => rfl
  | deletion => rfl

/-- Whatever a chain is rendered for, its statement ends alike in both styles. -/
theorem statement_alike (k : Clause) (coercion : Coercion) (p : Purpose) :
    Option.Rel (Alike (Bound.Agrees Sql.Statement.Fills)) (k.statement? ⟨.inline, coercion⟩ p)
      (k.statement? ⟨.positional, coercion⟩ p) := by
  cases p with
  | rows =>
    unfold statement?
    cases k.query? with
    | none => exact .none
    | some q => exact .some (SqlMapper.statement_alike coercion q)
  | count =>
    cases k with
    | selection s => exact .some (countWhere_alike coercion s none)
    | filter f => exact .some (countWhere_alike coercion f.selection (some f.predicate))
    | _ => exact .none
  | deletion =>
    cases k with
    | filter f => exact .some (deleteStatement_alike coercion f)
    | _ => exact .none

/-- A statement with its constants bound becomes one with its places filled by them. -/
theorem statement?_fills {k : Clause} {coercion : Coercion} {p : Purpose} {b : Bound Sql.Statement}
    (h : k.statement? ⟨.positional, coercion⟩ p = some (.ok b)) : ∃ filled, b.sql.Fills b.params filled := by
  have halike := k.statement_alike coercion p
  rw [h] at halike
  generalize k.statement? ⟨.inline, coercion⟩ p = inline at halike
  cases halike with
  | some halike =>
    cases halike with
    | ok hagrees => exact ⟨_, hagrees.2⟩

end Clause

end SqlMapper
