import SqlMapper.Proofs.Compiler.Emitter
import SqlMapper.Proofs.Schema.Validation
import SqlMapper.Query.Chain

/-!
# Tokens of queries

The tokens of a query, of a count and of a deletion, clause by clause and without any text (`Clause.tokens?`), and
that a chain is rendered to text that falls into them (`Clause.tokens?_eq`), or else has no tokens.
-/

namespace SqlMapper

open Sql (Token Keyword Lexed LexedEach parenTokens commaTokens columnTokens numberTokens tokensFrom)

/-! ## The tokens of a chain -/

/-- The tokens of an integer. -/
def Sql.integerTokens (n : Int) : List Token := numberTokens (n < 0) (Nat.toDigits 10 n.natAbs)

/-- The keywords of a join. -/
def Sql.JoinKind.tokens : Sql.JoinKind → List Token
  | .inner => [Keyword.token .inner, Keyword.token .join]
  | .left => [Keyword.token .left, Keyword.token .join]

/-- The tokens of joins, each with its condition in the scope of the tables up to its own. -/
def Rendering.joinTokens? (r : Rendering) (scope : Scope) : List JoinClause → Option (List (List Token))
  | [] => some []
  | j :: rest => do
    let scope := scope.join j.table
    let on ← Compiler.tokens? ⟨scope, r.style, r.coercion⟩ j.condition
    let others ← r.joinTokens? scope rest
    return (j.kind.tokens ++ .quoted j.table.name :: Keyword.token .on :: on) :: others

/-- The tokens of a source: its table, then its joins. -/
def Rendering.sourceTokens? (r : Rendering) (s : Source) : Option (List (List Token)) :=
  (r.joinTokens? (.single s.table) s.joins).map fun joins => [Keyword.token .from, .quoted s.table.name] :: joins

/-- The tokens of all columns of all tables, one by one. -/
def Scope.allColumnTokens (s : Scope) : List (List Token) :=
  s.tables.flatMap fun t => t.columns.map fun c => columnTokens (if s.qualified then some t.name else none) c.name

/-- The tokens of what a selection returns, one by one. -/
def Rendering.projectionTokens? (r : Rendering) (s : Selection) : Option (List (List Token)) :=
  match s.projection with
  | .all => some s.scope.allColumnTokens
  | .exprs [] => none
  | .exprs columns => (Compiler.tokensEach ⟨s.scope, r.style, r.coercion⟩ columns).mapM id

/-- The tokens of a condition, if there is one. -/
def Rendering.conditionTokens? (r : Rendering) (scope : Scope) : Option Expr → Option (List (List Token))
  | none => some []
  | some p => (Compiler.tokens? ⟨scope, r.style, r.coercion⟩ p).map fun ts => [Keyword.token .where :: ts]

/-- The tokens of the keys of an order, one by one. -/
def Rendering.keyTokens? (r : Rendering) (scope : Scope) : List OrderKey → Option (List (List Token))
  | [] => some []
  | k :: rest => do
    let first ← Compiler.tokens? ⟨scope, r.style, r.coercion⟩ k.expr
    let others ← r.keyTokens? scope rest
    return (first ++ if k.descending then [Keyword.token .desc] else []) :: others

/-- The tokens of the clauses of a query. -/
def Query.clauseTokens? (q : Query) (r : Rendering) : Option (List (List Token)) := do
  let columns ← r.projectionTokens? q.selection
  let source ← r.sourceTokens? q.selection.source
  let condition ← r.conditionTokens? q.selection.scope q.predicate
  let order ← r.keyTokens? q.selection.scope q.keys
  let select := Keyword.token .select :: if q.selection.distinct then [Keyword.token .distinct] else []
  return [select ++ commaTokens columns] ++ source ++ condition ++
    (if order.isEmpty then [] else [Keyword.token .order :: Keyword.token .by :: commaTokens order]) ++
    (q.limit.map fun n => Keyword.token .limit :: Sql.integerTokens n).toList ++
    (q.offset.map fun n => Keyword.token .offset :: Sql.integerTokens n).toList

/-- The tokens of what counts rows. -/
def Sql.countTokens : List Token :=
  [Keyword.token .select, .word "count", .symbol .open, .symbol .star, .symbol .close]

/-- The tokens of the count of the rows of a selection with a predicate. -/
def Selection.countTokens? (s : Selection) (predicate : Option Expr) (r : Rendering) : Option (List Token) :=
  if s.distinct then do
    let clauses ← Query.clauseTokens? { selection := s, predicate } r
    return Sql.countTokens ++ Keyword.token .from :: parenTokens clauses.flatten
  else do
    let source ← r.sourceTokens? s.source
    let condition ← r.conditionTokens? s.scope predicate
    return ([Sql.countTokens] ++ source ++ condition).flatten

/-- The tokens of the deletion of the rows of a filter on one table. -/
def Filter.deleteTokens? (f : Filter) (r : Rendering) : Option (List Token) :=
  match f.selection.scope.tables with
  | [t] => (Compiler.tokens? ⟨f.selection.scope, r.style, r.coercion⟩ f.predicate).map fun ts =>
      Keyword.token .delete :: Keyword.token .from :: .quoted t.name :: Keyword.token .where :: ts
  | _ => none

/-- What a chain is rendered for: its rows, their number, or their deletion. -/
inductive Clause.Purpose where
  | rows | count | deletion

/-- The text of a chain for a purpose, where it has one. -/
def Clause.render? (k : Clause) (r : Rendering) : Clause.Purpose → Option (Except Error CompiledSql)
  | .rows => k.query?.map fun q => q.render r
  | .count => (k.count? r).map (Except.map Bound.toText)
  | .deletion => (k.delete? r).map (Except.map Bound.toText)

/-- The tokens of a chain for a purpose, where it has any. -/
def Clause.tokens? (k : Clause) (r : Rendering) : Clause.Purpose → Option (List Token)
  | .rows => k.query?.bind fun q => (q.clauseTokens? r).map List.flatten
  | .count =>
    match k with
    | .selection s => s.countTokens? none r
    | .filter f => f.selection.countTokens? (some f.predicate) r
    | _ => none
  | .deletion =>
    match k with
    | .filter f => f.deleteTokens? r
    | _ => none

/-! ## Clauses -/

section Clauses

variable (r : Rendering)

/-- The lines of joins are read as their tokens, and joins that do not compile have none. -/
theorem joins_emits (scope : Scope) (joins : List JoinClause) :
    Emits (fun js tss => LexedEach (js.map Sql.Join.text) tss) (r.joins scope joins) (r.joinTokens? scope joins) := by
  induction joins generalizing scope with
  | nil => exact .some .nil
  | cons j rest ih =>
    rw [Rendering.joins, Rendering.joinTokens?]
    refine ((r.compiler _).emits_text j.condition).bind fun on ts hon => (ih _).bind fun others tss hothers => ?_
    have hname := Lexed.space (.identifier j.table.name) (.space (.keyword .on) hon)
    refine .some (.cons ?_ hothers)
    cases hkind : j.kind with
    | inner =>
      have hlexed := Lexed.space (.keyword .inner) (Lexed.space (.keyword .join) hname)
      simpa [Sql.Join.text, Sql.JoinKind.text, Sql.JoinKind.tokens, Keyword.text] using hlexed
    | left =>
      have hlexed := Lexed.space (.keyword .left) (Lexed.space (.keyword .join) hname)
      simpa [Sql.Join.text, Sql.JoinKind.text, Sql.JoinKind.tokens, Keyword.text] using hlexed

/-- The clauses of a source are read one by one. -/
def Sql.Source.Spells (s : Sql.Source) (tss : List (List Token)) : Prop := LexedEach s.clauses tss

theorem source_emits (s : Source) : Emits Sql.Source.Spells (r.source s) (r.sourceTokens? s) := by
  refine (joins_emits r (.single s.table) s.joins).map fun js tss h => .cons ?_ h
  have hlexed := Lexed.space (.keyword .from) (.identifier s.table.name)
  simpa [Bound.map, Keyword.text] using hlexed

/-- A selection has columns, since every table has. -/
theorem allColumns_ne_nil (s : Source) : s.scope.allColumns ≠ [] := by
  have hmem : ∀ (joins : List JoinClause) (scope : Scope), s.table ∈ scope.tables →
      s.table ∈ (joins.foldl (fun s j => s.join j.table) scope).tables := by
    intro joins
    induction joins with
    | nil => exact fun _ h => h
    | cons j rest ih => exact fun scope h => ih _ (List.mem_append_left _ h)
  have htable : s.table ∈ s.scope.tables := hmem s.joins (.single s.table) List.mem_cons_self
  obtain ⟨c, cs, hcs⟩ := List.exists_cons_of_ne_nil s.table.wellFormed.nonempty
  intro hnil
  have hnone := List.flatMap_eq_nil_iff.1 hnil s.table htable
  rw [hcs] at hnone
  cases hnone

/-- What is returned is read one by one, and is something. -/
structure ColumnsSpell (terms : List Sql.Term) (tss : List (List Token)) : Prop where
  each : List.Forall₂ Sql.Term.Spells terms tss
  ne_nil : terms ≠ []

/-- What is returned is read term by term, and there is at least one. -/
theorem projection_emits (s : Selection) : Emits ColumnsSpell (r.projection s) (r.projectionTokens? s) := by
  unfold Rendering.projection Rendering.projectionTokens?
  cases s.projection with
  | all =>
    have htokens : s.scope.allColumns.map Sql.Term.tokens = s.scope.allColumnTokens := by
      simp [Scope.allColumns, Scope.allColumnTokens, List.map_flatMap, Function.comp_def, Scope.term, Sql.Term.tokens]
    have heach : List.Forall₂ Sql.Term.Spells s.scope.allColumns (s.scope.allColumns.map Sql.Term.tokens) := by
      rw [List.forall₂_map_right_iff, List.forall₂_same]
      intro term hterm
      obtain ⟨t, -, hterm⟩ := List.mem_flatMap.1 hterm
      obtain ⟨c, -, rfl⟩ := List.mem_map.1 hterm
      exact Lexed.column _ _
    rw [htokens] at heach
    exact .some ⟨heach, allColumns_ne_nil s.source⟩
  | exprs columns =>
    cases columns with
    | nil => exact .none _
    | cons x rest =>
      have hall := Emits.collect ((r.compiler s.scope).emits_textEach (x :: rest))
      refine hall.imp fun b tss hb heach => ⟨heach, ?_⟩
      rw [Compiler.compileEach, Bound.collect] at hb
      obtain ⟨first, -, hb⟩ := bind_eq_ok hb
      obtain ⟨others, -, hb⟩ := bind_eq_ok hb
      obtain rfl := Except.ok.inj hb
      exact List.cons_ne_nil _ _

/-- A condition is read as a clause of its own. -/
theorem predicate_emits (scope : Scope) (predicate : Option Expr) :
    Emits (fun p tss => LexedEach (Sql.conditionClause p) tss) (r.predicate scope predicate)
      (r.conditionTokens? scope predicate) := by
  cases predicate with
  | none => exact .some .nil
  | some p =>
    refine ((r.compiler scope).emits_text p).map fun b ts h => .cons ?_ .nil
    have hlexed := Lexed.space (.keyword .where) h
    simpa [Keyword.text] using hlexed

/-- Keys are read one by one, with their direction behind. -/
theorem keys_emits (scope : Scope) (keys : List OrderKey) :
    Emits (fun ks tss => LexedEach (ks.map Sql.SortKey.text) tss) (r.keys scope keys) (r.keyTokens? scope keys) := by
  induction keys with
  | nil => exact .some .nil
  | cons k rest ih =>
    rw [Rendering.keys, Rendering.keyTokens?]
    refine ((r.compiler scope).emits_text k.expr).bind fun first ts hfirst => ih.bind fun others tss hothers => ?_
    refine .some (.cons ?_ hothers)
    cases hdescending : k.descending with
    | false => simpa [Sql.SortKey.text, Sql.Term.Spells] using hfirst
    | true =>
      have hlexed := Lexed.space hfirst (.keyword .desc)
      simpa [Sql.SortKey.text, Keyword.text] using hlexed

/-- The clauses of a query are read one by one. -/
def Sql.Select.Spells (q : Sql.Select) (tss : List (List Token)) : Prop := LexedEach q.clauses tss

/-- What is written before a row limit and the limit, where there is one. -/
theorem limit_spells (k : Keyword) (limit : Option Int) :
    LexedEach (match limit with
        | some n => [k.text ++ " " ++ toString n]
        | none => []) (limit.map fun n => k.token :: Sql.integerTokens n).toList := by
  cases limit with
  | none => exact .nil
  | some n =>
    have hlexed := Lexed.space (.keyword k) (.integer n)
    exact .cons (by simpa [Sql.integerTokens] using hlexed) .nil

/-- The first clause of a query. -/
theorem select_spells {terms : List Sql.Term} {tss : List (List Token)} (h : ColumnsSpell terms tss) (distinct : Bool) :
    Lexed ((if distinct then "SELECT DISTINCT " else "SELECT ") ++
        Sql.commas ((terms.map fun t => Sql.ResultColumn.term t none).map Sql.ResultColumn.text)).toList
      ((Keyword.token .select :: if distinct then [Keyword.token .distinct] else []) ++ commaTokens tss) := by
  have htexts : (terms.map fun t => Sql.ResultColumn.term t none).map Sql.ResultColumn.text =
      terms.map Sql.Term.text := by
    simp [Sql.ResultColumn.text, Function.comp_def]
  have hcommas : Lexed (Sql.commas (terms.map Sql.Term.text)).toList (commaTokens tss) :=
    .commas (List.forall₂_map_left_iff.2 h.each) (by simpa using h.ne_nil)
  rw [htexts]
  cases distinct with
  | false =>
    have hlexed := Lexed.space (.keyword .select) hcommas
    simpa [Keyword.text] using hlexed
  | true =>
    have hlexed := Lexed.space (.keyword .select) (.space (.keyword .distinct) hcommas)
    simpa [Keyword.text] using hlexed

/-- The clause of an order, if there are keys. -/
theorem order_spells {keys : List Sql.SortKey} {tss : List (List Token)}
    (h : LexedEach (keys.map Sql.SortKey.text) tss) :
    LexedEach (if keys.isEmpty then [] else ["ORDER BY " ++ Sql.commas (keys.map Sql.SortKey.text)])
      (if tss.isEmpty then [] else [Keyword.token .order :: Keyword.token .by :: commaTokens tss]) := by
  cases keys with
  | nil =>
    obtain rfl := List.forall₂_nil_left_iff.1 h
    exact .nil
  | cons k rest =>
    have hcommas := Lexed.commas h (by simp)
    cases h with
    | cons hfirst hothers =>
      have hlexed := Lexed.space (.keyword .order) (.space (.keyword .by) hcommas)
      exact .cons (by simpa [Sql.commas, Keyword.text] using hlexed) .nil

/-- A query is read clause by clause. -/
theorem query_emits (q : Query) : Emits Sql.Select.Spells (q.compile r) (q.clauseTokens? r) := by
  refine (projection_emits r q.selection).bind fun columns columnTss hcolumns => ?_
  refine (source_emits r q.selection.source).bind fun source sourceTss hsource => ?_
  refine (predicate_emits r q.selection.scope q.predicate).bind fun condition conditionTss hcondition => ?_
  refine (keys_emits r q.selection.scope q.keys).bind fun order orderTss horder => .some ?_
  have hselect : LexedEach [_] [_] := .cons (select_spells hcolumns q.selection.distinct) .nil
  have hfrom := List.rel_append hselect hsource
  have hordered := List.rel_append (List.rel_append hfrom hcondition) (order_spells horder)
  exact List.rel_append (List.rel_append hordered (limit_spells .limit q.limit)) (limit_spells .offset q.offset)

/-! ## Statements -/

/-- The text of a statement is read as the tokens. -/
def Sql.Statement.Spells (s : Sql.Statement) (ts : List Token) : Prop := Lexed s.text.toList ts

/-- The clause that counts rows. -/
theorem count_lexed : Lexed "SELECT count(*)".toList Sql.countTokens := by
  have hword : Sql.wordToken "count" = .word "count" := rfl
  have hlexed := Lexed.space (.keyword .select) (Lexed.call .star (rfl : Sql.isPlainWord "count" = true))
  simpa [Keyword.text, hword, parenTokens, Sql.countTokens] using hlexed

/-- The text of the count of the rows of a query, with the query on lines of its own. -/
theorem countOf_text {q : Sql.Select} (hq : q.clauses ≠ []) :
    (Sql.Statement.countOf q).text.toList = "SELECT count(*)".toList ++
    '\n' :: (Keyword.from.text.toList ++ ' ' :: '(' :: '\n' ::
      (("\n".intercalate q.clauses).toList ++ ['\n', ')'])) := by
  have htext : (Sql.Statement.countOf q).text = "\n".intercalate
      (["SELECT count(*)", "FROM ("] ++ q.clauses ++ [")"]) := rfl
  rw [htext, String.intercalate_append_of_ne_nil (by simp) (by simp), String.intercalate_append_of_ne_nil (by simp) hq]
  simp [Keyword.text]

/-- A count is read as its tokens, whether it has the query inside or only its source and its condition. -/
theorem count_emits (s : Selection) (predicate : Option Expr) :
    Emits Sql.Statement.Spells (s.countWhere predicate r) (s.countTokens? predicate r) := by
  unfold Selection.countWhere Selection.countTokens?
  split
  · refine (query_emits r { selection := s, predicate }).bind fun q tss hq => .some ?_
    have hclauses : q.sql.clauses ≠ [] := by simp [Sql.Select.clauses]
    have hinside := Lexed.lines hq hclauses
    have hlexed := Lexed.line count_lexed (Lexed.space (.keyword .from) hinside.parenLines)
    rw [← countOf_text hclauses] at hlexed
    exact hlexed
  · refine (source_emits r s.source).bind fun source sourceTss hsource => ?_
    refine (predicate_emits r s.scope predicate).bind fun condition conditionTss hcondition => .some ?_
    have hcount : LexedEach ["SELECT count(*)"] [Sql.countTokens] := .cons count_lexed .nil
    exact Lexed.lines (List.rel_append (List.rel_append hcount hsource) hcondition) (by simp)

/-- So is a deletion; there are tokens on one table only. -/
theorem delete_emits (f : Filter) : Emits Sql.Statement.Spells (f.deleteStatement r) (f.deleteTokens? r) := by
  unfold Filter.deleteStatement Filter.deleteTokens?
  generalize f.selection.scope.tables = tables
  rcases tables with _ | ⟨t, _ | ⟨u, rest⟩⟩
  · exact .none _
  · refine ((r.compiler f.selection.scope).emits_text f.predicate).map fun b ts h => ?_
    have hfirst := Lexed.space (.keyword .delete) (.space (.keyword .from) (.identifier t.name))
    have hlexed := Lexed.line hfirst (.space (.keyword .where) h)
    have htext : (Sql.Statement.delete t.name (some b.sql)).text =
        "\n".intercalate ["DELETE FROM " ++ quoteIdentifier t.name, "WHERE " ++ b.sql.text] := rfl
    rw [Bound.map, Sql.Statement.Spells, htext]
    simpa [Keyword.text] using hlexed
  · exact .none _

end Clauses

namespace Clause

/-- The tokens of the text of a statement. -/
def textTokens? (x : Except Error CompiledSql) : Option (List Token) := x.toOption.map fun s => tokensFrom s.text.toList

/-- What is emitted for a statement is what its text is read as. -/
theorem textTokens?_toText {x : Except Error (Bound Sql.Statement)} {ts : Option (List Token)}
    (h : Emits Sql.Statement.Spells x ts) : textTokens? (x.map Bound.toText) = ts := by
  cases h with
  | none e => rfl
  | some h => exact congrArg some h.tokensFrom_eq

/-- The tokens of a chain are those of the text that it is rendered to; it has none if it is not rendered. -/
theorem tokens?_eq (k : Clause) (r : Rendering) (p : Purpose) : k.tokens? r p = (k.render? r p).bind textTokens? := by
  cases p with
  | rows =>
    rw [tokens?, render?]
    cases k.query? with
    | none => rfl
    | some q =>
      have hemits : Emits Sql.Statement.Spells (q.statement r) ((q.clauseTokens? r).map List.flatten) := by
        refine (query_emits r q).map fun b tss h => ?_
        exact Lexed.lines h (by simp [Sql.Select.clauses])
      exact (textTokens?_toText hemits).symm
  | count =>
    cases k with
    | selection s => exact (textTokens?_toText (count_emits r s none)).symm
    | filter f => exact (textTokens?_toText (count_emits r f.selection (some f.predicate))).symm
    | _ => rfl
  | deletion =>
    cases k with
    | filter f => exact (textTokens?_toText (delete_emits r f)).symm
    | _ => rfl

end Clause

end SqlMapper
