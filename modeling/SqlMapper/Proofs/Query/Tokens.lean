import SqlMapper.Proofs.Query.Filling

/-!
# Tokens of statements

The tokens of the statements that chains are rendered to, by the clauses of the statement (`Sql.Statement.tokens?`).
They are those of the chain, so the text of such a statement falls into them (`Clause.statement?_tokens`); and a
semicolon is not among them.
-/

namespace SqlMapper

open Sql (Token Keyword parenTokens commaTokens columnTokens numberTokens tokensFrom)

namespace Sql

/-! ## Clauses -/

def Join.tokens (j : Join) : List Token := j.kind.tokens ++ .quoted j.table :: Keyword.token .on :: j.condition.tokens

/-- The tokens of the clauses of a source: its table, then its joins. -/
def Source.clauseTokens (s : Source) : List (List Token) :=
  [Keyword.token .from, .quoted s.table] :: s.joins.map Join.tokens

def ResultColumn.tokens : ResultColumn → List Token
  | .all => [.symbol .star]
  | .term t none => t.tokens
  | .term t (some title) => t.tokens ++ [Keyword.token .as, .quoted title]

def SortKey.tokens (k : SortKey) : List Token := k.term.tokens ++ if k.descending then [Keyword.token .desc] else []

/-- The clause of a condition, if there is one. -/
def conditionTokens : Option Term → List (List Token)
  | some t => [Keyword.token .where :: t.tokens]
  | none => []

/-- The clause of an order, if there are keys. -/
def orderTokens (keys : List SortKey) : List (List Token) :=
  if keys.isEmpty then [] else [Keyword.token .order :: Keyword.token .by :: commaTokens (keys.map SortKey.tokens)]

/-- The clause of a limit or an offset, if there is one. -/
def pageTokens (k : Keyword) (n : Option Int) : List (List Token) := (n.map fun n => k.token :: integerTokens n).toList

/-- The first clause of a query. -/
def Select.headTokens (q : Select) : List Token :=
  (Keyword.token .select :: if q.distinct then [Keyword.token .distinct] else []) ++
    commaTokens (q.columns.map ResultColumn.tokens)

/-- The tokens of the clauses of a query. -/
def Select.clauseTokens (q : Select) : List (List Token) :=
  [q.headTokens] ++ (q.source.map Source.clauseTokens).getD [] ++ conditionTokens q.condition ++ orderTokens q.order ++
    pageTokens .limit q.limit ++ pageTokens .offset q.offset

/-- The tokens of a statement that a chain may be rendered to. -/
def Statement.tokens? : Statement → Option (List Token)
  | .select q => some q.clauseTokens.flatten
  | .countOf q => some (countTokens ++ Keyword.token .from :: parenTokens q.clauseTokens.flatten)
  | .countRows s condition => some ([countTokens] ++ s.clauseTokens ++ conditionTokens condition).flatten
  | .delete table condition =>
    some ([[Keyword.token .delete, Keyword.token .from, .quoted table]] ++ conditionTokens condition).flatten
  | _ => none

/-! ## Semicolons -/

/-- Parentheses bring in no semicolon. -/
theorem semicolon_notMem_parenTokens {ts : List Token} (h : .symbol .semicolon ∉ ts) :
    .symbol .semicolon ∉ parenTokens ts := by
  simpa [parenTokens] using h

theorem semicolon_notMem_commaTokens {tss : List (List Token)} (h : ∀ ts ∈ tss, .symbol .semicolon ∉ ts) :
    .symbol .semicolon ∉ commaTokens tss := by
  induction tss with
  | nil => simp [commaTokens]
  | cons ts tss ih =>
    have hts := h ts List.mem_cons_self
    have htss := ih fun us hus => h us (List.mem_cons_of_mem _ hus)
    cases tss with
    | nil => simpa [commaTokens] using hts
    | cons us tss => simpa [commaTokens, hts] using htss

/-- A number has none, with its sign or without. -/
theorem semicolon_notMem_numberTokens (negative : Bool) (digits : List Char) :
    .symbol .semicolon ∉ numberTokens negative digits := by
  cases negative <;> simp [numberTokens]

/-- A constant has none; one inside a text or a blob is a part of its token. -/
theorem Constant.semicolon_notMem (c : Constant) : .symbol .semicolon ∉ c.tokens := by
  cases c with
  | place p => simp [Constant.tokens]
  | literal v =>
    cases v with
    | integer n => exact semicolon_notMem_numberTokens _ _
    | real x => exact semicolon_notMem_numberTokens _ _
    | _ => simp [Constant.tokens, literalTokens, Keyword.token]

/-- No term has a semicolon among its tokens. -/
theorem Term.semicolon_notMem (t : Term) : .symbol .semicolon ∉ t.tokens := by
  induction t with
  | constant c => exact c.semicolon_notMem
  | column table name => cases table <;> simp [Term.tokens, columnTokens]
  | word name => simp [Term.tokens]
  | truth b => simp [Term.tokens]
  | not x ih => simpa [Term.tokens, Keyword.token] using ih
  | sign negative x ih => cases negative <;> simpa [Term.tokens] using ih
  | binary op l r ihl ihr => cases op <;> simp [Term.tokens, BinaryOp.tokens, Keyword.token, ihl, ihr]
  | member item set ih =>
    have hset : .symbol .semicolon ∉ commaTokens (set.map Constant.tokens) := by
      refine semicolon_notMem_commaTokens ?_
      rintro _ hc
      obtain ⟨c, -, rfl⟩ := List.mem_map.1 hc
      exact c.semicolon_notMem
    simp [Term.tokens, Keyword.token, ih, semicolon_notMem_parenTokens hset]
  | apply f x ih => simpa [Term.tokens] using semicolon_notMem_parenTokens ih
  | replace x old new ih ihold ihnew =>
    have hargs : .symbol .semicolon ∉ x.tokens ++ .symbol .comma :: old.tokens ++ .symbol .comma :: new.tokens := by
      simp [ih, ihold, ihnew]
    simpa [Term.tokens] using semicolon_notMem_parenTokens hargs
  | castText x ih =>
    have hargs : .symbol .semicolon ∉ x.tokens ++ [Keyword.token .as, .word "TEXT"] := by simp [ih, Keyword.token]
    simpa [Term.tokens, Keyword.token] using semicolon_notMem_parenTokens hargs
  | paren x ih => exact semicolon_notMem_parenTokens ih

theorem Join.semicolon_notMem (j : Join) : .symbol .semicolon ∉ j.tokens := by
  have hcondition := j.condition.semicolon_notMem
  cases hkind : j.kind <;> simp [Join.tokens, hkind, JoinKind.tokens, Keyword.token, hcondition]

/-- None is in the clauses of a source, conditions of joins included. -/
theorem Source.semicolon_notMem (s : Source) : ∀ ts ∈ s.clauseTokens, .symbol .semicolon ∉ ts := by
  intro ts hts
  rcases List.mem_cons.1 hts with rfl | hts
  · simp [Keyword.token]
  · obtain ⟨j, -, rfl⟩ := List.mem_map.1 hts
    exact j.semicolon_notMem

theorem semicolon_notMem_conditionTokens (condition : Option Term) :
    ∀ ts ∈ conditionTokens condition, .symbol .semicolon ∉ ts := by
  cases condition with
  | none => simp [conditionTokens]
  | some t => simp [conditionTokens, Keyword.token, t.semicolon_notMem]

theorem semicolon_notMem_pageTokens (k : Keyword) (n : Option Int) :
    ∀ ts ∈ pageTokens k n, .symbol .semicolon ∉ ts := by
  cases n with
  | none => simp [pageTokens]
  | some n => simp [pageTokens, Keyword.token, integerTokens, semicolon_notMem_numberTokens]

/-- None is in the clauses of a query. -/
theorem Select.semicolon_notMem (q : Select) : ∀ ts ∈ q.clauseTokens, .symbol .semicolon ∉ ts := by
  have hcolumns : .symbol .semicolon ∉ commaTokens (q.columns.map ResultColumn.tokens) := by
    refine semicolon_notMem_commaTokens ?_
    rintro _ hc
    obtain ⟨c, -, rfl⟩ := List.mem_map.1 hc
    cases c with
    | all => simp [ResultColumn.tokens]
    | term t title => cases title <;> simp [ResultColumn.tokens, Keyword.token, t.semicolon_notMem]
  have hhead : .symbol .semicolon ∉ q.headTokens := by
    unfold Select.headTokens
    cases q.distinct <;> simp [Keyword.token, hcolumns]
  have hkeys : .symbol .semicolon ∉ commaTokens (q.order.map SortKey.tokens) := by
    refine semicolon_notMem_commaTokens ?_
    rintro _ hk
    obtain ⟨k, -, rfl⟩ := List.mem_map.1 hk
    unfold SortKey.tokens
    cases k.descending <;> simp [Keyword.token, k.term.semicolon_notMem]
  have horder : ∀ ts ∈ orderTokens q.order, .symbol .semicolon ∉ ts := by
    unfold orderTokens
    cases q.order.isEmpty <;> simp [Keyword.token, hkeys]
  have hsource : ∀ ts ∈ (q.source.map Source.clauseTokens).getD [], .symbol .semicolon ∉ ts := by
    cases q.source with
    | none => simp
    | some s => exact s.semicolon_notMem
  intro ts hts
  simp only [Select.clauseTokens, List.mem_append, List.mem_singleton] at hts
  rcases hts with ((((rfl | h) | h) | h) | h) | h
  · exact hhead
  · exact hsource ts h
  · exact semicolon_notMem_conditionTokens _ ts h
  · exact horder ts h
  · exact semicolon_notMem_pageTokens _ _ ts h
  · exact semicolon_notMem_pageTokens _ _ ts h

/-- A statement that a chain is rendered to is one statement: its tokens have no semicolon. -/
theorem Statement.semicolon_notMem {s : Statement} {ts : List Token} (h : s.tokens? = some ts) :
    .symbol .semicolon ∉ ts := by
  have hflatten : ∀ {tss : List (List Token)}, (∀ us ∈ tss, .symbol .semicolon ∉ us) →
      .symbol .semicolon ∉ tss.flatten := by
    intro tss htss hmem
    obtain ⟨us, hus, hmem⟩ := List.mem_flatten.1 hmem
    exact htss us hus hmem
  have hcount : .symbol .semicolon ∉ countTokens := by simp [countTokens, Keyword.token]
  cases s with
  | select q =>
    obtain rfl := Option.some.inj h
    exact hflatten q.semicolon_notMem
  | countOf q =>
    obtain rfl := Option.some.inj h
    have hparen := semicolon_notMem_parenTokens (hflatten q.semicolon_notMem)
    simpa [hcount, Keyword.token] using hparen
  | countRows source condition =>
    obtain rfl := Option.some.inj h
    refine hflatten fun us hus => ?_
    simp only [List.mem_append, List.mem_singleton] at hus
    rcases hus with (rfl | hus) | hus
    · exact hcount
    · exact source.semicolon_notMem us hus
    · exact semicolon_notMem_conditionTokens condition us hus
  | delete table condition =>
    obtain rfl := Option.some.inj h
    refine hflatten fun us hus => ?_
    simp only [List.mem_append, List.mem_singleton] at hus
    rcases hus with rfl | hus
    · simp [Keyword.token]
    · exact semicolon_notMem_conditionTokens condition us hus
  | _ => cases h

end Sql

/-! ## The tokens of a chain are those of its statement -/

section Clauses

variable (r : Rendering)

/-- Joins are emitted as the tokens of the joins that they are compiled to. -/
theorem joins_tokens (scope : Scope) (joins : List JoinClause) :
    Emits (fun (js : List Sql.Join) tss => js.map Sql.Join.tokens = tss) (r.joins scope joins)
      (r.joinTokens? scope joins) := by
  induction joins generalizing scope with
  | nil => exact .some rfl
  | cons j rest ih =>
    rw [Rendering.joins, Rendering.joinTokens?]
    refine ((r.compiler _).emits_tokens j.condition).bind fun on ts hon =>
      (ih _).bind fun others tss hothers => .some ?_
    obtain rfl : on.sql.tokens = ts := hon
    simp [hothers, Sql.Join.tokens]

/-- A source is emitted as the tokens of the source it is compiled to. -/
theorem source_tokens (s : Source) :
    Emits (fun (s : Sql.Source) tss => s.clauseTokens = tss) (r.source s) (r.sourceTokens? s) :=
  (joins_tokens r (.single s.table) s.joins).map fun js tss h => by
    simp [Bound.map, Sql.Source.clauseTokens, h]

/-- What is returned is emitted as the tokens of its terms, one by one. -/
theorem projection_tokens (s : Selection) :
    Emits (fun (terms : List Sql.Term) tss => terms.map Sql.Term.tokens = tss) (r.projection s)
      (r.projectionTokens? s) := by
  unfold Rendering.projection Rendering.projectionTokens?
  cases s.projection with
  | all =>
    refine .some ?_
    simp [Bound.pure, Scope.allColumns, Scope.allColumnTokens, List.map_flatMap, Function.comp_def, Scope.term,
      Sql.Term.tokens]
  | exprs columns =>
    cases columns with
    | nil => exact .none _
    | cons x rest =>
      refine (Emits.collect ((r.compiler s.scope).emits_tokensEach (x :: rest))).imp fun b tss _ heach => ?_
      rw [← List.forall₂_eq_eq_eq, List.forall₂_map_left_iff]
      exact heach

/-- A condition is emitted as the tokens of its clause, and no condition as none. -/
theorem predicate_tokens (scope : Scope) (predicate : Option Expr) :
    Emits (fun (p : Option Sql.Term) tss => Sql.conditionTokens p = tss) (r.predicate scope predicate)
      (r.conditionTokens? scope predicate) := by
  cases predicate with
  | none => exact .some rfl
  | some p =>
    refine ((r.compiler scope).emits_tokens p).map fun b ts h => ?_
    obtain rfl : b.sql.tokens = ts := h
    rfl

/-- Keys are emitted as the tokens of the keys they are compiled to, in their order. -/
theorem keys_tokens (scope : Scope) (keys : List OrderKey) :
    Emits (fun (ks : List Sql.SortKey) tss => ks.map Sql.SortKey.tokens = tss) (r.keys scope keys)
      (r.keyTokens? scope keys) := by
  induction keys with
  | nil => exact .some rfl
  | cons k rest ih =>
    rw [Rendering.keys, Rendering.keyTokens?]
    refine ((r.compiler scope).emits_tokens k.expr).bind fun first ts hfirst =>
      ih.bind fun others tss hothers => .some ?_
    obtain rfl : first.sql.tokens = ts := hfirst
    simp [hothers, Sql.SortKey.tokens]

/-- The tokens of a chain are those of the clauses of its query. -/
theorem query_tokens (q : Query) :
    Emits (fun (q : Sql.Select) tss => q.clauseTokens = tss) (q.compile r) (q.clauseTokens? r) := by
  refine (projection_tokens r q.selection).bind fun columns columnTss hcolumns => ?_
  refine (source_tokens r q.selection.source).bind fun source sourceTss hsource => ?_
  refine (predicate_tokens r q.selection.scope q.predicate).bind fun condition conditionTss hcondition => ?_
  refine (keys_tokens r q.selection.scope q.keys).bind fun order orderTss horder => .some ?_
  have hterms : (columns.sql.map fun t => Sql.ResultColumn.term t none).map Sql.ResultColumn.tokens = columnTss := by
    rw [← hcolumns, List.map_map]
    rfl
  have hordered : Sql.orderTokens order.sql =
      if orderTss.isEmpty then [] else [Keyword.token .order :: Keyword.token .by :: commaTokens orderTss] := by
    rw [Sql.orderTokens, ← horder, List.isEmpty_map]
  simp [Sql.Select.clauseTokens, Sql.Select.headTokens, hterms, hsource, hcondition, hordered, Sql.pageTokens]

/-- A count is emitted as the tokens of its statement, with equal rows counted once or not. -/
theorem count_tokens (s : Selection) (predicate : Option Expr) :
    Emits (fun (s : Sql.Statement) ts => s.tokens? = some ts) (s.countWhere predicate r)
      (s.countTokens? predicate r) := by
  unfold Selection.countWhere Selection.countTokens?
  split
  · refine (query_tokens r { selection := s, predicate }).bind fun q tss hq => .some ?_
    simp [hq, Bound.map, Sql.Statement.tokens?]
  · refine (source_tokens r s.source).bind fun source sourceTss hsource => ?_
    refine (predicate_tokens r s.scope predicate).bind fun condition conditionTss hcondition => .some ?_
    simp [hsource, hcondition, Sql.Statement.tokens?]

/-- A deletion is emitted as the tokens of its statement. -/
theorem delete_tokens (f : Filter) :
    Emits (fun (s : Sql.Statement) ts => s.tokens? = some ts) (f.deleteStatement r) (f.deleteTokens? r) := by
  unfold Filter.deleteStatement Filter.deleteTokens?
  generalize f.selection.scope.tables = tables
  rcases tables with _ | ⟨t, _ | ⟨u, rest⟩⟩
  · exact .none _
  · refine ((r.compiler f.selection.scope).emits_tokens f.predicate).map fun b ts h => ?_
    obtain rfl : b.sql.tokens = ts := h
    simp [Bound.map, Sql.Statement.tokens?, Sql.conditionTokens]
  · exact .none _

end Clauses

namespace Clause

variable {k : Clause} {r : Rendering}

/-- What a chain is rendered to has the tokens of the chain. -/
theorem statement?_emits (k : Clause) (r : Rendering) (p : Purpose) :
    ∀ x, k.statement? r p = some x → Emits (fun (s : Sql.Statement) ts => s.tokens? = some ts) x (k.tokens? r p) := by
  intro x hx
  cases p with
  | rows =>
    unfold statement? at hx
    rw [tokens?]
    cases hq : k.query? with
    | none =>
      rw [hq] at hx
      cases hx
    | some q =>
      rw [hq] at hx
      obtain rfl := Option.some.inj hx
      exact (query_tokens r q).map fun b tss h => by rw [← h]; rfl
  | count =>
    cases k with
    | selection s =>
      obtain rfl := Option.some.inj hx
      exact count_tokens r s none
    | filter f =>
      obtain rfl := Option.some.inj hx
      exact count_tokens r f.selection (some f.predicate)
    | _ => cases hx
  | deletion =>
    cases k with
    | filter f =>
      obtain rfl := Option.some.inj hx
      exact delete_tokens r f
    | _ => cases hx

/-- The text of a rendered statement falls into the tokens of the statement. -/
theorem statement?_tokens {p : Purpose} {b : Bound Sql.Statement} (h : k.statement? r p = some (.ok b)) :
    b.sql.tokens? = some (tokensFrom b.sql.text.toList) := by
  have htokens := k.tokens?_eq r p
  rw [k.render?_eq, h] at htokens
  have hemits := k.statement?_emits r p _ h
  rw [show k.tokens? r p = some (tokensFrom b.sql.text.toList) from htokens] at hemits
  cases hemits with
  | some h => exact h

end Clause

end SqlMapper
