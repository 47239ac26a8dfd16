import SqlMapper.Proofs.Compiler.Contents
import SqlMapper.Proofs.Query.Emitter

/-!
# Contents of queries

Chains of one shape differ in the names of tables, columns and parameters and in the texts and blobs of their
constants, and in nothing else; a table may be another one with as many columns (`Clause.SameShape`). Their tokens
are of the same kinds (`Clause.SameShape.agree_tokens`). So what is in a name or a value stays in its token: the
tokens of a text are those that are said for the expression or the chain, the name or the value is read back from
its token, and which tokens there are does not depend on it (`contents_stay_in_tokens`).
-/

namespace SqlMapper

open Sql (Token Keyword Lexed parenTokens commaTokens columnTokens kinds tokensFrom)

/-! ## Shapes of chains -/

/-- Joins that differ in contents only. -/
structure JoinClause.SameShape (options : Coercion) (i j : JoinClause) : Prop where
  kind : i.kind = j.kind
  columns : i.table.columns.length = j.table.columns.length
  condition : i.condition.shape options = j.condition.shape options

/-- Sources that differ in contents only. -/
structure Source.SameShape (options : Coercion) (s t : Source) : Prop where
  columns : s.table.columns.length = t.table.columns.length
  joins : List.Forall₂ (JoinClause.SameShape options) s.joins t.joins

/-- A projection without contents. -/
def Projection.shape (options : Coercion) : Projection → Projection
  | .all => .all
  | .exprs columns => .exprs (Expr.shapes options columns)

/-- A key without contents. -/
def OrderKey.shape (options : Coercion) (k : OrderKey) : OrderKey := { k with expr := k.expr.shape options }

/-- Selections that differ in contents only. -/
structure Selection.SameShape (options : Coercion) (s t : Selection) : Prop where
  source : s.source.SameShape options t.source
  projection : s.projection.shape options = t.projection.shape options
  distinct : s.distinct = t.distinct

/-- Filters that differ in contents only. -/
structure Filter.SameShape (options : Coercion) (f g : Filter) : Prop where
  selection : f.selection.SameShape options g.selection
  predicate : f.predicate.shape options = g.predicate.shape options

/-- Queries that differ in contents only. -/
structure Query.SameShape (options : Coercion) (q p : Query) : Prop where
  selection : q.selection.SameShape options p.selection
  predicate : q.predicate.map (Expr.shape options) = p.predicate.map (Expr.shape options)
  keys : q.keys.map (OrderKey.shape options) = p.keys.map (OrderKey.shape options)
  limit : q.limit = p.limit
  offset : q.offset = p.offset

/-- Chains that differ in contents only. -/
inductive Clause.SameShape (options : Coercion) : Clause → Clause → Prop where
  | source {s t : Source} (h : s.SameShape options t) : SameShape options (.source s) (.source t)
  | selection {s t : Selection} (h : s.SameShape options t) : SameShape options (.selection s) (.selection t)
  | filter {f g : Filter} (h : f.SameShape options g) : SameShape options (.filter f) (.filter g)
  | ordered {q p : Query} (h : q.SameShape options p) : SameShape options (.ordered q) (.ordered p)
  | limited {q p : Query} (h : q.SameShape options p) : SameShape options (.limited q) (.limited p)
  | paged {q p : Query} (h : q.SameShape options p) : SameShape options (.paged q) (.paged p)

/-- Scopes with as many columns in as many tables, written alike. -/
structure Scope.SameShape (s t : Scope) : Prop where
  qualified : s.qualified = t.qualified
  columns : s.tables.map (·.columns.length) = t.tables.map (·.columns.length)

/-! ## Kinds of tokens -/

section Kinds

variable {r : Rendering}

/-- Scopes stay alike when tables with as many columns are joined to them. -/
theorem Scope.SameShape.join {s t : Scope} (h : s.SameShape t) {u v : Table}
    (huv : u.columns.length = v.columns.length) :
    (s.join u).SameShape (t.join v) where
  qualified := rfl
  columns := by simp [Scope.join, h.columns, huv]

theorem Scope.SameShape.single {u v : Table} (huv : u.columns.length = v.columns.length) :
    (Scope.single u).SameShape (.single v) where
  qualified := rfl
  columns := by simp [Scope.single, huv]

/-- Compilers of a rendering write alike in scopes that do. -/
theorem Scope.SameShape.writesAlike {s t : Scope} (h : s.SameShape t) : (r.compiler s).WritesAlike (r.compiler t) :=
  ⟨rfl, rfl, h.qualified⟩

/-- Sources of one shape have scopes that are alike. -/
theorem Source.SameShape.scope {s t : Source} {options : Coercion} (h : s.SameShape options t) :
    s.scope.SameShape t.scope := by
  have hjoins : ∀ {is js : List JoinClause}, List.Forall₂ (JoinClause.SameShape options) is js →
      ∀ {u v : Scope}, u.SameShape v →
        (is.foldl (fun s j => s.join j.table) u).SameShape (js.foldl (fun s j => s.join j.table) v) := by
    intro is js hall
    induction hall with
    | nil => exact fun huv => huv
    | cons hfirst _ ih => exact fun huv => ih (huv.join hfirst.columns)
  exact hjoins h.joins (.single h.columns)

/-- Joins of one shape have tokens of the same kinds, each in the scope up to its own table. -/
theorem joins_agree {is js : List JoinClause} (h : List.Forall₂ (JoinClause.SameShape r.coercion) is js) {s t : Scope}
    (hscope : s.SameShape t) : Agree (List.map kinds) (r.joinTokens? s is) (r.joinTokens? t js) := by
  induction h generalizing s t with
  | nil => exact .some rfl
  | cons hfirst _ ih =>
    have hjoined := hscope.join hfirst.columns
    rw [Rendering.joinTokens?, Rendering.joinTokens?]
    refine (hjoined.writesAlike.agree_tokens _ _ hfirst.condition).bind fun ts us hts => ?_
    refine (ih hjoined).bind fun tss uss htss => .some ?_
    rw [hfirst.kind]
    simp [hts, htss, Token.kind]

theorem source_agree {s t : Source} (h : s.SameShape r.coercion t) :
    Agree (List.map kinds) (r.sourceTokens? s) (r.sourceTokens? t) := by
  refine (joins_agree h.joins (.single h.columns)).map fun tss uss htss => ?_
  simp [htss, Token.kind]

/-- The kinds of the tokens of all columns depend on how many there are. -/
theorem map_kinds_allColumnTokens (s : Scope) :
    s.allColumnTokens.map kinds = (s.tables.map (·.columns.length)).flatMap fun n =>
      List.replicate n (columnTokens (if s.qualified then some "" else none) "") := by
  have hcolumn : ∀ (t : Table) (c : Column), kinds (columnTokens (if s.qualified then some t.name else none) c.name) =
      columnTokens (if s.qualified then some "" else none) "" := by
    intro t c
    rw [Sql.kinds_columnTokens]
    cases s.qualified <;> rfl
  simp [Scope.allColumnTokens, List.map_flatMap, List.flatMap_map, Function.comp_def, hcolumn, List.map_const']

/-- What is returned has tokens of the same kinds, be it all columns or some expressions. -/
theorem projection_agree {s t : Selection} (h : s.SameShape r.coercion t) :
    Agree (List.map kinds) (r.projectionTokens? s) (r.projectionTokens? t) := by
  have hscope : s.scope.SameShape t.scope := h.source.scope
  have hprojection := h.projection
  unfold Rendering.projectionTokens?
  cases hs : s.projection with
  | all =>
    rw [hs] at hprojection
    cases ht : t.projection with
    | exprs columns => rw [ht] at hprojection; cases hprojection
    | all =>
      refine .some ?_
      rw [map_kinds_allColumnTokens, map_kinds_allColumnTokens, hscope.columns, hscope.qualified]
  | exprs columns =>
    rw [hs] at hprojection
    cases ht : t.projection with
    | all => rw [ht] at hprojection; cases hprojection
    | exprs columns' =>
      rw [ht] at hprojection
      have hcolumns := Projection.exprs.inj hprojection
      have heach := hscope.writesAlike.agree_tokensEach columns columns' hcolumns
      cases columns with
      | nil => exact nofun
      | cons x rest =>
        cases columns' with
        | nil => cases hcolumns
        | cons y rest' => exact Agree.mapM heach

/-- Conditions of one shape agree in scopes that are alike. -/
theorem condition_agree {s t : Scope} (hscope : s.SameShape t) {p q : Option Expr}
    (h : p.map (Expr.shape r.coercion) = q.map (Expr.shape r.coercion)) :
    Agree (List.map kinds) (r.conditionTokens? s p) (r.conditionTokens? t q) := by
  cases p with
  | none =>
    obtain rfl : q = none := by simpa using h.symm
    exact .some rfl
  | some p =>
    cases q with
    | none => cases h
    | some q =>
      refine (hscope.writesAlike.agree_tokens p q (Option.some.inj h)).map fun ts us hts => ?_
      simp [hts]

theorem keys_agree {s t : Scope} (hscope : s.SameShape t) {ks ls : List OrderKey}
    (h : ks.map (OrderKey.shape r.coercion) = ls.map (OrderKey.shape r.coercion)) :
    Agree (List.map kinds) (r.keyTokens? s ks) (r.keyTokens? t ls) := by
  induction ks generalizing ls with
  | nil =>
    obtain rfl : ls = [] := by simpa using h.symm
    exact .some rfl
  | cons k ks ih =>
    cases ls with
    | nil => cases h
    | cons l ls =>
      obtain ⟨hfirst, hothers⟩ := List.cons.inj h
      obtain ⟨hexpr, hdescending⟩ := OrderKey.mk.inj hfirst
      rw [Rendering.keyTokens?, Rendering.keyTokens?]
      refine (hscope.writesAlike.agree_tokens _ _ hexpr).bind fun ts us hts =>
        (ih hothers).bind fun tss uss htss => .some ?_
      rw [hdescending]
      simp [hts, htss]

/-- Queries of one shape have clauses of the same kinds. -/
theorem query_agree {q p : Query} (h : q.SameShape r.coercion p) :
    Agree (List.map kinds) (q.clauseTokens? r) (p.clauseTokens? r) := by
  have hscope : q.selection.scope.SameShape p.selection.scope := h.selection.source.scope
  refine (projection_agree h.selection).bind fun columns columns' hcolumns => ?_
  refine (source_agree h.selection.source).bind fun source source' hsource => ?_
  refine (condition_agree hscope h.predicate).bind fun condition condition' hcondition => ?_
  refine (keys_agree hscope h.keys).bind fun order order' horder => .some ?_
  have horders :
      (if order.isEmpty then [] else [Keyword.token .order :: Keyword.token .by :: commaTokens order]).map kinds =
        (if order'.isEmpty then [] else [Keyword.token .order :: Keyword.token .by :: commaTokens order']).map
          kinds := by
    have hempty : order.isEmpty = order'.isEmpty := by simpa using congrArg List.isEmpty horder
    rw [hempty]
    split
    · rfl
    · simp [horder]
  rw [h.selection.distinct, h.limit, h.offset]
  simp only [List.map_append, hsource, hcondition, horders]
  simp [hcolumns]

theorem count_agree {s t : Selection} (h : s.SameShape r.coercion t) {p q : Option Expr}
    (hpq : p.map (Expr.shape r.coercion) = q.map (Expr.shape r.coercion)) :
    Agree kinds (s.countTokens? p r) (t.countTokens? q r) := by
  unfold Selection.countTokens?
  rw [h.distinct]
  split
  · have hquery : Query.SameShape r.coercion { selection := s, predicate := p } { selection := t, predicate := q } :=
      ⟨h, hpq, rfl, rfl, rfl⟩
    refine (query_agree hquery).bind fun tss uss htss => .some ?_
    simp [htss]
  · refine (source_agree h.source).bind fun source source' hsource => ?_
    refine (condition_agree h.source.scope hpq).bind fun condition condition' hcondition => .some ?_
    rw [Sql.kinds_flatten, Sql.kinds_flatten]
    simp only [List.map_append, hsource, hcondition]

/-- So have deletions; both are on one table or neither is. -/
theorem delete_agree {f g : Filter} (h : f.SameShape r.coercion g) :
    Agree kinds (f.deleteTokens? r) (g.deleteTokens? r) := by
  have hscope : f.selection.scope.SameShape g.selection.scope := h.selection.source.scope
  have halike : (r.compiler f.selection.scope).WritesAlike (r.compiler g.selection.scope) := hscope.writesAlike
  have hcolumns := hscope.columns
  unfold Filter.deleteTokens?
  generalize f.selection.scope.tables = us at hcolumns
  generalize g.selection.scope.tables = vs at hcolumns
  rcases us with _ | ⟨u, _ | ⟨u', us⟩⟩
  · intro ts h
    cases h
  · obtain ⟨v, rfl⟩ : ∃ v, vs = [v] := List.length_eq_one_iff.1 (by simpa using (congrArg List.length hcolumns).symm)
    refine (halike.agree_tokens _ _ h.predicate).map fun ts us hts => ?_
    simp [hts, Token.kind]
  · intro ts h
    cases h

/-- Chains of one shape have tokens of the same kinds. -/
theorem Clause.SameShape.agree_tokens {k l : Clause} (h : k.SameShape r.coercion l) (p : Clause.Purpose) :
    Agree kinds (k.tokens? r p) (l.tokens? r p) := by
  have hrows : ∀ {q q' : Query}, q.SameShape r.coercion q' →
      Agree kinds ((q.clauseTokens? r).map List.flatten) ((q'.clauseTokens? r).map List.flatten) := by
    intro q q' hq
    exact (query_agree hq).map fun tss uss htss => by rw [Sql.kinds_flatten, Sql.kinds_flatten, htss]
  cases p with
  | rows =>
    cases h with
    | source h => exact nofun
    | selection h => exact hrows ⟨h, rfl, rfl, rfl, rfl⟩
    | filter h => exact hrows ⟨h.selection, congrArg some h.predicate, rfl, rfl, rfl⟩
    | ordered h => exact hrows h
    | limited h => exact hrows h
    | paged h => exact hrows h
  | count =>
    cases h with
    | selection h => exact count_agree h rfl
    | filter h => exact count_agree h.selection (congrArg some h.predicate)
    | _ => exact nofun
  | deletion =>
    cases h with
    | filter h => exact delete_agree h
    | _ => exact nofun

end Kinds

/-! ## Contents stay in their tokens -/

/-- No name and no value leaves its token. The tokens of an expression and those of a chain, which are said without
any text, are the tokens that its text falls into, if it has a text at all; for what is sent of a text the same
holds, where the text has no character at which sending ends. Wherever a constant or a membership stands, the scalar
is read back from its tokens, and each member of the list from its own; so are the names of columns, parameters and
tables. And with other names, texts and blobs the tokens are of the same kinds. -/
theorem contents_stay_in_tokens :
    (∀ (c : Compiler) (x : Expr), c.tokens? x = (c.compile x).toOption.map fun b => tokensFrom b.sql.text.toList) ∧
    (∀ (k : Clause) (r : Rendering) (p : Clause.Purpose),
      k.tokens? r p = (k.render? r p).bind fun s => s.toOption.map fun s => tokensFrom s.text.toList) ∧
    (∀ text : String, (∀ ch ∈ text.toList, ch.toNat ≠ 0) → Sql.lex text = tokensFrom text.toList) ∧
    (∀ c : Compiler, c.Decodes) ∧
    (∀ (name : String) (rest : List Token),
      tokensFrom (quoteIdentifier name).toList = [.quoted name] ∧
        Sql.readName (.quoted name :: rest) = .ok (name, rest)) ∧
    (∀ c d : Compiler, c.WritesAlike d → ∀ x y : Expr, x.shape c.coercion = y.shape c.coercion →
      Agree kinds (c.tokens? x) (d.tokens? y)) ∧
    (∀ (r : Rendering) (k l : Clause), k.SameShape r.coercion l →
      ∀ p, Agree kinds (k.tokens? r p) (l.tokens? r p)) := by
  refine ⟨?_, ?_, ?_, ?_, ?_, ?_, ?_⟩
  · exact fun c x => c.tokens?_eq x
  · exact fun k r p => k.tokens?_eq r p
  · exact fun text htext => Sql.lex_eq_tokensFrom htext
  · exact fun c => c.decodes
  · exact fun name rest => ⟨(Lexed.identifier name).tokensFrom_eq, rfl⟩
  · exact fun c d h x y hxy => h.agree_tokens x y hxy
  · exact fun r k l h p => h.agree_tokens p

/-- Names, texts and blobs with quotation marks and more in them are one token each, in a query on a table of such a
name. The members of the list are read back. -/
theorem contents_stay_in_tokens_quotes :
    let t : Table := ⟨"x\"; --", [{ name := "a\" ?", property := "a", kind := .text }], by decide +kernel⟩
    let a := Expr.ofColumn "a"
    let values := [Scalar.text "it's", .null, .bytes [0x27, 0x00]]
    let k : Clause := .filter
      ((Source.ofTable t).selectAll.where
        ((a.eq (.constant (.text "' OR ':p'='\n"))).or (.method "Contains" (.list values) [a])))
    let set := [.string "it's", .symbol .comma, Keyword.token .null, .symbol .comma, .blob [0x27, 0x00]]
    (∃ s, k.render? {} .rows = some (.ok s) ∧ tokensFrom s.text.toList =
      [Keyword.token .select, .quoted "a\" ?", Keyword.token .from, .quoted "x\"; --", Keyword.token .where,
        .symbol .open, .symbol .open, .quoted "a\" ?", .symbol .eq, .string "' OR ':p'='\n", .symbol .close,
        Keyword.token .or, .symbol .open, .quoted "a\" ?", Keyword.token .in, .symbol .open] ++ set ++
        [.symbol .close, .symbol .close, .symbol .close]) ∧
    ∃ ks, Sql.readSet (set ++ [.symbol .close]) = .ok (ks, []) ∧
      List.Forall₂ (Compiler.ReadsAs ⟨.single t, .inline, {}⟩) values ks := by
  intro t a values k set
  have htokens := contents_stay_in_tokens.2.1 k {} .rows
  have hdecodes := contents_stay_in_tokens.2.2.2.1 ⟨.single t, .inline, {}⟩
  refine ⟨⟨_, rfl, (Option.some.inj htokens).symm⟩, ?_⟩
  obtain ⟨us, set', hitem, htokens, hread⟩ := hdecodes.list values a (.method "Contains" (.list values) [a])
    (parenTokens (.quoted "a\" ?" :: Keyword.token .in :: parenTokens set)) (by simp) rfl
  obtain rfl : [.quoted "a\" ?"] = us := Option.some.inj hitem
  obtain rfl : set = set' := by simpa [parenTokens] using htokens
  exact hread []

end SqlMapper
