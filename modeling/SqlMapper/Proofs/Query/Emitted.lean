import SqlMapper.Proofs.Query.Steps
import SqlMapper.Proofs.Query.Tokens

/-!
# Emitted statements

The statements that chains are rendered to, in either style: queries, counts and deletions whose terms are all
emitted terms (`Clause.statement?_emitted`). The limit and the offset of a query that was built step by step are
integers of 64 bits, and there is no offset without a limit (`Clause.isPaged_of_ofChain`).
-/

namespace SqlMapper

namespace Sql

/-- A term that was emitted. -/
def Term.IsEmitted (t : Term) : Prop := ∃ m : Emitted, t = m.written

/-- A source on conditions that were emitted. -/
def Source.IsEmitted (s : Source) : Prop := ∀ j ∈ s.joins, j.condition.IsEmitted

/-- A query of emitted terms: it returns at least one, and stands on tables. -/
structure Select.IsEmitted (q : Select) : Prop where
  columns : ∃ terms, terms ≠ [] ∧ (∀ t ∈ terms, t.IsEmitted) ∧ q.columns = terms.map fun t => .term t none
  source : ∃ s, q.source = some s ∧ s.IsEmitted
  condition : ∀ t ∈ q.condition, t.IsEmitted
  order : ∀ k ∈ q.order, k.term.IsEmitted

/-- A statement of emitted terms. -/
inductive Statement.IsEmitted : Statement → Prop where
  | select {q : Select} (h : q.IsEmitted) : IsEmitted (.select q)
  | countOf {q : Select} (h : q.IsEmitted) : IsEmitted (.countOf q)
  | countRows {s : Source} {condition : Option Term} (hs : s.IsEmitted) (hc : ∀ t ∈ condition, t.IsEmitted) :
    IsEmitted (.countRows s condition)
  | delete (table : String) {t : Term} (h : t.IsEmitted) : IsEmitted (.delete table (some t))

/-- A limit and an offset that can be read: integers of 64 bits, and no offset without a limit. -/
structure IsPage (limit offset : Option Int) : Prop where
  limited : offset.isSome = true → limit.isSome = true
  limit : ∀ n ∈ limit, fitsInt64 n = true
  offset : ∀ n ∈ offset, fitsInt64 n = true

theorem IsPage.none : IsPage none none := ⟨by simp, by simp, by simp⟩

/-- A statement whose query, if it is one or counts one, has a page that can be read. -/
inductive Statement.IsPaged : Statement → Prop where
  | select {q : Select} (h : IsPage q.limit q.offset) : IsPaged (.select q)
  | countOf {q : Select} (h : IsPage q.limit q.offset) : IsPaged (.countOf q)
  | countRows (s : Source) (condition : Option Term) : IsPaged (.countRows s condition)
  | delete (table : String) (condition : Option Term) : IsPaged (.delete table condition)

end Sql

/-! ## Clauses -/

section Clauses

variable {r : Rendering}

/-- A term that an expression is compiled to. -/
theorem compile_isEmitted {c : Compiler} {x : Expr} {b : Bound Sql.Term} (h : c.compile x = .ok b) :
    b.sql.IsEmitted := by
  obtain ⟨m, hm⟩ := Emitted.compile_emits x b h
  exact ⟨m, hm.written⟩

/-- The conditions of compiled joins are emitted terms. -/
theorem joins_isEmitted {joins : List JoinClause} {scope : Scope} {b : Bound (List Sql.Join)}
    (h : r.joins scope joins = .ok b) :
    ∀ j ∈ b.sql, j.condition.IsEmitted := by
  induction joins generalizing scope b with
  | nil =>
    obtain rfl := Except.ok.inj h
    simp
  | cons j rest ih =>
    rw [Rendering.joins] at h
    obtain ⟨on, hon, h⟩ := bind_eq_ok h
    obtain ⟨others, hothers, h⟩ := bind_eq_ok h
    obtain rfl := Except.ok.inj h
    exact List.forall_mem_cons.2 ⟨compile_isEmitted hon, ih hothers⟩

theorem source_isEmitted {s : Source} {b : Bound Sql.Source} (h : r.source s = .ok b) : b.sql.IsEmitted := by
  obtain ⟨js, hjs, h⟩ := bind_eq_ok h
  obtain rfl := Except.ok.inj h
  exact joins_isEmitted hjs

/-- A compiled projection returns something, and emitted terms only. -/
theorem projection_isEmitted {s : Selection} {b : Bound (List Sql.Term)} (h : r.projection s = .ok b) :
    b.sql ≠ [] ∧ ∀ t ∈ b.sql, t.IsEmitted := by
  unfold Rendering.projection at h
  split at h
  · obtain rfl := Except.ok.inj h
    refine ⟨allColumns_ne_nil s.source, fun t ht => ?_⟩
    obtain ⟨table, -, ht⟩ := List.mem_flatMap.1 ht
    obtain ⟨c, -, rfl⟩ := List.mem_map.1 ht
    exact ⟨.column _ _, rfl⟩
  · cases h
  · rename_i columns hne _
    obtain ⟨ms, hms⟩ := Emitted.collect_emits (fun x _ b hb => Emitted.compile_emits x b hb) h
    refine ⟨?_, fun t ht => ?_⟩
    · obtain ⟨x, rest, rfl⟩ := List.exists_cons_of_ne_nil hne
      have hlength := congrArg List.length hms.isNot
      rw [hms.written]
      intro hnil
      rw [List.map_eq_nil_iff.1 hnil] at hlength
      simp at hlength
    · rw [hms.written] at ht
      obtain ⟨m, -, rfl⟩ := List.mem_map.1 ht
      exact ⟨m, rfl⟩

/-- A compiled condition, if there is one, is an emitted term. -/
theorem predicate_isEmitted {scope : Scope} {predicate : Option Expr} {b : Bound (Option Sql.Term)}
    (h : r.predicate scope predicate = .ok b) : ∀ t ∈ b.sql, t.IsEmitted := by
  cases predicate with
  | none =>
    obtain rfl := Except.ok.inj h
    simp [Bound.pure]
  | some p =>
    obtain ⟨t, ht, h⟩ := bind_eq_ok h
    obtain rfl := Except.ok.inj h
    intro u hu
    obtain rfl : t.sql = u := Option.some.inj hu
    exact compile_isEmitted ht

/-- A key of a statement is made of a key of the chain. -/
structure OrderKey.CompiledTo (c : Compiler) (key : OrderKey) (k : Sql.SortKey) : Prop where
  term : ∃ b, c.compile key.expr = .ok b ∧ k.term = b.sql
  number : k.number = none

/-- Keys are compiled one by one, each to a term of its own and with its direction. -/
theorem keys_compiledTo {scope : Scope} {keys : List OrderKey} {b : Bound (List Sql.SortKey)}
    (h : r.keys scope keys = .ok b) :
    List.Forall₂ (OrderKey.CompiledTo (r.compiler scope)) keys b.sql := by
  induction keys generalizing b with
  | nil =>
    obtain rfl := Except.ok.inj h
    exact .nil
  | cons k rest ih =>
    rw [Rendering.keys] at h
    obtain ⟨first, hfirst, h⟩ := bind_eq_ok h
    obtain ⟨others, hothers, h⟩ := bind_eq_ok h
    obtain rfl := Except.ok.inj h
    exact .cons ⟨⟨first, hfirst, rfl⟩, rfl⟩ (ih hothers)

/-- What a query is compiled to. -/
structure Query.CompiledTo (q : Query) (r : Rendering) (select : Sql.Select) : Prop where
  emitted : select.IsEmitted
  keys : List.Forall₂ (OrderKey.CompiledTo (r.compiler q.selection.scope)) q.keys select.order
  limit : select.limit = q.limit
  offset : select.offset = q.offset

/-- A query is compiled clause by clause, with its limit and its offset as they are. -/
theorem query_compiledTo {q : Query} {b : Bound Sql.Select} (h : q.compile r = .ok b) : q.CompiledTo r b.sql := by
  obtain ⟨columns, hcolumns, h⟩ := bind_eq_ok h
  obtain ⟨source, hsource, h⟩ := bind_eq_ok h
  obtain ⟨condition, hcondition, h⟩ := bind_eq_ok h
  obtain ⟨order, horder, h⟩ := bind_eq_ok h
  obtain rfl := Except.ok.inj h
  have hkeys := keys_compiledTo horder
  obtain ⟨hne, hterms⟩ := projection_isEmitted hcolumns
  refine ⟨⟨⟨_, hne, hterms, rfl⟩, ⟨_, rfl, source_isEmitted hsource⟩, predicate_isEmitted hcondition, fun k hk => ?_⟩,
    hkeys, rfl, rfl⟩
  obtain ⟨key, -, hkey⟩ := exists_of_forall₂ hkeys hk
  obtain ⟨t, ht, hterm⟩ := hkey.term
  rw [hterm]
  exact compile_isEmitted ht

/-- A compiled count consists of emitted terms and has a page that can be written. -/
theorem count_isEmitted {s : Selection} {predicate : Option Expr} {b : Bound Sql.Statement}
    (h : s.countWhere predicate r = .ok b) :
    b.sql.IsEmitted ∧ b.sql.IsPaged := by
  unfold Selection.countWhere at h
  split at h
  · obtain ⟨q, hq, h⟩ := bind_eq_ok h
    obtain rfl := Except.ok.inj h
    have hcompiled := query_compiledTo hq
    refine ⟨.countOf hcompiled.emitted, .countOf ?_⟩
    rw [hcompiled.limit, hcompiled.offset]
    exact .none
  · obtain ⟨source, hsource, h⟩ := bind_eq_ok h
    obtain ⟨condition, hcondition, h⟩ := bind_eq_ok h
    obtain rfl := Except.ok.inj h
    exact ⟨.countRows (source_isEmitted hsource) (predicate_isEmitted hcondition), .countRows _ _⟩

theorem delete_isEmitted {f : Filter} {b : Bound Sql.Statement} (h : f.deleteStatement r = .ok b) :
    b.sql.IsEmitted ∧ b.sql.IsPaged := by
  unfold Filter.deleteStatement at h
  split at h
  · obtain ⟨condition, hcondition, h⟩ := bind_eq_ok h
    obtain rfl := Except.ok.inj h
    exact ⟨.delete _ (compile_isEmitted hcondition), .delete _ _⟩
  · cases h

end Clauses

/-! ## Chains -/

/-- A count that was cut to 64 bits fits them. -/
theorem fitsInt64_clampCount (n : Nat) : fitsInt64 (clampCount n) = true := by
  unfold clampCount fitsInt64
  split
  · simp
    omega
  · rfl

namespace Query

variable {q : Query}

/-- A query with a page that can be read. -/
def IsPaged (q : Query) : Prop := Sql.IsPage q.limit q.offset

/-- Taking rows keeps the numbers of a page in range. -/
theorem IsPaged.take (h : q.IsPaged) (n : Nat) : (q.take n).IsPaged where
  limit := by simp [Query.take, fitsInt64_clampCount]
  offset := h.offset
  limited _ := rfl

/-- An offset alone comes with the limit that is none. -/
theorem IsPaged.skip (h : q.IsPaged) (n : Nat) : (q.skip n).IsPaged where
  limit := by
    intro m hm
    obtain rfl : q.limit.getD unbounded = m := Option.some.inj hm
    cases hlimit : q.limit with
    | none => rfl
    | some l => exact h.limit l hlimit
  offset := by simp [Query.skip, fitsInt64_clampCount]
  limited _ := rfl

end Query

namespace Clause

/-- Whatever the chain stands for has a page that can be read. -/
def IsPaged (k : Clause) : Prop := ∀ q, k.query? = some q → q.IsPaged

/-- The query of a chain that has no page yet has its numbers in range if the chain has. -/
theorem IsPaged.unpaged {k : Clause} (h : k.IsPaged) {q : Query} (hq : k.unpaged? = some q) : q.IsPaged := by
  cases k with
  | selection s => exact h q hq
  | filter f => exact h q hq
  | ordered p => exact h q hq
  | _ => cases hq

/-- A step keeps the page readable. -/
theorem IsPaged.step {k l : Clause} (h : k.IsPaged) {s : ChainStep} (hs : k.StepsTo s l) : l.IsPaged := by
  have hquery : ∀ {l : Clause} {q : Query}, l.query? = some q → q.IsPaged → l.IsPaged := by
    intro l q hq hpaged p hp
    obtain rfl := Option.some.inj (hq.symm.trans hp)
    exact hpaged
  cases hs with
  | join s kind t condition => exact fun q hq => by cases hq
  | selectAll s => exact hquery rfl .none
  | select s distinct columns => exact hquery rfl .none
  | whereFirst s p => exact hquery rfl .none
  | whereMore f p => exact hquery rfl .none
  | orderSelection s x descending => exact hquery rfl .none
  | orderFilter f x descending => exact hquery rfl .none
  | thenBy q x descending => exact hquery rfl (h q rfl)
  | take hq n => exact hquery rfl ((h.unpaged hq).take n)
  | takePaged q n => exact hquery rfl ((h q rfl).take n)
  | skip hq n => exact hquery rfl ((h.unpaged hq).skip n)
  | skipLimited q n => exact hquery rfl ((h q rfl).skip n)
  | elementAt hq n => exact hquery rfl (((h.unpaged hq).skip n).take 1)

/-- A chain has a page that can be read, from its first table on. -/
theorem isPaged_of_ofChain {steps : List ChainStep} {k : Clause} (h : Clause.ofChain steps = some k) : k.IsPaged :=
  ofChain_induction (fun _ _ hq => by cases hq) (fun h hs => h.step hs) h

variable {k : Clause} {r : Rendering} {p : Purpose} {b : Bound Sql.Statement}

/-- What a chain is rendered to is a statement of emitted terms, and its page can be read if that of the chain can. -/
theorem statement?_emitted (h : k.statement? r p = some (.ok b)) : b.sql.IsEmitted ∧ (k.IsPaged → b.sql.IsPaged) := by
  cases p with
  | rows =>
    unfold statement? at h
    obtain ⟨q, hq, h⟩ := Option.map_eq_some_iff.1 h
    obtain ⟨select, hselect, h⟩ := bind_eq_ok h
    obtain rfl := Except.ok.inj h
    have hcompiled := query_compiledTo hselect
    refine ⟨.select hcompiled.emitted, fun hpaged => .select ?_⟩
    rw [hcompiled.limit, hcompiled.offset]
    exact hpaged q hq
  | count =>
    cases k with
    | selection s => exact (count_isEmitted (Option.some.inj h)).imp id fun hp _ => hp
    | filter f => exact (count_isEmitted (Option.some.inj h)).imp id fun hp _ => hp
    | _ => cases h
  | deletion =>
    cases k with
    | filter f => exact (delete_isEmitted (Option.some.inj h)).imp id fun hp _ => hp
    | _ => cases h

end Clause

end SqlMapper
