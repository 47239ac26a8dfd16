import SqlMapper.Proofs.Query.OneTable
import SqlMapper.Proofs.Query.Scopes

/-!
# References along a chain

What a column that has been compiled in a clause of a chain means in the statement. Its text tells the name of its
table, where columns are written with their table, and its own (`Scope.text_term_eq_iff`), but not the position of
the table in the chain. So it names one column if and only if no other table in scope has the name of its table and
a column of its name (`Scope.Occurs.namesOne_iff`); a reference with a table is resolved to the first table of that
name, whatever comes after it. The engine looks for the column in the tables one after another
(`Frame.positions_append`) and finds as many as there are tables of that name in the chain, in any case
(`find_frame`).
-/

namespace SqlMapper

/-! ## The text of a column -/

/-- The text of a column tells its table, if it is written with one, and its name. -/
theorem columnText_injective {table table' : Option String} {name name' : String}
    (h : Sql.columnText table name = Sql.columnText table' name') : table = table' ∧ name = name' := by
  have htokens : Sql.columnTokens table name = Sql.columnTokens table' name' := by
    rw [← (Sql.Lexed.column table name).tokensFrom_eq, h, (Sql.Lexed.column table' name').tokensFrom_eq]
  cases table <;> cases table' <;> simp_all [Sql.columnTokens]

/-- Two columns have one text in a scope if and only if they have one name and, where columns are written with their
table, so have their tables. -/
theorem Scope.text_term_eq_iff (s : Scope) {t u : Table} {c d : Column} :
    (s.term u d).text = (s.term t c).text ↔ (s.qualified = true → u.name = t.name) ∧ d.name = c.name := by
  constructor
  · intro h
    obtain ⟨htable, hname⟩ := columnText_injective h
    refine ⟨fun hqualified => ?_, hname⟩
    rw [if_pos hqualified, if_pos hqualified] at htable
    exact Option.some.inj htable
  · rintro ⟨htable, hname⟩
    unfold Scope.term
    cases hqualified : s.qualified with
    | false => rw [hname]; rfl
    | true => rw [hname, htable hqualified]

/-! ## Occurrences of columns -/

/-- A column occurs in a scope: it is one of the table at a position. -/
structure Scope.Occurs (s : Scope) (i : Nat) (t : Table) (c : Column) : Prop where
  table : s.tables[i]? = some t
  column : c ∈ t.columns

/-- A text names one column in a scope: of all columns of all positions one has it as its text. -/
def Scope.NamesOne (s : Scope) (text : String) : Prop :=
  ∃ i t c, s.Occurs i t c ∧ (s.term t c).text = text ∧
    ∀ j u d, s.Occurs j u d → (s.term u d).text = text → j = i ∧ d = c

namespace Scope

variable {s : Scope} {i : Nat} {t : Table} {c : Column}

/-- A reference that is resolved means a column that occurs. -/
theorem exists_occurs {ref : ColumnRef} (h : s.resolve ref = .ok (t, c)) : ∃ i, s.Occurs i t c := by
  obtain ⟨ht, hc⟩ := mem_of_resolve h
  obtain ⟨i, hi⟩ := List.getElem?_of_mem ht
  exact ⟨i, hi, hc⟩

/-- What is written for a column names it alone if and only if no other table of the name of its table has a column
of its name; where columns are written without their table, there has to be one table only. -/
theorem Occurs.namesOne_iff (h : s.Occurs i t c) (hsingle : s.qualified = false → s.tables = [t]) :
    s.NamesOne (s.term t c).text ↔ ∀ u ∈ s.tables.eraseIdx i, u.name = t.name → ∀ d ∈ u.columns, d.name ≠ c.name := by
  constructor
  · rintro ⟨i', t', c', h', htext, honly⟩ u hu hname d hd hd'
    obtain ⟨j, hj, hu⟩ := List.mem_eraseIdx_iff_getElem?.1 hu
    obtain ⟨rfl, -⟩ := honly i t c h rfl
    exact hj (honly j u d ⟨hu, hd⟩ (s.text_term_eq_iff.2 ⟨fun _ => hname, hd'⟩)).1
  · intro hother
    refine ⟨i, t, c, h, rfl, fun j u d hj htext => ?_⟩
    obtain ⟨htable, hname⟩ := s.text_term_eq_iff.1 htext
    have hji : j = i := by
      by_contra hne
      cases hqualified : s.qualified with
      | true =>
        have hu := List.mem_eraseIdx_iff_getElem?.2 ⟨j, hne, hj.table⟩
        exact hother u hu (htable hqualified) d hj.column hname
      | false =>
        have htables := hsingle hqualified
        have hi' := (List.getElem?_eq_some_iff.1 h.table).1
        have hj' := (List.getElem?_eq_some_iff.1 hj.table).1
        rw [htables, List.length_singleton] at hi' hj'
        omega
    subst hji
    obtain rfl := Option.some.inj (h.table.symm.trans hj.table)
    exact ⟨rfl, Table.HasColumn.unique ⟨hj.column, .inl rfl⟩ ⟨h.column, .inl hname.symm⟩⟩

end Scope

/-! ## The clauses of a chain -/

/-- A clause of a chain is compiled in a scope: that of the condition of a join, or that of all its tables. -/
def Clause.HasScope (k : Clause) (s : Scope) : Prop := s = k.scope ∨ ∃ i < k.underlying.joins.length,
  s = k.underlying.onScope i

section HasScope

variable {k : Clause} {s : Scope}

/-- The tables in scope of a clause are the first tables of the chain. -/
theorem Clause.HasScope.tables_prefix (h : k.HasScope s) : s.tables <+: k.scope.tables := by
  rcases h with rfl | ⟨i, -, rfl⟩
  · exact List.prefix_rfl
  · rw [scope_eq_underlying, Source.scope_eq]
    exact List.cons_prefix_cons.2 ⟨rfl, (List.take_prefix _ _).map _⟩

/-- Columns are written without their table only where there is no other. -/
theorem Clause.HasScope.single (h : k.HasScope s) (hqualified : s.qualified = false) : s = k.scope ∧
    ∃ t, k.scope.tables = [t] := by
  rcases h with rfl | ⟨i, -, rfl⟩
  · refine ⟨rfl, k.underlying.table, ?_⟩
    rw [scope_eq_underlying, Source.scope_eq] at hqualified ⊢
    have hjoins : k.underlying.joins = [] := by simpa using hqualified
    rw [hjoins, List.map_nil]
  · cases hqualified

end HasScope

/-! ## Frames of several tables -/

/-- The positions of a column in two frames, one after the other. -/
theorem Frame.positions_append (f g : Frame) (table : Option String) (name : String) :
    Frame.positions (f ++ g) table name = f.positions table name ++ (g.positions table name).map (f.length + ·) := by
  unfold Frame.positions
  rw [List.zipIdx_append, List.filter_append, List.map_append, List.zipIdx_eq_map_add (l := g) (i := 0 + f.length),
    List.filter_map]
  simp [Function.comp_def]

/-- A position among others is found if there are no others. -/
theorem Frame.find_of_positions {f : Frame} {table : Option String} {name : String} {before after : List Nat} {i : Nat}
    (h : f.positions table name = before ++ i :: after) :
    f.find table name = if before = [] ∧ after = [] then .at i else .ambiguous := by
  unfold Frame.find
  rw [h]
  rcases before with - | ⟨j, - | ⟨k, rest⟩⟩ <;> cases after <;> rfl

theorem Frame.find_eq_at_iff {f : Frame} {table : Option String} {name : String} {i : Nat} :
    f.find table name = .at i ↔ f.positions table name = [i] := by
  unfold Frame.find
  split <;> simp_all

/-- The columns of tables as they are stored, one table after another. -/
def Tables.frame (ts : Tables) (tables : List Table) : Frame :=
  tables.flatMap fun t => ((ts.find t.name).toOption.map StoredTable.frame).getD []

/-- A table is there: it is found under its name, and each of its columns means one column of it. -/
structure Table.LiesIn (t : Table) (ts : Tables) : Prop where
  found : ∃ stored, ts.find t.name = .ok stored
  columns : ∀ c ∈ t.columns, ∃ p, (ts.frame [t]).find none c.name = .at p

namespace Tables

variable {ts : Tables}

@[simp] theorem frame_nil (ts : Tables) : ts.frame [] = [] := rfl

theorem frame_append (ts : Tables) (before after : List Table) :
    ts.frame (before ++ after) = ts.frame before ++ ts.frame after :=
  List.flatMap_append

theorem frame_cons (ts : Tables) (t : Table) (rest : List Table) :
    ts.frame (t :: rest) = ts.frame [t] ++ ts.frame rest :=
  ts.frame_append [t] rest

theorem frame_singleton {t : Table} {stored : StoredTable} (h : ts.find t.name = .ok stored) :
    ts.frame [t] = stored.frame := by
  simp [frame, h, Except.toOption]

/-- With the name of a table a column is looked for in the tables of that name only, in any case. -/
theorem positions_frame_singleton {t u : Table} (hu : u.LiesIn ts) (name : String) :
    (ts.frame [u]).positions (some t.name) name =
      if Sql.sameWord u.name t.name then (ts.frame [t]).positions none name else [] := by
  obtain ⟨stored, hstored⟩ := hu.found
  have hname : Sql.sameWord stored.name u.name = true :=
    List.find?_some (p := fun v : StoredTable => Sql.sameWord v.name u.name) (find_ok hstored)
  have hanswers : ∀ p ∈ stored.frame.zipIdx,
      p.1.answersTo (some t.name) name = (p.1.answersTo none name && Sql.sameWord u.name t.name) := by
    intro p hp
    obtain ⟨column, -, hcolumn⟩ := List.mem_map.1 (List.fst_mem_of_mem_zipIdx hp)
    simp [Slot.answersTo, ← hcolumn, Sql.sameWord_congr hname]
  rw [frame_singleton hstored]
  unfold Frame.positions
  rw [List.filter_congr hanswers]
  cases hsame : Sql.sameWord u.name t.name with
  | false => simp
  | true => simp [frame_singleton (find_of_sameWord hstored hsame)]

/-- Nothing is found in tables of other names. -/
theorem positions_frame_eq_nil_iff {t : Table} {c : Column} (ht : t.LiesIn ts) (hc : c ∈ t.columns)
    (tables : List Table) (htables : ∀ u ∈ tables, u.LiesIn ts) :
    (ts.frame tables).positions (some t.name) c.name = [] ↔ ∀ u ∈ tables, Sql.sameWord u.name t.name = false := by
  induction tables with
  | nil => simp [Frame.positions]
  | cons u rest ih =>
    obtain ⟨hu, hrest⟩ := List.forall_mem_cons.1 htables
    obtain ⟨p, hp⟩ := ht.columns c hc
    rw [frame_cons, Frame.positions_append, List.append_eq_nil_iff, List.map_eq_nil_iff, ih hrest, List.forall_mem_cons,
      positions_frame_singleton hu, Frame.find_eq_at_iff.1 hp]
    cases Sql.sameWord u.name t.name <;> simp

end Tables

/-- A table that is stored as it was created is there. -/
theorem Table.StoredAs.liesIn {t : Table} {ts : Tables} {stored : StoredTable} (h : t.StoredAs ts stored) :
    t.LiesIn ts where
  found := ⟨stored, h.found⟩
  columns c hc := by
    obtain ⟨i, hi⟩ := List.getElem?_of_mem hc
    exact ⟨i, by rw [Tables.frame_singleton h.found, h.find_column hi]⟩

/-- The tables of a source that has been compiled are those that it was compiled from. -/
theorem names_source {r : Rendering} {s : Source} {b : Bound Sql.Source} (h : r.source s = .ok b) :
    b.sql.table = s.table.name ∧ b.sql.joins.map Sql.Join.table = s.joins.map fun j => j.table.name := by
  have hjoins : ∀ (joins : List JoinClause) (scope : Scope) (b : Bound (List Sql.Join)), r.joins scope joins = .ok b →
      b.sql.map Sql.Join.table = joins.map fun j => j.table.name := by
    intro joins
    induction joins with
    | nil =>
      intro scope b h
      obtain rfl := Except.ok.inj h
      rfl
    | cons j rest ih =>
      intro scope b h
      obtain ⟨on, -, h⟩ := bind_eq_ok h
      obtain ⟨others, hothers, h⟩ := bind_eq_ok h
      obtain rfl := Except.ok.inj h
      exact congrArg (j.table.name :: ·) (ih _ _ hothers)
  obtain ⟨joins, hb, h⟩ := bind_eq_ok h
  obtain rfl := Except.ok.inj h
  exact ⟨rfl, hjoins _ _ _ hb⟩

/-- Tables are found one by one, and the frame of their joins is that of them all. -/
theorem exists_joined {ts : Tables} {joins : List Sql.Join} {tables : List Table}
    (hnames : joins.map Sql.Join.table = tables.map Table.name)
    (hfound : ∀ u ∈ tables, ∃ stored, ts.find u.name = .ok stored) :
    ∃ joined, (joins.mapM fun j => do return (j, ← ts.find j.table)) = Except.ok (ε := EngineError) joined ∧
      ∀ first : Relation, (joined.foldl (fun r j => r.join j.1.kind j.2.relation j.1.condition) first).frame =
        first.frame ++ ts.frame tables := by
  induction joins generalizing tables with
  | nil =>
    obtain rfl := List.map_eq_nil_iff.1 hnames.symm
    exact ⟨[], rfl, fun first => (List.append_nil _).symm⟩
  | cons j rest ih =>
    cases tables with
    | nil => cases hnames
    | cons u others =>
      obtain ⟨hname, hnames⟩ := List.cons.inj hnames
      obtain ⟨⟨stored, hstored⟩, hfound⟩ := List.forall_mem_cons.1 hfound
      obtain ⟨joined, hjoined, hframe⟩ := ih hnames hfound
      refine ⟨(j, stored) :: joined, ?_, fun first => ?_⟩
      · rw [List.mapM_cons, hjoined, hname, hstored]
        rfl
      · rw [List.foldl_cons, hframe, Tables.frame_cons, Tables.frame_singleton hstored, ← List.append_assoc]
        rfl

/-- The frame of a source is that of its tables, if they are all there. -/
theorem relation_frame {ts : Tables} {r : Rendering} {s : Source} {b : Bound Sql.Source} (h : r.source s = .ok b)
    (hfound : ∀ u ∈ s.scope.tables, ∃ stored, ts.find u.name = .ok stored) :
    ∃ rel, Sql.Source.relation ts (some b.sql) = .ok rel ∧ rel.frame = ts.frame s.scope.tables := by
  obtain ⟨htable, hjoins⟩ := names_source h
  rw [Source.scope_eq] at hfound ⊢
  obtain ⟨⟨first, hfirst⟩, hfound⟩ := List.forall_mem_cons.1 hfound
  have hnames : b.sql.joins.map Sql.Join.table = (s.joins.map JoinClause.table).map Table.name := by
    rw [hjoins, List.map_map]
    rfl
  obtain ⟨joined, hjoined, hframe⟩ := exists_joined hnames hfound
  have htables : b.sql.tables ts = .ok (first, joined) := by
    rw [Sql.Source.tables, htable, hfirst]
    exact congrArg (· >>= fun joined => pure (first, joined)) hjoined
  refine ⟨_, ?_, (hframe first.relation).trans ?_⟩
  · rw [Sql.Source.relation, htables]
    rfl
  · rw [Tables.frame_cons, Tables.frame_singleton hfirst]
    rfl

/-! ## What the engine finds -/

/-- A column is looked for in all tables of a frame: it is found where it is the only one, and ambiguous where
another table has the name of its table, in any case. A column without a table is looked for in one table only. -/
theorem find_frame {ts : Tables} {tables : List Table} {i : Nat} {t : Table} {c : Column} (htable : tables[i]? = some t)
    (hc : c ∈ t.columns) (hall : ∀ u ∈ tables, u.LiesIn ts) {p : Nat} (hp : (ts.frame [t]).find none c.name = .at p)
    {table : Option String} (hname : table = some t.name ∨ table = none ∧ tables = [t]) :
    (ts.frame tables).find table c.name =
      if ∃ u ∈ tables.eraseIdx i, Sql.sameWord u.name t.name = true then .ambiguous
      else .at ((ts.frame (tables.take i)).length + p) := by
  obtain ⟨hi, hget⟩ := List.getElem?_eq_some_iff.1 htable
  rcases hname with rfl | ⟨rfl, rfl⟩
  · have hsplit : tables = tables.take i ++ t :: tables.drop (i + 1) := by
      rw [← hget, ← List.drop_eq_getElem_cons hi, List.take_append_drop]
    have ht : t.LiesIn ts := hall t (hget ▸ List.getElem_mem hi)
    have hbefore := Tables.positions_frame_eq_nil_iff ht hc (tables.take i) fun u hu => hall u (List.mem_of_mem_take hu)
    have hafter := Tables.positions_frame_eq_nil_iff ht hc (tables.drop (i + 1)) fun u hu =>
      hall u (List.mem_of_mem_drop hu)
    have hown : (ts.frame [t]).positions (some t.name) c.name = [p] := by
      rw [Tables.positions_frame_singleton ht, Sql.sameWord_self, if_pos rfl, Frame.find_eq_at_iff.1 hp]
    have hpositions : (ts.frame tables).positions (some t.name) c.name =
        (ts.frame (tables.take i)).positions (some t.name) c.name ++ ((ts.frame (tables.take i)).length + p) ::
          ((ts.frame (tables.drop (i + 1))).positions (some t.name) c.name).map
            fun q => (ts.frame (tables.take i)).length + ((ts.frame [t]).length + q) := by
      conv_lhs => rw [hsplit, Tables.frame_append, Tables.frame_cons, Frame.positions_append,
        Frame.positions_append, hown]
      simp [Function.comp_def]
    have hothers : (∃ u ∈ tables.eraseIdx i, Sql.sameWord u.name t.name = true) ↔
        ¬ ((ts.frame (tables.take i)).positions (some t.name) c.name = [] ∧
          (ts.frame (tables.drop (i + 1))).positions (some t.name) c.name = []) := by
      rw [hbefore, hafter, ← List.forall_mem_append, ← List.eraseIdx_eq_take_drop_succ]
      simp
    rw [Frame.find_of_positions hpositions]
    simp only [hothers, List.map_eq_nil_iff, ite_not]
  · have hzero : i = 0 := by simpa using hi
    subst hzero
    simp [hp]

/-- What the engine makes of a column of the `i`-th table that is written in a scope of a clause, over tables as
they are stored. -/
structure Clause.Finds (k : Clause) (s : Scope) (ts : Tables) (i : Nat) (t : Table) (c : Column) (x : Sql.Term) :
    Prop where
  /-- It is ambiguous if and only if another table of the chain has the name of its table, in any case. -/
  ambiguous : x.fault? (ts.frame k.scope.tables) = some .ambiguousColumn ↔
    ∃ u ∈ k.scope.tables.eraseIdx i, Sql.sameWord u.name t.name = true
  /-- Otherwise it has no fault, and its value is that of the column of its own table, after the columns of the
  tables before: over the tables in scope as over all tables of the chain. -/
  own : (∀ u ∈ k.scope.tables.eraseIdx i, Sql.sameWord u.name t.name = false) →
    x.fault? (ts.frame k.scope.tables) = none ∧ ∃ p, (ts.frame [t]).find none c.name = .at p ∧
      ∀ w ∈ [s, k.scope], ∀ row,
      x.eval (ts.frame w.tables) row = row[(ts.frame (s.tables.take i)).length + p]?.getD .null

section Finds

variable {k : Clause} {s : Scope} {ts : Tables} {i : Nat} {t : Table} {c : Column}

/-- A table in scope stands at its position in the chain, after the same tables. -/
theorem Clause.HasScope.getElem? (h : k.HasScope s) (ht : s.tables[i]? = some t) :
    k.scope.tables[i]? = some t ∧ k.scope.tables.take i = s.tables.take i := by
  obtain ⟨rest, hrest⟩ := h.tables_prefix
  have hi := (List.getElem?_eq_some_iff.1 ht).1
  rw [← hrest, List.getElem?_append_left hi, List.take_append_of_le_length (Nat.le_of_lt hi)]
  exact ⟨ht, rfl⟩

/-- The other tables in scope are other tables of the chain. -/
theorem Clause.HasScope.mem_eraseIdx (h : k.HasScope s) {u : Table} (hu : u ∈ s.tables.eraseIdx i) :
    u ∈ k.scope.tables.eraseIdx i := by
  obtain ⟨j, hj, hu⟩ := List.mem_eraseIdx_iff_getElem?.1 hu
  exact List.mem_eraseIdx_iff_getElem?.2 ⟨j, hj, (h.getElem? hu).1⟩

/-- Where columns are written without their table, a column in scope is one of the only table. -/
theorem Clause.HasScope.tables_single (h : k.HasScope s) (hoccurs : s.Occurs i t c) (hqualified : s.qualified = false) :
    s = k.scope ∧ s.tables = [t] := by
  obtain ⟨rfl, u, hu⟩ := h.single hqualified
  have ht := List.mem_of_getElem? hoccurs.table
  rw [hu, List.mem_singleton] at ht
  exact ⟨rfl, ht ▸ hu⟩

/-- What is written for a column in scope is looked for in the tables of the chain. -/
theorem Clause.HasScope.finds (h : k.HasScope s) (hall : ∀ u ∈ k.scope.tables, u.LiesIn ts) (hoccurs : s.Occurs i t c) :
    k.Finds s ts i t c (s.term t c) := by
  obtain ⟨htable, htake⟩ := h.getElem? hoccurs.table
  obtain ⟨p, hp⟩ := (hall t (List.mem_of_getElem? htable)).columns c hoccurs.column
  have hname : ∀ w ∈ [s, k.scope], (if s.qualified then some t.name else none) = some t.name ∨
      (if s.qualified then some t.name else none) = none ∧ w.tables = [t] := by
    intro w hw
    cases hqualified : s.qualified with
    | true => exact .inl rfl
    | false =>
      obtain ⟨hscope, hs⟩ := h.tables_single hoccurs hqualified
      rw [← hscope, List.mem_pair, or_self] at hw
      exact .inr ⟨rfl, hw ▸ hs⟩
  unfold Scope.term
  generalize (if s.qualified then some t.name else none) = table at hname ⊢
  have hchain := find_frame htable hoccurs.column hall hp (hname k.scope (by simp))
  have hscope := find_frame hoccurs.table hoccurs.column (fun u hu => hall u (h.tables_prefix.subset hu)) hp
    (hname s (by simp))
  rw [htake] at hchain
  by_cases hother : ∃ u ∈ k.scope.tables.eraseIdx i, Sql.sameWord u.name t.name = true
  · rw [if_pos hother] at hchain
    refine ⟨iff_of_true (by rw [Sql.Term.fault?, hchain]; rfl) hother, fun hothers => ?_⟩
    obtain ⟨u, hu, hsame⟩ := hother
    cases (hothers u hu).symm.trans hsame
  · have hother' : ¬ ∃ u ∈ s.tables.eraseIdx i, Sql.sameWord u.name t.name = true := by
      rintro ⟨u, hu, hsame⟩
      exact hother ⟨u, h.mem_eraseIdx hu, hsame⟩
    rw [if_neg hother] at hchain
    rw [if_neg hother'] at hscope
    have hfault : (Sql.Term.column table c.name).fault? (ts.frame k.scope.tables) = none := by
      rw [Sql.Term.fault?, hchain]
      rfl
    refine ⟨iff_of_false (by simp [hfault]) hother, fun _ => ⟨hfault, p, hp, fun w hw row => ?_⟩⟩
    rcases List.mem_pair.1 hw with rfl | rfl
    · rw [Sql.Term.eval, hscope]
    · rw [Sql.Term.eval, hchain]

end Finds

/-- A reference that compiles in a clause of a chain means a column of a table in scope, and is written as that
column. Its text names one column of one table in the scope if and only if no other table there has the name of its
table and a column of its name. Over any tables that hold those of the chain, the engine finds it ambiguous if and
only if another table of the chain has the name of its table in any case, and otherwise reads its own column. -/
theorem Clause.reference_names_one_iff (k : Clause) (s : Scope) (hs : k.HasScope s) (r : Rendering) (ref : ColumnRef)
    (b : Bound Sql.Term) (hb : (r.compiler s).compile (.column ref) = .ok b) :
    ∃ i t c, s.resolve ref = .ok (t, c) ∧ s.Occurs i t c ∧ b.sql = s.term t c ∧
      (s.NamesOne b.sql.text ↔ ∀ u ∈ s.tables.eraseIdx i, u.name = t.name → ∀ d ∈ u.columns, d.name ≠ c.name) ∧
      ∀ ts, (∀ u ∈ k.scope.tables, u.LiesIn ts) → k.Finds s ts i t c b.sql ∧
        ∀ source, r.source k.underlying = .ok source →
          ∃ rel, Sql.Source.relation ts (some source.sql) = .ok rel ∧ rel.frame = ts.frame k.scope.tables := by
  rw [Rendering.compiler, Compiler.compile] at hb
  obtain ⟨⟨t, c⟩, hresolve, hb⟩ := bind_eq_ok hb
  obtain rfl := Except.ok.inj hb
  obtain ⟨i, hoccurs⟩ := Scope.exists_occurs hresolve
  have hsingle : s.qualified = false → s.tables = [t] := fun hqualified => (hs.tables_single hoccurs hqualified).2
  refine ⟨i, t, c, hresolve, hoccurs, rfl, hoccurs.namesOne_iff hsingle, fun ts hall => ⟨hs.finds hall hoccurs, ?_⟩⟩
  intro source hsource
  rw [scope_eq_underlying] at hall ⊢
  exact relation_frame hsource fun u hu => (hall u hu).found

/-- A table that is joined to another: with its table a reference names the column of the joined one, and reads it,
although both have a column of that name. -/
theorem Clause.reference_names_one_joined :
    let a : Column := { name := "a", property := "a", kind := .integer .i64 }
    ∃ t u : Table, t.name = "t" ∧ t.columns = [a] ∧ u.name = "u" ∧ u.columns = [a] ∧
      let on : Expr := .binary .eq (.column ⟨some "t", "a"⟩) (.column ⟨some "u", "a"⟩)
      ∃ k, Clause.ofChain [.from t, .join .inner u on, .selectAll] = some k ∧
        ∃ b, (Rendering.compiler {} k.scope).compile (.column ⟨some "u", "a"⟩) = .ok b ∧ b.sql.text = "\"u\".\"a\"" ∧
          k.scope.NamesOne b.sql.text ∧
          let frame : Frame := [⟨"t", "a", false⟩, ⟨"u", "a", false⟩]
          b.sql.fault? frame = none ∧ b.sql.eval frame [.integer 1, .integer 2] = .integer 2 := by
  intro a
  let t : Table := ⟨"t", [a], by decide⟩
  let u : Table := ⟨"u", [a], by decide⟩
  refine ⟨t, u, rfl, rfl, rfl, rfl, ?_⟩
  intro on
  let k : Clause := .selection ((Source.ofTable t).join .inner u on).selectAll
  let ts : Tables := [⟨"t", t.storedColumns [], []⟩, ⟨"u", u.storedColumns [], []⟩]
  have hb : (Rendering.compiler {} k.scope).compile (.column ⟨some "u", "a"⟩) = .ok ⟨.column (some "u") "a", []⟩ := by
    decide +kernel
  refine ⟨k, rfl, _, hb, by decide +kernel, ?_⟩
  obtain ⟨i, v, c, hresolve, hoccurs, -, hnames, hengine⟩ := reference_names_one_iff k k.scope (.inl rfl) {} _ _ hb
  have hu : k.scope.resolve ⟨some "u", "a"⟩ = .ok (u, a) := by decide +kernel
  obtain ⟨rfl, rfl⟩ := Prod.mk.inj (Except.ok.inj (hresolve.symm.trans hu))
  have htables : k.scope.tables = [t, u] := rfl
  have hi : i = 1 := by
    have htable := hoccurs.table
    rw [htables] at htable
    rcases i with - | - | i
    · exact absurd (congrArg Table.name (Option.some.inj htable)) (by decide)
    · rfl
    · cases htable
  subst hi
  have hlies : ∀ w ∈ k.scope.tables, w.LiesIn ts := by
    intro w hw
    rw [htables, List.mem_pair] at hw
    have hstored : w.StoredAs ts ⟨w.name, w.storedColumns [], []⟩ := by
      rcases hw with rfl | rfl <;> exact ⟨by decide +kernel, ⟨[], rfl⟩, List.pairwise_singleton _ _, by decide +kernel⟩
    exact hstored.liesIn
  have hframe : ts.frame k.scope.tables = [⟨"t", "a", false⟩, ⟨"u", "a", false⟩] := by decide +kernel
  obtain ⟨hfault, p, hp, heval⟩ := (hengine ts hlies).1.own (by decide +kernel)
  have hfound : (ts.frame [u]).find none "a" = .at 0 := by decide +kernel
  obtain rfl := Reference.at.inj (hfound.symm.trans hp)
  rw [hframe] at hfault
  refine ⟨hnames.2 (by decide +kernel), hfault, ?_⟩
  have hvalue := heval k.scope (by simp) [.integer 1, .integer 2]
  have hlength : (ts.frame (k.scope.tables.take 1)).length = 1 := by decide +kernel
  rwa [hframe, hlength] at hvalue

/-- A table that is joined to itself: where the name alone is refused as ambiguous, the name with the table
compiles, its text names the columns of both, and the engine finds it ambiguous. -/
theorem Clause.reference_selfJoin_names_two :
    let a : Column := { name := "a", property := "a", kind := .integer .i64 }
    ∃ t : Table, t.name = "t" ∧ t.columns = [a] ∧
      let on : Expr := .binary .eq (.constant (.text "x")) (.constant (.text "x"))
      ∃ k, Clause.ofChain [.from t, .join .inner t on, .select false [.column ⟨some "t", "a"⟩]] = some k ∧
        k.scope.resolve ⟨none, "a"⟩ = .error (.ambiguousColumn "a" ["t", "t"]) ∧
        ∃ b, (Rendering.compiler {} k.scope).compile (.column ⟨some "t", "a"⟩) = .ok b ∧ b.sql.text = "\"t\".\"a\"" ∧
          ¬ k.scope.NamesOne b.sql.text ∧
          b.sql.fault? [⟨"t", "a", false⟩, ⟨"t", "a", false⟩] = some .ambiguousColumn := by
  intro a
  let t : Table := ⟨"t", [a], by decide⟩
  refine ⟨t, rfl, rfl, ?_⟩
  intro on
  have hb : (Rendering.compiler {} ⟨[t, t], true⟩).compile (.column ⟨some "t", "a"⟩) =
      .ok ⟨.column (some "t") "a", []⟩ := by
    decide +kernel
  refine ⟨_, rfl, by decide +kernel, _, hb, by decide +kernel, ?_, by decide +kernel⟩
  rintro ⟨i, u, c, -, -, honly⟩
  have hfirst := (honly 0 t a ⟨rfl, List.mem_singleton_self a⟩ rfl).1
  have hsecond := (honly 1 t a ⟨rfl, List.mem_singleton_self a⟩ rfl).1
  omega

end SqlMapper
