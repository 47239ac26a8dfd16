import SqlMapper.Proofs.Engine.Tables
import SqlMapper.Proofs.Query.Places
import SqlMapper.Proofs.Query.Sendable
import SqlMapper.Proofs.Schema.Validation

/-!
# Queries on one table

What a query of all columns of one table returns: the rows that a condition keeps, sorted by the columns that are
its keys and otherwise in the order of the row numbers, each with its values under the names of the columns
(`resultRows_rowsOrdered`). It can be prepared where the table can be asked for (`Table.KnownAs`), as it can when it
is stored as it was created (`Table.StoredAs`); then the values are those of the row in their order
(`Table.StoredAs.run_rowsOrdered`).
-/

namespace SqlMapper

/-! ## Columns of a table -/

/-- A column is what its name stands for. -/
theorem Table.column?_name {t : Table} {c : Column} (hc : c ∈ t.columns) : t.column? c.name = some c :=
  Table.column?_eq_some_iff.2 ⟨hc, .inl rfl⟩

/-- Only a primary key of integers is assigned by the store. -/
theorem Table.isInteger_of_isAssigned {t : Table} {c : Column} (hc : c ∈ t.columns) (h : c.isAssigned = true) :
    (c.primaryKey && c.kind.isInteger) = true := by
  obtain ⟨-, hauto⟩ : c.primaryKey = true ∧ c.autoIncrement = true := by simpa [Column.isAssigned] using h
  exact Bool.and_eq_true_iff.2 (t.wellFormed.assigned c hc hauto)

/-- In the scope of one table a column is written by its name. -/
theorem resolve_single {t : Table} {c : Column} (hc : c ∈ t.columns) :
    (Scope.single t).resolve ⟨none, c.name⟩ = .ok (t, c) := by
  simp [Scope.single, Scope.resolve, Scope.owners, Table.column?_name hc]

/-! ## Tables as they are created -/

/-- A table is stored under its name, with its columns, whose names differ in more than case and can be sent. -/
structure Table.StoredAs (t : Table) (ts : Tables) (stored : StoredTable) : Prop where
  found : ts.find t.name = .ok stored
  columns : ∃ unique, stored.columns = t.storedColumns unique
  distinct : Sql.Distinct (t.columns.map Column.name)
  sendable : ∀ name ∈ t.name :: t.columns.map Column.name, isSendable name = true

/-- A table can be asked for: it is found under its name, each of its columns means one column there, and all names
can be sent. -/
structure Table.KnownAs (t : Table) (ts : Tables) (stored : StoredTable) : Prop where
  found : ts.find t.name = .ok stored
  columns : ∀ c ∈ t.columns, (Sql.Term.column none c.name).fault? stored.frame = none
  sendable : ∀ name ∈ t.name :: t.columns.map Column.name, isSendable name = true

/-- Columns without a repeated name are distinct. -/
theorem repeatedColumn?_eq_none {seen : List String} {columns : List StoredColumn}
    (h : repeatedColumn? seen columns = none) :
    (∀ c ∈ columns, ∀ name ∈ seen, Sql.sameWord c.name name = false) ∧
      Sql.Distinct (columns.map StoredColumn.name) := by
  induction columns generalizing seen with
  | nil => exact ⟨nofun, .nil⟩
  | cons c rest ih =>
    unfold repeatedColumn? at h
    split at h
    · cases h
    · rename_i hnew
      obtain ⟨hseen, hrest⟩ := ih h
      simp only [List.any_eq_true, not_exists, not_and, Bool.not_eq_true] at hnew
      refine ⟨fun d hd name hname => ?_, List.pairwise_cons.2 ⟨fun name hname => ?_, hrest⟩⟩
      · rcases List.mem_cons.1 hd with rfl | hd
        · exact hnew name hname
        · exact hseen d hd name (List.mem_append_left _ hname)
      · obtain ⟨d, hd, rfl⟩ := List.mem_map.1 hname
        have hdc := hseen d hd c.name (by simp)
        rw [Bool.eq_false_iff, Ne, Sql.sameWord_iff] at hdc ⊢
        exact fun heq => hdc heq.symm

/-- A table is stored under the names of its columns. -/
@[simp] theorem names_storedColumns (t : Table) (unique : List String) :
    (t.storedColumns unique).map StoredColumn.name = t.columns.map Column.name := by
  simp [Table.storedColumns, Function.comp_def]

/-- A table that has been created is stored so, without rows. -/
theorem createTable_storedAs {t : Table} {unique : List String} {db db' : Database}
    (h : Database.createTable t.name (t.storedColumns unique) db = (.ok (), db')) :
    t.StoredAs db'.tables ⟨t.name, t.storedColumns unique, []⟩ := by
  unfold Database.createTable at h
  split at h
  · cases h
  · rename_i hsend
    split at h
    · cases h
    · split at h
      · cases h
      · rename_i hnew
        split at h
        · cases h
        · rename_i hrepeated
          obtain rfl := (Prod.mk.inj h).2
          rw [Bool.not_eq_true', Bool.not_eq_false, names_storedColumns, List.all_eq_true] at hsend
          rw [Bool.not_eq_true, List.any_eq_false] at hnew
          have hdistinct := (repeatedColumn?_eq_none hrepeated).2
          rw [names_storedColumns] at hdistinct
          refine ⟨?_, ⟨unique, rfl⟩, hdistinct, hsend⟩
          have hfind : List.find? (fun u : StoredTable => Sql.sameWord u.name t.name) db.tables = none :=
            List.find?_eq_none.2 hnew
          simp [Tables.find, List.find?_append, hfind]

section StoredAs

variable {t : Table} {ts : Tables} {stored : StoredTable}

namespace Table.StoredAs

/-- The stored table has as many columns as the schema. -/
theorem length (h : t.StoredAs ts stored) : stored.columns.length = t.columns.length := by
  obtain ⟨unique, hcolumns⟩ := h.columns
  rw [hcolumns, Table.storedColumns, List.length_map]

/-- Its columns are found under the names of the schema. -/
theorem frame_names (h : t.StoredAs ts stored) : stored.frame.map Slot.name = t.columns.map Column.name := by
  obtain ⟨unique, hcolumns⟩ := h.columns
  simp [StoredTable.frame, hcolumns, Table.storedColumns, Function.comp_def]

/-- A column stands where it is declared, and is a number where it is the number of the row. -/
theorem slot (h : t.StoredAs ts stored) {i : Nat} {c : Column} (hc : t.columns[i]? = some c) :
    stored.frame[i]? = some ⟨stored.name, c.name, c.primaryKey && c.kind.isInteger⟩ := by
  obtain ⟨unique, hcolumns⟩ := h.columns
  simp [StoredTable.frame, hcolumns, Table.storedColumns, hc]

/-- The name of a column means it. -/
theorem find_column (h : t.StoredAs ts stored) {i : Nat} {c : Column} (hc : t.columns[i]? = some c) :
    stored.frame.find none c.name = .at i := by
  have hdistinct : Sql.Distinct (stored.frame.map Slot.name) := h.frame_names ▸ h.distinct
  have hfind := Frame.find_of_distinct hdistinct (h.slot hc)
  exact hfind

end Table.StoredAs

/-! ## Rows of one table -/

/-- The query of all columns of a table, of the rows for which a condition holds. -/
def Table.rowsWhere (t : Table) (condition : Option Sql.Term) : Sql.Select :=
  .ofTerms false (t.columns.map fun c => .column none c.name) ⟨t.name, []⟩ condition [] none none

/-- The key of an order by a column. -/
def Column.sortKey (c : Column) (descending : Bool) : Sql.SortKey := { term := .column none c.name, descending }

/-- The same query with its rows in an order, given by columns and whether they descend. -/
def Table.rowsOrdered (t : Table) (condition : Option Sql.Term) (keys : List (Column × Bool)) : Sql.Select :=
  .ofTerms false (t.columns.map fun c => .column none c.name) ⟨t.name, []⟩ condition
    (keys.map fun k => k.1.sortKey k.2) none none

theorem rowsOrdered_nil (t : Table) (condition : Option Sql.Term) :
    t.rowsOrdered condition [] = t.rowsWhere condition := rfl

/-- All columns of one table are written by their names. -/
theorem allColumns_single (t : Table) : (Scope.single t).allColumns = t.columns.map fun c => .column none c.name := by
  simp [Scope.single, Scope.allColumns, Scope.term]

/-- The query for all rows of a table is the one without a condition. -/
theorem statement_selectAll (t : Table) (r : Rendering) :
    (Source.ofTable t).selectAll.toQuery.statement r = .ok ⟨.select (t.rowsWhere none), []⟩ := by
  rw [Table.rowsWhere, ← allColumns_single]
  rfl

/-- A query with a condition is compiled if the condition is. -/
theorem compile_where (t : Table) (p : Expr) (r : Rendering) :
    ((Source.ofTable t).selectAll.where p).toQuery.compile r =
      ((r.compiler (.single t)).compile p).map fun b => ⟨t.rowsWhere (some b.sql), b.params⟩ := by
  simp only [Table.rowsWhere, ← allColumns_single]
  have hcompile : ((Source.ofTable t).selectAll.where p).toQuery.compile r =
      ((r.compiler (.single t)).compile p >>= fun b => .ok (b.map some)) >>= fun condition =>
        .ok ⟨.ofTerms false (Scope.single t).allColumns ⟨t.name, []⟩ condition.sql [] none none,
          [] ++ [] ++ condition.params ++ []⟩ := rfl
  rw [hcompile]
  cases (r.compiler (.single t)).compile p with
  | error e => rfl
  | ok b => simp [Except.map, Bound.map, bind, Except.bind]

theorem statement_where (t : Table) (p : Expr) (r : Rendering) :
    ((Source.ofTable t).selectAll.where p).toQuery.statement r =
      ((r.compiler (.single t)).compile p).map fun b => ⟨.select (t.rowsWhere (some b.sql)), b.params⟩ := by
  rw [Query.statement, compile_where]
  cases (r.compiler (.single t)).compile p <;> rfl

/-- The values of a row under the names of the columns. -/
def Table.valuesIn (t : Table) (f : Frame) (row : List Native) : List Native :=
  t.columns.map fun c => (Sql.Term.column none c.name).eval f row

/-- The values of a row, column by column. -/
def Table.shown (t : Table) (values : List Native) : List Native :=
  (List.range t.columns.length).map fun i => values[i]?.getD .null

theorem grouped_column (table : Option String) (name : String) :
    (Sql.Term.column table name).grouped = .column table name :=
  (Emitted.column table name).grouped_written

/-- Reading such a query regroups its condition and nothing else. -/
theorem grouped_rowsOrdered (t : Table) (condition : Option Sql.Term) (keys : List (Column × Bool)) :
    (t.rowsOrdered condition keys).grouped = t.rowsOrdered (condition.map Sql.Term.grouped) keys := by
  simp [Table.rowsOrdered, Sql.Select.grouped, Sql.Select.ofTerms, Sql.ResultColumn.grouped, grouped_column,
    Sql.Term.isName, Sql.Term.bare, Sql.Source.grouped, Column.sortKey, Sql.SortKey.ofTerm, Sql.Term.number?,
    Function.comp_def]

theorem grouped_rowsWhere (t : Table) (condition : Option Sql.Term) :
    (t.rowsWhere condition).grouped = t.rowsWhere (condition.map Sql.Term.grouped) := by
  rw [← rowsOrdered_nil, grouped_rowsOrdered, rowsOrdered_nil]

/-- Columns have no places, so the places of the query are those of its condition. -/
theorem places_rowsOrdered (t : Table) (condition : Option Sql.Term) (keys : List (Column × Bool)) :
    (t.rowsOrdered condition keys).places = Sql.optionalPlaces condition := by
  have hnone : ∀ {α : Type} (items : List α), (items.flatMap fun _ => ([] : List Sql.Place)) = [] := fun _ =>
    List.flatMap_eq_nil_iff.2 fun _ _ => rfl
  simp [Table.rowsOrdered, Sql.Select.places, Sql.Select.ofTerms, Sql.ResultColumn.places, Sql.Source.places,
    List.flatMap_map, Sql.Term.places, Column.sortKey, hnone]

/-- The places of such a query are those of its condition. -/
theorem places_rowsWhere (t : Table) (condition : Option Sql.Term) :
    (t.rowsWhere condition).places = Sql.optionalPlaces condition := by
  rw [← rowsOrdered_nil, places_rowsOrdered]

/-- Columns and keys take no values. -/
theorem fillEach_columns (names : List String) (values : List Native) :
    Sql.fillEach Sql.ResultColumn.fill (names.map fun n => .term (.column none n) none) values =
      (names.map fun n => .term (.column none n) none, values) := by
  induction names with
  | nil => rfl
  | cons n rest ih => simp [Sql.fillEach, Sql.ResultColumn.fill, Sql.Term.fill, ih]

theorem fillEach_sortKeys (keys : List (Column × Bool)) (values : List Native) :
    Sql.fillEach Sql.SortKey.fill (keys.map fun k => k.1.sortKey k.2) values =
      (keys.map fun k => k.1.sortKey k.2, values) := by
  induction keys with
  | nil => rfl
  | cons k rest ih => simp [Sql.fillEach, Sql.SortKey.fill, Sql.Term.fill, Column.sortKey] at ih ⊢; simp [ih]

/-- Only the condition is filled. -/
theorem fill_rowsOrdered (t : Table) (condition : Option Sql.Term) (keys : List (Column × Bool))
    (values : List Native) :
    ((t.rowsOrdered condition keys).fill values).1 = t.rowsOrdered (Sql.fillOptional condition values).1 keys := by
  have hcolumns := fillEach_columns (t.columns.map Column.name)
  rw [List.map_map] at hcolumns
  simp [Table.rowsOrdered, Sql.Select.fill, Sql.Select.ofTerms, Sql.fillSource, Sql.Source.fill, Sql.fillEach,
    fillEach_sortKeys, Function.comp_def] at hcolumns ⊢
  simp [hcolumns]

/-- Filling such a query fills its condition. -/
theorem fill_rowsWhere (t : Table) (condition : Option Sql.Term) (values : List Native) :
    ((t.rowsWhere condition).fill values).1 = t.rowsWhere (Sql.fillOptional condition values).1 := by
  rw [← rowsOrdered_nil, fill_rowsOrdered, rowsOrdered_nil]

/-- The rows of the source are those of the table. -/
theorem relation_single (h : ts.find t.name = .ok stored) :
    Sql.Source.relation ts (some ⟨t.name, []⟩) = .ok stored.relation := by
  simp only [Sql.Source.relation, Sql.Source.tables, h, bind, Except.bind, pure, Except.pure, List.mapM_nil,
    List.foldl_nil]

/-- Without keys, rows stay in their order. -/
theorem orderRows_nil (rows : List ResultRow) : orderRows [] rows = rows := by
  unfold orderRows
  refine List.mergeSort_of_pairwise (List.pairwise_of_forall fun a b => ?_)
  rfl

/-- A query without an order and without a page returns its rows in their order. -/
theorem Sql.Select.resultRows_unordered {q : Sql.Select} (horder : q.order = []) (hlimit : q.limit = none)
    (hoffset : q.offset = none) (r : Relation) : q.resultRows r =
      (if q.distinct then dropRepeated ((r.restrict q.condition).rows.map (q.resultRow r.frame))
        else (r.restrict q.condition).rows.map (q.resultRow r.frame)).map ResultRow.values := by
  simp only [Sql.Select.resultRows, horder, hlimit, hoffset, page_none, List.map_nil, orderRows_nil]

/-- The order of two rows by the values of columns. -/
def StoredTable.compareRows (stored : StoredTable) (keys : List (Column × Bool)) (a b : StoredRow) : Ordering :=
  let values (r : StoredRow) : List Native :=
    keys.map fun k => (Sql.Term.column none k.1.name).eval stored.frame r.values
  compareKeys (keys.map Prod.snd) (values a) (values b)

/-- The condition keeps the rows for which it holds. -/
theorem restrict_relation (stored : StoredTable) (condition : Option Sql.Term) :
    (stored.relation.restrict condition).rows =
      (stored.rows.filter fun r => stored.test condition r.values).map StoredRow.values := by
  cases condition with
  | none => simp [Relation.restrict, StoredTable.relation, StoredTable.test]
  | some x => simp [Relation.restrict, StoredTable.relation, StoredTable.test, List.filter_map, Function.comp_def]

section RowsWhere

variable {condition : Option Sql.Term}

theorem source_rowsOrdered (t : Table) (condition : Option Sql.Term) (keys : List (Column × Bool)) :
    (t.rowsOrdered condition keys).source = some ⟨t.name, []⟩ := rfl

theorem source_rowsWhere (t : Table) (condition : Option Sql.Term) :
    (t.rowsWhere condition).source = some ⟨t.name, []⟩ := rfl

/-- The rows of the query are those for which the condition holds, sorted by the keys. -/
theorem resultRows_rowsOrdered (t : Table) (stored : StoredTable) (condition : Option Sql.Term)
    (keys : List (Column × Bool)) :
    (t.rowsOrdered condition keys).resultRows stored.relation =
      ((stored.rows.filter fun r => stored.test condition r.values).mergeSort fun a b =>
        stored.compareRows keys a b != .gt).map
        fun r => t.valuesIn stored.frame r.values := by
  let q := t.rowsOrdered condition keys
  have hvalues : ∀ row, (q.resultRow stored.frame row).values = t.valuesIn stored.frame row := by
    intro row
    simp only [q, Sql.Select.resultRow, Table.rowsOrdered, Sql.Select.ofTerms, List.map_map, List.flatMap_map]
    exact List.map_eq_flatMap.symm
  have hkeys : ∀ row, (q.resultRow stored.frame row).keys =
      keys.map fun k => (Sql.Term.column none k.1.name).eval stored.frame row := by
    intro row
    simp only [q, Sql.Select.resultRow, Table.rowsOrdered, Sql.Select.ofTerms, List.map_map]
    rfl
  have hdescending : q.order.map Sql.SortKey.descending = keys.map Prod.snd := by
    simp only [q, Table.rowsOrdered, Sql.Select.ofTerms, List.map_map]
    rfl
  have hcondition : q.condition = condition := rfl
  have hdistinct : q.distinct = false := rfl
  have hpage : q.limit = none ∧ q.offset = none := ⟨rfl, rfl⟩
  have hresult : q.resultRows stored.relation =
      (orderRows (q.order.map Sql.SortKey.descending)
        ((stored.relation.restrict q.condition).rows.map (q.resultRow stored.frame))).map ResultRow.values := by
    simp only [Sql.Select.resultRows, hdistinct, hpage, page_none, Bool.false_eq_true, if_false]
    rfl
  rw [hresult, hdescending, hcondition, restrict_relation, orderRows, List.map_map, ← List.map_mergeSort, List.map_map]
  · exact List.map_congr_left fun r _ => hvalues r.values
  · intro a _ b _
    simp only [Function.comp_apply, hkeys, StoredTable.compareRows]

/-- Without keys rows stay in their order. -/
theorem mergeSort_compareRows_nil (stored : StoredTable) (rows : List StoredRow) :
    rows.mergeSort (fun a b => stored.compareRows [] a b != .gt) = rows :=
  List.mergeSort_of_pairwise (List.pairwise_of_forall fun _ _ => rfl)

/-- It returns the rows for which the condition holds, in the order in which they are stored. -/
theorem resultRows_rowsWhere (t : Table) (stored : StoredTable) (condition : Option Sql.Term) :
    (t.rowsWhere condition).resultRows stored.relation =
      (stored.rows.filter fun r => stored.test condition r.values).map fun r => t.valuesIn stored.frame r.values := by
  rw [← rowsOrdered_nil, resultRows_rowsOrdered, mergeSort_compareRows_nil]

/-- Columns are not to be texts, so no row is damaged. -/
theorem isDamaged_rowsOrdered (t : Table) (condition : Option Sql.Term) (keys : List (Column × Bool)) (f : Frame)
    (rows : List (List Native)) : (t.rowsOrdered condition keys).isDamaged f rows = false := by
  have hcasts : ∀ b ∈ (t.rowsOrdered condition keys).columns.flatMap (fun c => c.castsToText f), b = false := by
    intro b hb
    obtain ⟨-, rfl⟩ : (∃ c, c ∈ t.columns) ∧ b = false := by
      simpa [Table.rowsOrdered, Sql.Select.ofTerms, List.flatMap_map, Sql.ResultColumn.castsToText,
        Sql.Term.bare] using hb
    rfl
  unfold Sql.Select.isDamaged
  refine List.any_eq_false.2 fun row _ => ?_
  rw [Bool.not_eq_true]
  refine List.any_eq_false.2 fun p hp => ?_
  rw [hcasts p.2 (List.of_mem_zip hp).2]
  exact Bool.false_ne_true

/-- No column of it is cast to text, so none is damaged. -/
theorem isDamaged_rowsWhere (t : Table) (condition : Option Sql.Term) (f : Frame) (rows : List (List Native)) :
    (t.rowsWhere condition).isDamaged f rows = false := by
  rw [← rowsOrdered_nil, isDamaged_rowsOrdered]

namespace Table.KnownAs

/-- The query is checked when the names of its condition have no fault. -/
theorem check_rowsOrdered (h : t.KnownAs ts stored) {keys : List (Column × Bool)} (hkeys : ∀ k ∈ keys, k.1 ∈ t.columns)
    (hcondition : ∀ x ∈ condition, x.fault? stored.frame = none) :
    (t.rowsOrdered condition keys).check ts = .ok stored.frame := by
  have hterms : ∀ x ∈ (t.rowsOrdered condition keys).terms, x.fault? stored.frame = none := by
    intro x hx
    simp only [Sql.Select.terms, Table.rowsOrdered, Sql.Select.ofTerms, Sql.Source.terms, List.map_nil, List.nil_append,
      List.mem_append, List.mem_filterMap, List.mem_map] at hx
    rcases hx with (⟨y, ⟨z, ⟨c, hc, rfl⟩, rfl⟩, hy⟩ | hx) | ⟨y, ⟨k, hk, rfl⟩, rfl⟩
    · obtain rfl := Option.some.inj hy
      exact h.columns c hc
    · exact hcondition x (by simpa using hx)
    · exact h.columns k.1 (hkeys k hk)
  have hchecked := Sql.checkTerms_eq_ok.2 hterms
  have hstar : (t.rowsOrdered condition keys).checkStar = .ok () := rfl
  have horder : (t.rowsOrdered condition keys).checkOrder stored.frame = .ok () := by
    refine if_pos (List.all_eq_true.2 fun key hkey => ?_)
    obtain ⟨k, -, rfl⟩ := List.mem_map.1 hkey
    rfl
  simp only [Sql.Select.check, source_rowsOrdered, relation_single h.found, hstar, StoredTable.relation,
    hchecked, horder, bind, Except.bind, pure, Except.pure]

/-- The text of the query can be sent when that of its condition can. -/
theorem isSendable_rowsOrdered (h : t.KnownAs ts stored) {keys : List (Column × Bool)}
    (hkeys : ∀ k ∈ keys, k.1 ∈ t.columns) (hcondition : ∀ x ∈ condition, isSendable x.text = true) :
    isSendable (Sql.Statement.select (t.rowsOrdered condition keys)).text = true := by
  have hname : ∀ c ∈ t.columns, isSendable (quoteIdentifier c.name) = true := fun c hc =>
    isSendable_quoteIdentifier (h.sendable c.name (List.mem_cons_of_mem _ (List.mem_map_of_mem hc)))
  have hcolumns : isSendable
      (Sql.commas ((t.rowsOrdered condition keys).columns.map Sql.ResultColumn.text)) = true := by
    refine (isSendable_intercalate (by decide) _).trans (List.all_eq_true.2 fun item hitem => ?_)
    obtain ⟨column, hcolumn, rfl⟩ := List.mem_map.1 hitem
    obtain ⟨x, hx, rfl⟩ := List.mem_map.1 hcolumn
    obtain ⟨c, hc, rfl⟩ := List.mem_map.1 hx
    exact hname c hc
  have horder : isSendable (Sql.commas ((t.rowsOrdered condition keys).order.map Sql.SortKey.text)) = true := by
    refine (isSendable_intercalate (by decide) _).trans (List.all_eq_true.2 fun item hitem => ?_)
    obtain ⟨key, hkey, rfl⟩ := List.mem_map.1 hitem
    obtain ⟨k, hk, rfl⟩ := List.mem_map.1 hkey
    unfold Sql.SortKey.text
    split
    · exact isSendable_append (hname k.1 (hkeys k hk)) (by decide)
    · exact hname k.1 (hkeys k hk)
  refine (isSendable_intercalate (by decide) _).trans (List.all_eq_true.2 fun line hline => ?_)
  simp only [Sql.Select.clauses, List.mem_append] at hline
  rcases hline with ((((hselect | hfrom) | hwhere) | hkeyed) | hlimit) | hoffset
  · obtain rfl := List.mem_singleton.1 hselect
    have hdistinct : (t.rowsOrdered condition keys).distinct = false := rfl
    rw [hdistinct, if_neg Bool.false_ne_true]
    exact isSendable_append (by decide) hcolumns
  · obtain rfl := List.mem_singleton.1 hfrom
    exact isSendable_append (by decide) (isSendable_quoteIdentifier (h.sendable t.name List.mem_cons_self))
  · cases condition with
    | none => cases hwhere
    | some x =>
      obtain rfl := List.mem_singleton.1 hwhere
      exact isSendable_append (by decide) (hcondition x rfl)
  · split at hkeyed
    · cases hkeyed
    · obtain rfl := List.mem_singleton.1 hkeyed
      exact isSendable_append (by decide) horder
  · cases hlimit
  · cases hoffset

/-- On a table as the schema has it such a query can be prepared if its condition can. -/
theorem prepare_rowsOrdered {db : Database} (h : t.KnownAs db.tables stored) {keys : List (Column × Bool)}
    (hkeys : ∀ k ∈ keys, k.1 ∈ t.columns)
    (hcondition : ∀ x ∈ condition, x.fault? stored.frame = none ∧ isSendable x.text = true) :
    db.prepare (.select (t.rowsOrdered condition keys)) = .ok () := by
  have hsend := h.isSendable_rowsOrdered hkeys fun x hx => (hcondition x hx).2
  have hcheck := h.check_rowsOrdered hkeys fun x hx => (hcondition x hx).1
  simp only [Database.prepare, hsend, hcheck]
  rfl

theorem prepare_rowsWhere {db : Database} (h : t.KnownAs db.tables stored)
    (hcondition : ∀ x ∈ condition, x.fault? stored.frame = none ∧ isSendable x.text = true) :
    db.prepare (.select (t.rowsWhere condition)) = .ok () := by
  rw [← rowsOrdered_nil]
  exact h.prepare_rowsOrdered nofun hcondition

end Table.KnownAs

namespace Table.StoredAs

/-- A column is evaluated to the value at its position. -/
theorem eval_column (h : t.StoredAs ts stored) {i : Nat} {c : Column} (hc : t.columns[i]? = some c)
    (row : List Native) :
    (Sql.Term.column none c.name).eval stored.frame row = row[i]?.getD .null := by
  rw [Sql.Term.eval, h.find_column hc]

/-- The values of a row of the result are those of the row, column by column. -/
theorem valuesIn_frame (h : t.StoredAs ts stored) (row : List Native) : t.valuesIn stored.frame row = t.shown row := by
  refine List.ext_getElem (by simp [Table.valuesIn, Table.shown]) fun i hi _ => ?_
  have hlt : i < t.columns.length := by simpa [Table.valuesIn] using hi
  simp [Table.valuesIn, Table.shown, h.eval_column (List.getElem?_eq_getElem hlt)]

/-- The titles of the result are the names of the columns. -/
theorem titles_columns (h : t.StoredAs ts stored) :
    (t.columns.flatMap fun c => (Sql.ResultColumn.term (.column none c.name) none).titles stored.frame) =
      t.columns.map Column.name := by
  have htitle : ∀ c ∈ t.columns, (Sql.ResultColumn.term (.column none c.name) none).titles stored.frame = [c.name] := by
    intro c hc
    obtain ⟨i, hi⟩ := List.getElem?_of_mem hc
    simp [Sql.ResultColumn.titles, Sql.Term.slot?, Sql.Term.bare, h.find_column hi, h.slot hi]
  rw [List.flatMap_congr htitle]
  exact List.map_eq_flatMap.symm

/-- The names of columns have no fault. -/
theorem fault?_column (h : t.StoredAs ts stored) {c : Column} (hc : c ∈ t.columns) :
    (Sql.Term.column none c.name).fault? stored.frame = none := by
  obtain ⟨i, hi⟩ := List.getElem?_of_mem hc
  rw [Sql.Term.fault?, h.find_column hi]
  rfl

/-- A table that is stored as it was created can be asked for. -/
theorem knownAs (h : t.StoredAs ts stored) : t.KnownAs ts stored where
  found := h.found
  columns _ hc := h.fault?_column hc
  sendable := h.sendable

/-- The query returns the rows for which the condition holds, sorted by the keys. -/
theorem run_rowsOrdered (h : t.StoredAs ts stored) (keys : List (Column × Bool)) (titles : List String) :
    (t.rowsOrdered condition keys).run titles ts =
      .ok ⟨titles, ((stored.rows.filter fun r => stored.test condition r.values).mergeSort fun a b =>
        stored.compareRows keys a b != .gt).map fun r => t.shown r.values, false⟩ := by
  have hrows := resultRows_rowsOrdered t stored condition keys
  simp only [h.valuesIn_frame] at hrows
  simp only [Sql.Select.run, source_rowsOrdered, relation_single h.found, hrows, isDamaged_rowsOrdered, bind,
    Except.bind, pure, Except.pure]

/-- The titles of its columns are their names. -/
theorem titles_rowsOrdered {db : Database} (h : t.StoredAs db.tables stored) {keys : List (Column × Bool)}
    (hkeys : ∀ k ∈ keys, k.1 ∈ t.columns) (hcondition : ∀ x ∈ condition, x.fault? stored.frame = none) :
    db.titles (.select (t.rowsOrdered condition keys)) = t.columns.map Column.name := by
  have hcheck := h.knownAs.check_rowsOrdered hkeys hcondition
  rw [← h.titles_columns]
  simp only [Database.titles, hcheck]
  simp only [Table.rowsOrdered, Sql.Select.ofTerms, List.flatMap_map]

end Table.StoredAs

end RowsWhere

end StoredAs

end SqlMapper
