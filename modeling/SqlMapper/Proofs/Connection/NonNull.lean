import SqlMapper.Proofs.Connection.Deletion
import SqlMapper.Proofs.Connection.Failing
import SqlMapper.Proofs.Connection.ReadBack
import SqlMapper.Proofs.Connection.Snapshots
import SqlMapper.Proofs.Value.Nulls

/-!
# Columns that must not be null

An insertion refuses a null for a column that must not be null, but it looks at the scalars and not at what is bound
for them, and a NaN is bound as null. So a stored row has a null in such a column where a NaN was given for it,
unless the column is the number of the row, and nowhere else (`Table.Holds`). This is so of every row after any run
of insertions, deletions and scopes, whatever fails on the way (`nonNullable_null_iff_nan`): insertions add one row
of scalars that was given, deletions take rows away, and a scope that is undone goes back to tables that were there
before (`Database.Throughout`).
-/

namespace SqlMapper

/-- Whether a column is the number of its row. -/
def Column.isRowNumber (c : Column) : Bool := c.primaryKey && c.kind.isInteger

/-- A stored row for a row of scalars: in a column that must not be null, null stands exactly for a NaN, and never
in place of the number of the row. -/
structure Table.Holds (t : Table) (values : List Scalar) (row : StoredRow) : Prop where
  length : values.length = t.columns.length
  width : row.values.length = t.columns.length
  null_iff : ∀ (i : Nat) (c : Column) (v : Scalar), t.columns[i]? = some c → c.nullable = false → values[i]? = some v →
    ∃ n, row.values[i]? = some n ∧ (n = .null ↔ v.isNaN = true ∧ c.isRowNumber = false)

/-- A row of scalars without a NaN in a column that must not be null and is not the number of the row. -/
def Table.AvoidsNaN (t : Table) (values : List Scalar) : Prop :=
  ∀ (i : Nat) (c : Column) (v : Scalar), t.columns[i]? = some c → c.nullable = false → c.isRowNumber = false →
    values[i]? = some v → v.isNaN = false

/-- In such a row no column that must not be null holds one. -/
theorem Table.Holds.not_null {t : Table} {values : List Scalar} {row : StoredRow} (h : t.Holds values row)
    (hvalues : t.AvoidsNaN values) {i : Nat} {c : Column} (hc : t.columns[i]? = some c)
    (hnullable : c.nullable = false) : row.values[i]? ≠ some .null := by
  have hi : i < values.length := h.length ▸ (List.getElem?_eq_some_iff.1 hc).1
  obtain ⟨n, hn, hnull⟩ := h.null_iff i c _ hc hnullable (List.getElem?_eq_getElem hi)
  intro hstored
  obtain ⟨hnan, hplain⟩ := hnull.1 (Option.some.inj (hn.symm.trans hstored))
  rw [hvalues i c _ hc hnullable hplain (List.getElem?_eq_getElem hi)] at hnan
  cases hnan

/-- Wherever a table is stored, it is stored as it was created, and all its rows are for rows of scalars that were
given. -/
def Table.FilledFrom (t : Table) (given : List Scalar → Prop) (ts : Tables) : Prop :=
  ∀ stored, ts.find t.name = .ok stored →
    t.StoredAs ts stored ∧ ∀ row ∈ stored.rows, ∃ values, given values ∧ t.Holds values row

namespace Table.FilledFrom

variable {t : Table} {given : List Scalar → Prop} {ts : Tables}

/-! ## Insertion -/

/-- The row that is inserted for a row of scalars is one for it. -/
theorem holds_numbered {stored : StoredTable} (hstored : t.StoredAs ts stored) {coercion : Coercion}
    {values : List Scalar} {params written : List Native} {number : Int64}
    (hparams : t.insertValues coercion values = .ok params) (hlength : written.length = t.columns.length)
    (hwritten : ∀ (j i : Nat) (c : Column) (v : Native), t.insertColumns[j]? = some (i, c) → params[j]? = some v →
      written[i]? = some (Sql.boundValue v)) :
    t.Holds values ⟨number, stored.numbered number written⟩ := by
  refine ⟨(insertValues_forall₂ hparams).1, by simp [StoredTable.numbered, hstored.length, hlength],
    fun i c v hc hnullable hv => ?_⟩
  cases hrow : c.isRowNumber with
  | true =>
    have hi : i < written.length := hlength ▸ (List.getElem?_eq_some_iff.1 hc).1
    have hnumbered := hstored.numbered_column hc number (List.getElem?_eq_getElem hi)
    rw [← Column.isRowNumber, hrow, if_pos rfl] at hnumbered
    exact ⟨_, hnumbered, by simp⟩
  | false =>
    have hassigned : c.isAssigned = false := by
      rw [← Bool.not_eq_true]
      exact fun h => Bool.false_ne_true (hrow.symm.trans (Table.isInteger_of_isAssigned (List.mem_of_getElem? hc) h))
    obtain ⟨j, n, hj, hparam, hstore⟩ := insertValues_store hparams hc hassigned hv
    obtain ⟨hn, hnonnull⟩ := Column.store_ok hstore
    have hnumbered := hstored.numbered_column hc number (hwritten j i c n hj hparam)
    rw [← Column.isRowNumber, hrow, if_neg Bool.false_ne_true] at hnumbered
    refine ⟨_, hnumbered, ?_⟩
    have hbound : (Sql.boundValue n).isNull = v.isNaN := by
      rw [Scalar.isNull_bound hn, hnonnull hnullable, Bool.false_or]
    rw [← hbound]
    cases Sql.boundValue n <;> simp [Native.isNull]

/-- A row that is inserted leaves the table filled from what was given. -/
theorem insertInto (h : t.FilledFrom given ts) {coercion : Coercion} {values : List Scalar}
    (hgiven : given values) {ts' : Tables} {number : Int64}
    (hinto : t.insertInto coercion ts values = .ok (ts', number)) : t.FilledFrom given ts' := by
  obtain ⟨params, hparams, hinto⟩ := bind_eq_ok hinto
  have hinto := of_ofEngine hinto
  have hfound : ∃ stored, ts.find t.name = .ok stored := by
    unfold Table.insertParams at hinto
    split at hinto
    · obtain ⟨stored, hstored, -⟩ := bind_eq_ok hinto
      exact ⟨stored, hstored⟩
    · obtain ⟨stored, hstored, -⟩ := bind_eq_ok hinto
      exact ⟨stored, hstored⟩
  obtain ⟨stored, hfound⟩ := hfound
  obtain ⟨hstored, hrows⟩ := h stored hfound
  obtain ⟨stored', written, hstored', hmore, hlength, hwritten⟩ := hstored.insertParams_ok hinto
  obtain ⟨before, after, hbefore, hafter⟩ := hmore.rows
  intro u hu
  obtain rfl := Except.ok.inj (hstored'.found.symm.trans hu)
  refine ⟨hstored', fun row hrow => ?_⟩
  rw [hafter, List.mem_append, List.mem_cons] at hrow
  rcases hrow with hrow | rfl | hrow
  · exact hrows row (by simp [hbefore, hrow])
  · exact ⟨values, hgiven, holds_numbered hstored hparams hlength hwritten⟩
  · exact hrows row (by simp [hbefore, hrow])

/-- So do rows that are inserted one after another. -/
theorem insertRows {coercion : Coercion} {rows : List (List Scalar)} (hgiven : ∀ values ∈ rows, given values)
    (h : t.FilledFrom given ts) {ts' : Tables} (hrows : t.insertRows coercion ts rows = .ok ts') :
    t.FilledFrom given ts' := by
  induction rows generalizing ts with
  | nil =>
    obtain rfl := Except.ok.inj hrows
    exact h
  | cons values rest ih =>
    obtain ⟨⟨mid, number⟩, hfirst, hrest⟩ := bind_eq_ok hrows
    have hmid := h.insertInto (hgiven values List.mem_cons_self) hfirst
    exact ih (fun v hv => hgiven v (List.mem_cons_of_mem _ hv)) hmid hrest

/-! ## Deletion -/

/-- A table that loses some of its rows leaves the table filled from what was given, be it this table or another. -/
theorem keepRows (h : t.FilledFrom given ts) {name : String} {u : StoredTable} (hu : ts.find name = .ok u)
    (keep : StoredRow → Bool) :
    t.FilledFrom given (ts.replace { u with rows := u.rows.filter keep }) := by
  let kept : StoredTable := { u with rows := u.rows.filter keep }
  intro stored hstored
  by_cases hname : Sql.sameWord u.name t.name = true
  · have hsame : Sql.sameWord u.name name = true :=
      List.find?_some (p := fun w : StoredTable => Sql.sameWord w.name name) (Tables.find_ok hu)
    have hfound : ts.find t.name = .ok u :=
      Tables.find_of_sameWord hu ((Sql.sameWord_congr hsame t.name).symm.trans hname)
    obtain ⟨hu, hrows⟩ := h u hfound
    have hreplaced : (ts.replace kept).find t.name = .ok kept := Tables.find_replace hfound rfl
    obtain rfl := Except.ok.inj (hreplaced.symm.trans hstored)
    exact ⟨⟨hreplaced, hu.columns, hu.distinct, hu.sendable⟩, fun row hrow => hrows row (List.mem_filter.1 hrow).1⟩
  · have hother : (ts.replace kept).find t.name = ts.find t.name :=
      Tables.find_replace_of_ne ts (Bool.not_eq_true _ ▸ hname)
    obtain ⟨hkept, hrows⟩ := h stored (hother.symm.trans hstored)
    exact ⟨⟨hstored, hkept.columns, hkept.distinct, hkept.sendable⟩, hrows⟩

end Table.FilledFrom

/-- A deletion leaves the levels alone, and the tables, or takes rows away from one of them. -/
theorem delete_tables (f : Filter) (named : NamedValues) (c : Connection) :
    let d := (Connection.delete f named c).2
    d.store.levels = c.store.levels ∧
      (d.store.tables = c.store.tables ∨ ∃ name stored keep, c.store.tables.find name = .ok stored ∧
      d.store.tables = c.store.tables.replace { stored with rows := stored.rows.filter keep }) := by
  intro d
  rcases hdelete : Connection.delete f named c with ⟨e | n, d'⟩
  · have hd : d = d' := congrArg Prod.snd hdelete
    have hsame := delete_failed hdelete
    rw [hd]
    exact ⟨hsame.levels, Or.inl hsame.tables⟩
  · have hsource : f.selection.source.joins = [] := by
      by_contra hjoins
      rw [Connection.delete, deleteStatement_joined hjoins] at hdelete
      cases hdelete
    obtain ⟨b, values, stored, hrun⟩ := isRun_of_delete hsource hdelete
    have hd : d = _ := congrArg Prod.snd (delete_of_isRun hsource hrun)
    rw [hd]
    exact ⟨rfl, Or.inr ⟨_, stored, _, hrun.found, rfl⟩⟩

/-! ## Runs -/

/-- What a run may do with the rows of a table: insert rows of scalars that may be given, one or several in a scope
of their own, and delete the rows of a filter. -/
inductive RowAction (given : List Scalar → Prop) where
  | insert (values : List Scalar) (allowed : given values)
  | insertAll (rows : List (List Scalar)) (allowed : ∀ values ∈ rows, given values)
  | delete (filter : Filter) (named : NamedValues)

/-- Takes an action, on a store that may refuse batches. -/
def RowAction.run {given : List Scalar → Prop} (x : Executor Database) (t : Table) : RowAction given →
    Operation Connection (Answer Reply)
  | .insert values _ => Operation.answer (fun n => .data (.number n.toInt)) (Connection.insert t values)
  | .insertAll rows _ => Operation.answer .count (Connection.insertAllOver x t rows)
  | .delete f named => Operation.answer .count (Connection.delete f named)

/-- Runs on the rows of a table, with the database seen after each step. -/
def Table.stage (t : Table) (x : Executor Database) (given : List Scalar → Prop) :
    Stage Database (RowAction given) Reply Database where
  executor := x
  act := RowAction.run x t
  look db := (db, db)

/-- The creation of a table leaves the levels alone. -/
theorem createTable_levels (name : String) (columns : List StoredColumn) (db : Database) :
    (Database.createTable name columns db).2.levels = db.levels := by
  unfold Database.createTable
  repeat' split
  all_goals rfl

section Runs

variable {x : Executor Database} {t : Table} {given : List Scalar → Prop}

/-- An action keeps a table filled from what may be given, now and in the levels. -/
theorem RowAction.keeps_filled (hx : x.RunsOrRefuses) (a : RowAction given) (c : Connection)
    (h : c.store.Throughout (t.FilledFrom given)) : (a.run x t c).2.store.Throughout (t.FilledFrom given) := by
  cases a with
  | insert values hgiven =>
    show (Connection.insert t values c).2.store.Throughout _
    rcases hinsert : Connection.insert t values c with ⟨e | n, d⟩
    · exact h.of_sameContents (insert_failed hinsert)
    · obtain ⟨ts, hinto, rfl⟩ := insert_ok hinsert
      exact h.of_levels rfl (h.now.insertInto hgiven hinto)
  | insertAll rows hgiven =>
    show (Connection.insertAllOver x t rows c).2.store.Throughout _
    obtain ⟨hfailed, hdone⟩ := insertAllOver_keeps hx t rows c
    cases hresult : (Connection.insertAllOver x t rows c).1 with
    | error e => exact h.of_sameContents (hfailed e hresult)
    | ok n =>
      obtain ⟨-, hrows, hlevels, -⟩ := hdone n hresult
      exact h.of_levels hlevels (h.now.insertRows hgiven hrows)
  | delete f named =>
    show (Connection.delete f named c).2.store.Throughout _
    obtain ⟨hlevels, hsame | ⟨name, stored, keep, hfound, htables⟩⟩ := delete_tables f named c
    · exact h.of_levels hlevels (hsame ▸ h.now)
    · exact h.of_levels hlevels (htables ▸ h.now.keepRows hfound keep)

/-- Whatever a run does, a table stays filled from what may be given. -/
theorem Table.stage_invariant (hx : x.RunsOrRefuses) (t : Table) (given : List Scalar → Prop) :
    (t.stage x given).Invariant (fun c => c.store.Throughout (t.FilledFrom given)) fun v =>
    t.FilledFrom given v.seen.tables where
  operations := Database.Throughout.invariant hx _
  act a c h := a.keeps_filled hx c h
  look _ h := h
  seen _ h := h.now

/-- A table is filled from nothing when it has been created. -/
theorem createTable_filledFrom {unique : List String} {c d : Connection}
    (hcreated : Connection.createTable t unique c = (.ok (), d))
    (hnew : ∀ l ∈ c.store.levels, ∀ stored, l.before.find t.name ≠ .ok stored) :
    d.store.Throughout (t.FilledFrom given) := by
  have hlevels := createTable_levels t.name (t.storedColumns unique) c.store
  rcases hstep : Database.createTable t.name (t.storedColumns unique) c.store with ⟨e | ⟨⟩, db⟩
  · simp only [Connection.createTable, Connection.step, hstep] at hcreated
    cases hcreated
  · simp only [Connection.createTable, Connection.step, hstep] at hcreated
    obtain rfl := (Prod.mk.inj hcreated).2
    rw [hstep] at hlevels
    have hstored := createTable_storedAs hstep
    refine ⟨fun stored hfound => ?_, fun l hl stored hfound => absurd hfound (hnew l (hlevels ▸ hl) stored)⟩
    obtain rfl := Except.ok.inj (hstored.found.symm.trans hfound)
    exact ⟨hstored, by simp⟩

end Runs

/-! ## Rows that are read -/

/-- The query of all rows of a table returns them in their order, and reading a column of one where null is not
allowed fails because of null exactly when null is stored there. -/
theorem query_selectAll_nulls {t : Table} {stored : StoredTable} {c : Connection} (h : t.StoredAs c.store.tables stored)
    (hrows : ∀ row ∈ stored.rows, row.values.length = t.columns.length) :
    ∃ rows, (Connection.query (Source.ofTable t).selectAll.toQuery [] c).1 = .ok rows ∧
      List.Forall₂ (fun (s : StoredRow) (row : Row) => ∀ (i : Nat) (col : Column) (kind k : Kind),
        t.columns[i]? = some col →
        (row.get kind false col.name = .error (.coercion (.nullNotOptional k)) ↔ s.values[i]? = some .null ∧ k = kind))
        stored.rows rows := by
  refine ⟨_, query_selectAll h, ?_⟩
  have hall : t.rowsOf c.coercion stored none =
      stored.rows.map fun r => ⟨t.columns.map Column.name, t.shown r.values, c.coercion⟩ := by
    simp [Table.rowsOf, StoredTable.test]
  rw [hall, List.forall₂_map_right_iff, List.forall₂_same]
  intro s hs i col kind k hcol
  have hi : i < s.values.length := hrows s hs ▸ (List.getElem?_eq_some_iff.1 hcol).1
  have hvalue := (h.get_column hcol (List.getElem?_eq_getElem hi) c.coercion).1
  rw [Row.get_eq_nullNotOptional_iff hvalue, List.getElem?_eq_getElem hi, Option.some_inj]

/-- After every run of insertions, deletions and scopes on a table that was created empty, and at each moment of it,
inside bodies as well: every stored row is for a row of scalars that was given, and in a column that must not be
null it has a null exactly where a NaN was given and the column is not the number of the row. All rows can be
queried, and reading a column of one where null is not allowed fails because of null exactly when null is stored
there. So, where no NaN is given for such a column, none of them ever holds a null, and reading one never fails
because of it. What fails on the way does not matter, and neither does which batches the store refuses. -/
theorem nonNullable_null_iff_nan {x : Executor Database} (hx : x.RunsOrRefuses) {t : Table} {unique : List String}
    {c d : Connection} (hcreated : Connection.createTable t unique c = (.ok (), d))
    (hnew : ∀ l ∈ c.store.levels, ∀ stored, l.before.find t.name ≠ .ok stored) (given : List Scalar → Prop)
    (steps : List (Step (RowAction given))) :
    let r := (t.stage x given).records steps d
    ∀ e : Connection, (e.store = r.2.store ∨ ∃ v ∈ Record.viewsOf r.1, v.seen = e.store) →
      ∀ stored, e.store.tables.find t.name = .ok stored →
        ∃ rows, (Connection.query (Source.ofTable t).selectAll.toQuery [] e).1 = .ok rows ∧
          (∀ row ∈ stored.rows, ∃ values, given values ∧ t.Holds values row) ∧
          List.Forall₂ (fun (s : StoredRow) (row : Row) => ∀ (i : Nat) (col : Column) (kind k : Kind),
            t.columns[i]? = some col →
            (row.get kind false col.name = .error (.coercion (.nullNotOptional k)) ↔
              s.values[i]? = some .null ∧ k = kind))
            stored.rows rows ∧
          ((∀ values, given values → t.AvoidsNaN values) → ∀ (i : Nat) (col : Column), t.columns[i]? = some col →
            col.nullable = false → (∀ row ∈ stored.rows, row.values[i]? ≠ some .null) ∧
              ∀ row ∈ rows, ∀ kind k, row.get kind false col.name ≠ .error (.coercion (.nullNotOptional k))) := by
  intro r e he stored hfound
  obtain ⟨hend, hviews⟩ :=
    Stage.records_invariant (t.stage_invariant hx given) steps d (createTable_filledFrom hcreated hnew)
  have hfilled : t.FilledFrom given e.store.tables := by
    rcases he with he | ⟨v, hv, he⟩
    · rw [he]
      exact hend.now
    · rw [← he]
      exact hviews v hv
  obtain ⟨hstored, hrows⟩ := hfilled stored hfound
  have hwidth : ∀ row ∈ stored.rows, row.values.length = t.columns.length := by
    intro row hrow
    obtain ⟨values, -, hholds⟩ := hrows row hrow
    exact hholds.width
  obtain ⟨rows, hquery, hread⟩ := query_selectAll_nulls hstored hwidth
  refine ⟨rows, hquery, hrows, hread, fun havoids i col hcol hnullable => ?_⟩
  have hnull : ∀ row ∈ stored.rows, row.values[i]? ≠ some .null := by
    intro row hrow
    obtain ⟨values, hgiven, hholds⟩ := hrows row hrow
    exact hholds.not_null (havoids values hgiven) hcol hnullable
  refine ⟨hnull, fun row hrow kind k hfails => ?_⟩
  obtain ⟨s, hs, hiff⟩ := exists_of_forall₂ hread hrow
  exact hnull s hs ((hiff i col kind k hcol).1 hfails).1

/-- One row is inserted, a null is refused, a scope inserts two rows and is undone for the null that follows, and
another keeps one. -/
theorem nonNullable_null_iff_nan_scopes :
    let key : Column :=
      { name := "id", property := "id", kind := .integer .i64, primaryKey := true, autoIncrement := true }
    let label : Column := { name := "a", property := "a", kind := .text }
    let share : Column := { name := "b", property := "b", kind := .f64, nullable := true }
    let t : Table := ⟨"t", [key, label, share], by decide⟩
    let given (values : List Scalar) : Prop := (values.all fun v => !v.isNaN) = true
    let half : Scalar := .f64 ⟨0x3FE0000000000000⟩
    let insert : Step (RowAction given) := .act (.insert [.null, .text "x", .null] rfl)
    let refused : Step (RowAction given) := .act (.insert [.null, .null, half] rfl)
    let two : Step (RowAction given) :=
      .act (.insertAll [[.null, .text "y", half], [.null, .text "z", .null]]
        (List.forall_mem_cons.2 ⟨rfl, List.forall_mem_singleton.2 rfl⟩))
    let d := (Connection.createTable t [] (Connection.open none .inMemory)).2
    let r := (t.stage Database.executor given).records
      [insert, refused, .scope false .deferred none [two, refused],
      .scope false .deferred none [.save, insert, .caught refused]] d
    ∃ stored, r.2.store.tables.find t.name = .ok stored ∧ stored.rows.length = 2 ∧
      ∀ row ∈ stored.rows, row.values[1]? ≠ some .null := by
  intro key label share t given half insert refused two d r
  have hcreated : Connection.createTable t [] (Connection.open none .inMemory) = (.ok (), d) :=
    Prod.ext (by decide +kernel) rfl
  have hlength : ((r.2.store.tables.find t.name).toOption.map fun stored => stored.rows.length) = some 2 := by
    simp only [r, Stage.records, Stage.runScript, List.foldl_cons, List.foldl_nil, insert, refused, two,
      Stage.run, Stage.outcome, Stage.runBody]
    decide +kernel
  have havoids : ∀ values, given values → t.AvoidsNaN values := by
    intro values hgiven i c v _ _ _ hv
    simpa using List.all_eq_true.1 hgiven v (List.mem_of_getElem? hv)
  rcases hfound : r.2.store.tables.find t.name with e | stored
  · rw [hfound] at hlength
    cases hlength
  · rw [hfound] at hlength
    obtain ⟨rows, -, -, -, hnull⟩ :=
      nonNullable_null_iff_nan runsOrRefuses_executor hcreated
        (by simp [Connection.open, Session.idle, Database.empty]) given
        [insert, refused, .scope false .deferred none [two, refused],
        .scope false .deferred none [.save, insert, .caught refused]]
        r.2 (Or.inl rfl) stored hfound
    exact ⟨stored, rfl, Option.some.inj hlength, (hnull havoids 1 label rfl rfl).1⟩

/-- A NaN is accepted for a column that must not be null and is stored as one, so the row that was inserted cannot
be read. -/
theorem nan_stored_as_null :
    let t : Table := ⟨"t", [{ name := "x", property := "x", kind := .f64 }], by decide⟩
    let d := (Connection.createTable t [] (Connection.open none .inMemory)).2
    let e := (Connection.insert t [.f64 .nan] d).2
    (Connection.insert t [.null] d).1 = .error (.operation (.notNullable "t" "x")) ∧
      (Connection.insert t [.f64 .nan] d).1 = .ok 1 ∧
      ∃ row, (Connection.query (Source.ofTable t).selectAll.toQuery [] e).1 = .ok [row] ∧ row.values = [.null] ∧
        row.get .f64 false "x" = .error (.coercion (.nullNotOptional .f64)) := by
  intro t d e
  exact ⟨by decide +kernel, by decide +kernel, ⟨["x"], [.null], d.coercion⟩, by decide +kernel, rfl, rfl⟩

end SqlMapper
