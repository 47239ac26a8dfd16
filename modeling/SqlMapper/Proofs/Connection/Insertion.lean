import SqlMapper.Proofs.Compiler.Compile
import SqlMapper.Proofs.Savepoint.Owner
import SqlMapper.Proofs.Sql.Places

/-!
# Rows that are inserted

What an insertion makes of the tables (`Table.insertInto`): the scalars of a row become the values of the columns
that are written, the values are bound to the places of the statement one by one (`bind_insertStatement`), and the
table takes the row. An insertion that succeeds has made just that of the tables and nothing else (`insert_ok`), and
rows inserted one after another have gone into the tables in their order (`insertEach_ok`).
-/

namespace SqlMapper

/-- The tables with values inserted, one for each column that is written, and the number of the row. -/
def Table.insertParams (t : Table) (params : List Native) (ts : Tables) : Except EngineError (Tables × Int64) :=
  if t.insertColumns.isEmpty then ts.insertDefaults t.name
  else ts.insert t.name (t.insertColumns.map fun p => p.2.name) (params.map Sql.boundValue)

/-- The tables with a row of scalars inserted, and the number of the row. -/
def Table.insertInto (t : Table) (coercion : Coercion) (ts : Tables) (values : List Scalar) :
    Except Error (Tables × Int64) := do
  let params ← t.insertValues coercion values
  Error.ofEngine (t.insertParams params ts)

/-- The tables with rows of scalars inserted, one after another. -/
def Table.insertRows (t : Table) (coercion : Coercion) : Tables → List (List Scalar) → Except Error Tables
  | ts, [] => .ok ts
  | ts, values :: rest => do
    let r ← t.insertInto coercion ts values
    t.insertRows coercion r.1 rest

/-! ## The statement of an insertion -/

/-- Items that are computed one by one, each of one item. -/
theorem forall₂_of_mapM {α β : Type} {f : α → Except Error β} {xs : List α} {ys : List β} (h : xs.mapM f = .ok ys) :
    List.Forall₂ (fun x y => f x = .ok y) xs ys := by
  induction xs generalizing ys with
  | nil =>
    obtain rfl := Except.ok.inj h
    exact .nil
  | cons x xs ih =>
    rw [List.mapM_cons] at h
    obtain ⟨y, hy, h⟩ := bind_eq_ok h
    obtain ⟨zs, hzs, h⟩ := bind_eq_ok h
    obtain rfl := Except.ok.inj h
    exact .cons hy (ih hzs)

/-- A row is inserted as one value for each column that is written. -/
theorem insertValues_forall₂ {t : Table} {coercion : Coercion} {values : List Scalar} {params : List Native}
    (h : t.insertValues coercion values = .ok params) :
    values.length = t.columns.length ∧
      List.Forall₂ (fun p v => p.2.store coercion t.name (values[p.1]?.getD .null) = .ok v) t.insertColumns params := by
  unfold Table.insertValues at h
  split at h
  · rename_i hlength
    exact ⟨hlength, forall₂_of_mapM h⟩
  · cases h

/-- A list of placeholders is filled with as many values. -/
theorem fillEach_placeholder {α : Type} {names : List α} {values : List Native} (h : values.length = names.length) :
    (Sql.fillEach Sql.Constant.fill (names.map fun _ => .placeholder) values).1 =
      values.map fun v => .literal (Sql.boundValue v) := by
  induction names generalizing values with
  | nil =>
    obtain rfl := List.length_eq_zero_iff.1 h
    rfl
  | cons name names ih =>
    obtain ⟨v, values, rfl⟩ := List.exists_cons_of_length_eq_add_one h
    have hlength : values.length = names.length := by simpa using h
    have hrest := ih hlength
    simpa [Sql.fillEach, Sql.Constant.placeholder, Sql.Constant.fill, Sql.nextValue] using hrest

/-- An insertion is of nothing, or has a place without a name for each column that is written. -/
theorem insertStatement_eq (t : Table) :
    t.insertStatement = if t.insertColumns.isEmpty then .insertDefaults t.name
      else .insert t.name (t.insertColumns.map fun p => p.2.name) (t.insertColumns.map fun _ => .placeholder) := by
  simp [Table.insertStatement, Function.comp_def]

/-- An insertion binds its values to the columns one by one. -/
theorem bind_insertStatement {t : Table} {params : List Native} (h : params.length = t.insertColumns.length) :
    t.insertStatement.bind params =
      if t.insertColumns.isEmpty then .insertDefaults t.name
      else .insert t.name (t.insertColumns.map fun p => p.2.name) (params.map fun v =>
        .literal (Sql.boundValue v)) := by
  rw [insertStatement_eq]
  split
  · rfl
  · have hplaces : (t.insertColumns.map fun _ => Sql.Constant.placeholder).flatMap Sql.Constant.places =
        t.insertColumns.map fun _ => .anonymous := by
      rw [List.flatMap_map, List.map_eq_flatMap]
      rfl
    have harrange : Sql.arrange (t.insertColumns.map fun _ => Sql.Place.anonymous) params = params :=
      Sql.arrange_of_anonymous (by simp) (by simpa using h)
    rw [Sql.Statement.bind, Sql.Statement.places, hplaces, harrange, Sql.Statement.fill, fillEach_placeholder h]

/-! ## Insertions that succeed -/

/-- A change that succeeds puts other tables in the place of the old ones, and counts. -/
theorem change_ok {α : Type} {count : α → Nat} {step : Tables → Except EngineError (Tables × α)}
    {db db' : Database} {a : α} (h : Database.change count step db = (.ok a, db')) :
    ∃ ts, step db.tables = .ok (ts, a) ∧ db' = { db with tables := ts, changes := count a } := by
  unfold Database.change at h
  split at h
  · rename_i ts b hstep
    obtain ⟨hb, hdb⟩ := Prod.mk.inj h
    obtain rfl := Except.ok.inj hb
    exact ⟨ts, hstep, hdb.symm⟩
  · cases h

/-- The bound statement of an insertion is run as a change of the tables. -/
theorem run_insertStatement {t : Table} {params : List Native} (h : params.length = t.insertColumns.length)
    (titles : List String) (db : Database) :
    Database.run titles (t.insertStatement.bind params) db =
      (((Database.change (fun _ => 1) (t.insertParams params) db).1.map fun n => .changed 1 (some n)),
        (Database.change (fun _ => 1) (t.insertParams params) db).2) := by
  have hvalues : (params.map fun v => Sql.Constant.literal (Sql.boundValue v)).map Sql.Constant.value =
      params.map Sql.boundValue := by
    simp [Sql.Constant.value, Function.comp_def]
  rw [bind_insertStatement h]
  unfold Table.insertParams
  split
  · rfl
  · simp only [Database.run, hvalues]

/-- An insertion that the engine accepts has inserted the values as they are bound. -/
theorem execute_insertStatement {t : Table} {params : List Native} (h : params.length = t.insertColumns.length)
    {db db' : Database} {o : Outcome} (hrun : Database.execute t.insertStatement params db = (.ok o, db')) :
    ∃ ts n, t.insertParams params db.tables = .ok (ts, n) ∧ o = .changed 1 (some n) ∧
      db' = { db with tables := ts, changes := 1 } := by
  unfold Database.execute at hrun
  split at hrun
  · cases hrun
  · dsimp only at hrun
    split at hrun
    · rw [run_insertStatement h] at hrun
      rcases hchange : Database.change (fun _ => 1) (t.insertParams params) db with ⟨e | n, d⟩
      · rw [hchange] at hrun
        cases hrun
      · rw [hchange] at hrun
        obtain ⟨ts, hts, rfl⟩ := change_ok hchange
        obtain ⟨ho, rfl⟩ := Prod.mk.inj hrun
        exact ⟨ts, n, hts, (Except.ok.inj ho).symm, rfl⟩
    · cases hrun

/-- An insertion that succeeds has inserted the row, and nothing else has changed but the count of changes. -/
theorem insert_ok {t : Table} {values : List Scalar} {c d : Connection} {n : Int64}
    (h : Connection.insert t values c = (.ok n, d)) :
    ∃ ts, t.insertInto c.coercion c.store.tables values = .ok (ts, n) ∧
      d = { c with store := { c.store with tables := ts, changes := 1 } } := by
  unfold Connection.insert at h
  split at h
  · cases h
  · rename_i params hparams
    have hlength := (insertValues_forall₂ hparams).2.length_eq
    simp only [Connection.step] at h
    rcases hrun : Database.execute t.insertStatement params c.store with ⟨e | o, db⟩
    · rw [hrun] at h
      cases h
    · rw [hrun] at h
      obtain ⟨ts, k, hts, rfl, rfl⟩ := execute_insertStatement hlength.symm hrun
      obtain ⟨hn, rfl⟩ := Prod.mk.inj h
      obtain rfl := Except.ok.inj hn
      refine ⟨ts, ?_, rfl⟩
      unfold Table.insertInto
      rw [hparams]
      exact congrArg Error.ofEngine hts

/-- Rows inserted one after another, when all of them are, have gone into the tables in their order. -/
theorem insertEach_ok {t : Table} {rows : List (List Scalar)} {c d : Connection}
    (h : Connection.insertEach t rows c = (.ok (), d)) :
    t.insertRows c.coercion c.store.tables rows = .ok d.store.tables := by
  induction rows generalizing c with
  | nil =>
    rw [← (Prod.mk.inj h).2]
    rfl
  | cons values rest ih =>
    unfold Connection.insertEach Operation.andThen at h
    rcases hinsert : Connection.insert t values c with ⟨e | n, c'⟩
    · rw [hinsert] at h
      cases h
    · rw [hinsert] at h
      have hrest := ih h
      obtain ⟨ts, hts, rfl⟩ := insert_ok hinsert
      unfold Table.insertRows
      rw [hts]
      exact hrest

/-! ## Insertions beside the levels -/

/-- An insertion leaves the levels alone, and the names and the stack. -/
theorem insert_beside (t : Table) (values : List Scalar) (c : Connection) :
    (Connection.insert t values c).2.stack = c.stack ∧
    (Connection.insert t values c).2.store.levels = c.store.levels := by
  have hlevel : t.insertStatement.levelStep? = none := by
    rw [insertStatement_eq]
    split <;> rfl
  unfold Connection.insert
  split
  · exact ⟨rfl, rfl⟩
  · refine ⟨rfl, ?_⟩
    simp only [Connection.step]
    unfold Database.execute
    split
    · rfl
    · dsimp only
      split
      · exact run_levels (by rw [levelStep?_bind, hlevel]) _ _
      · rfl

/-- So do insertions one after another. -/
theorem insertEach_beside (t : Table) (rows : List (List Scalar)) (c : Connection) :
    (Connection.insertEach t rows c).2.stack = c.stack ∧
    (Connection.insertEach t rows c).2.store.levels = c.store.levels := by
  induction rows generalizing c with
  | nil => exact ⟨rfl, rfl⟩
  | cons values rest ih =>
    have hfirst := insert_beside t values c
    unfold Connection.insertEach Operation.andThen
    rcases hinsert : Connection.insert t values c with ⟨e | n, d⟩
    · rw [hinsert] at hfirst
      exact hfirst
    · rw [hinsert] at hfirst
      obtain ⟨hstack, hlevels⟩ := ih d
      exact ⟨hstack.trans hfirst.1, hlevels.trans hfirst.2⟩

end SqlMapper
