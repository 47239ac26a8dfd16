import SqlMapper.Proofs.Connection.Insertion
import SqlMapper.Proofs.Connection.Sending
import SqlMapper.Proofs.Query.OneTable
import SqlMapper.Proofs.Value.RoundTrip

/-!
# Rows that are inserted and read back

An insertion that is accepted puts one row among those of the table, with the values that were given at the columns
they were given for, and the number of the row at the column that is it (`Table.StoredAs.insertParams_ok`). A query
for one of the values finds the row, and reading a column of it gives the value back (`inserted_row_reads_back`).
-/

namespace SqlMapper

/-! ## The columns that are written -/

/-- A value is found at its position. -/
theorem lookup_zip {positions : List Nat} (h : positions.Nodup) {values : List Native} {j i : Nat} {v : Native}
    (hi : positions[j]? = some i) (hv : values[j]? = some v) : (positions.zip values).lookup i = some v := by
  induction positions generalizing j values with
  | nil => cases hi
  | cons first rest ih =>
    obtain ⟨hfirst, hrest⟩ := List.nodup_cons.1 h
    cases values with
    | nil => cases hv
    | cons w values =>
      cases j with
      | zero =>
        obtain rfl := Option.some.inj hi
        obtain rfl := Option.some.inj hv
        rw [List.zip_cons_cons, List.lookup_cons_self]
      | succ j =>
        have hne : (i == first) = false := by
          rw [beq_eq_false_iff_ne]
          rintro rfl
          exact hfirst (List.mem_of_getElem? hi)
        rw [List.zip_cons_cons, List.lookup_cons, hne]
        exact ih hrest hi hv

section Insertion

variable {t : Table} {ts : Tables} {stored : StoredTable}

namespace Table.StoredAs

/-- The name of a column is found at its position. -/
theorem position?_column (h : t.StoredAs ts stored) {i : Nat} {c : Column} (hc : t.columns[i]? = some c) :
    stored.position? c.name = some i := by
  obtain ⟨unique, hcolumns⟩ := h.columns
  have hdistinct : Sql.Distinct (stored.columns.map StoredColumn.name) := by
    rw [hcolumns, names_storedColumns]
    exact h.distinct
  have hstored : ∃ s, stored.columns[i]? = some s ∧ s.name = c.name := by
    simp [hcolumns, Table.storedColumns, hc]
  obtain ⟨s, hs, hname⟩ := hstored
  unfold StoredTable.position?
  rw [← hname]
  exact hdistinct.findIdx? hs (fun _ h => h) (Sql.sameWord_self _)

/-- The names of columns are found at their positions. -/
theorem positions_columns (h : t.StoredAs ts stored) {columns : List (Nat × Column)}
    (hcolumns : ∀ p ∈ columns, t.columns[p.1]? = some p.2) :
    stored.positions (columns.map fun p => p.2.name) = .ok (columns.map Prod.fst) := by
  induction columns with
  | nil => rfl
  | cons p rest ih =>
    have hfirst := h.position?_column (hcolumns p List.mem_cons_self)
    have hrest := ih fun q hq => hcolumns q (List.mem_cons_of_mem _ hq)
    simp only [List.map_cons, StoredTable.positions, hfirst, hrest, bind, Except.bind, pure, Except.pure]

/-- A row with one more stored is stored as before. -/
theorem withOneMore (h : t.StoredAs ts stored) {row : StoredRow} {stored' : StoredTable}
    (hmore : stored.HasOneMore row stored') :
    t.StoredAs (ts.replace stored') stored' where
  found := Tables.find_replace h.found hmore.name
  columns := by
    obtain ⟨unique, hcolumns⟩ := h.columns
    exact ⟨unique, hmore.columns.trans hcolumns⟩
  distinct := h.distinct
  sendable := h.sendable

/-- What stands at the position of a column of a numbered row: the number of the row, or the value that was there. -/
theorem numbered_column (h : t.StoredAs ts stored) {i : Nat} {c : Column} (hc : t.columns[i]? = some c) (number : Int64)
    {values : List Native} {v : Native} (hv : values[i]? = some v) :
    (stored.numbered number values)[i]? = some (if c.primaryKey && c.kind.isInteger then .integer number else v) := by
  obtain ⟨unique, hcolumns⟩ := h.columns
  simp [StoredTable.numbered, List.getElem?_zip_eq_some, hcolumns, Table.storedColumns, hc, hv]

/-- A row of values that is accepted is one more row of the table. -/
theorem insert_row (h : t.StoredAs ts stored) {values : List Native} {ts' : Tables} {number : Int64}
    (hok : (stored.insert values >>= fun r => Except.ok (ts.replace r.1, r.2)) = .ok (ts', number)) :
    ∃ stored', t.StoredAs ts' stored' ∧ stored.HasOneMore ⟨number, stored.numbered number values⟩ stored' := by
  obtain ⟨⟨stored', n⟩, hinsert, hok⟩ := bind_eq_ok hok
  obtain ⟨rfl, rfl⟩ := Prod.mk.inj (Except.ok.inj hok)
  have hmore := StoredTable.insert_ok hinsert
  exact ⟨stored', h.withOneMore hmore, hmore⟩

/-- A value that is written stands at its position in the row that is inserted. -/
theorem spread_column (h : t.StoredAs ts stored) {values : List Native} {j i : Nat} {c : Column} {v : Native}
    (hj : t.insertColumns[j]? = some (i, c)) (hv : values[j]? = some v) :
    (stored.spread (t.insertColumns.map Prod.fst) values)[i]? = some v := by
  have hc := (Table.mem_insertColumns.1 (List.mem_of_getElem? hj)).1
  have hi : i < stored.columns.length := by
    rw [h.length]
    exact (List.getElem?_eq_some_iff.1 hc).1
  have hlookup : ((t.insertColumns.map Prod.fst).zip values).lookup i = some v :=
    lookup_zip t.nodup_insertColumns (by simp [hj]) hv
  simp [StoredTable.spread, hi, hlookup]

/-- An insertion that is accepted adds one row of values, with those that are written at their positions, and with
the number of the row at the column that is it. -/
theorem insertParams_ok (h : t.StoredAs ts stored) {params : List Native} {ts' : Tables} {number : Int64}
    (hok : t.insertParams params ts = .ok (ts', number)) :
    ∃ stored' values, t.StoredAs ts' stored' ∧ stored.HasOneMore ⟨number, stored.numbered number values⟩ stored' ∧
      values.length = t.columns.length ∧
        ∀ (j i : Nat) (c : Column) (v : Native), t.insertColumns[j]? = some (i, c) → params[j]? = some v →
          values[i]? = some (Sql.boundValue v) := by
  unfold Table.insertParams at hok
  split at hok
  · rename_i hempty
    unfold Tables.insertDefaults at hok
    rw [h.found] at hok
    obtain ⟨stored', hstored, hmore⟩ := h.insert_row hok
    refine ⟨stored', _, hstored, hmore, by simp [h.length], fun j i c v hj => ?_⟩
    rw [List.isEmpty_iff.1 hempty] at hj
    cases hj
  · rename_i hsome
    have hcolumns : ∀ p ∈ t.insertColumns, t.columns[p.1]? = some p.2 := by
      intro p hp
      exact (Table.mem_insertColumns.1 hp).1
    have hpositions := h.positions_columns hcolumns
    have hnames : (t.insertColumns.map fun p => p.2.name).isEmpty = false := by simpa using hsome
    unfold Tables.insert at hok
    obtain ⟨found, hfound, hok⟩ := bind_eq_ok hok
    obtain rfl := Except.ok.inj (h.found.symm.trans hfound)
    obtain ⟨positions, hinsert, hok⟩ := bind_eq_ok hok
    obtain rfl : positions = t.insertColumns.map Prod.fst := by
      simp only [StoredTable.insertPositions, hnames, hpositions, Bool.false_eq_true, if_false, bind,
        Except.bind] at hinsert
      split at hinsert
      · exact (Except.ok.inj hinsert).symm
      · cases hinsert
    obtain ⟨stored', hstored, hmore⟩ := h.insert_row hok
    refine ⟨stored', _, hstored, hmore, by simp [StoredTable.spread, h.length], fun j i c v hj hv => ?_⟩
    exact h.spread_column hj (by simp [hv])

end Table.StoredAs

end Insertion

/-! ## Values that are read back -/

/-- A value that is given for a column of a kind: null, or a value of the kind that is neither a decimal nor a float
of 32 bits nor a NaN. The text of a URL is assumed to be read as that URL. -/
structure Scalar.GivenFor (v : Scalar) (kind : Kind) : Prop where
  kind : v = .null ∨ v.kind? = some kind
  exact : v.kind? ≠ some .f32 ∧ v.kind? ≠ some .decimal
  notNaN : ∀ x, v = .f64 x → x.isNaN = false
  url : ∀ u, v = .url u → Url.read? u.text = some u

theorem Scalar.Same.kind?_eq {v w : Scalar} (h : v.Same w) : w.kind? = v.kind? := by
  cases h <;> rfl

/-- Only floats and decimals are stored as reals. -/
theorem of_toNative_real {v : Scalar} {coercion : Coercion} {x : Binary64} (h : v.toNative coercion = .ok (.real x)) :
    v = .f64 x ∨ v.kind? = some .f32 ∨ v.kind? = some .decimal := by
  cases v with
  | f64 y =>
    obtain rfl := Native.real.inj (Except.ok.inj h)
    exact Or.inl rfl
  | f32 y => exact Or.inr (Or.inl rfl)
  | decimal d => exact Or.inr (Or.inr rfl)
  | dateTime t =>
    cases ho : coercion.dateTimeAsTicks with
    | true =>
      obtain ⟨m, -, hstored⟩ := exists_integer (toNative_ticks ho t) h
      cases hstored
    | false =>
      obtain ⟨s, -, hstored⟩ := exists_text ho h
      cases hstored
  | integer k m hm =>
    obtain ⟨n, -, hstored⟩ := exists_integer (toNative_integer coercion hm) h
    cases hstored
  | timeSpan s =>
    obtain ⟨n, -, hstored⟩ := exists_integer (toNative_span coercion s) h
    cases hstored
  | _ => cases h

namespace Scalar.GivenFor

variable {v : Scalar} {kind : Kind} {coercion : Coercion} {n : Native}

/-- Its stored value is bound as it is. -/
theorem boundValue_eq (h : v.GivenFor kind) (hn : v.toNative coercion = .ok n) : Sql.boundValue n = n := by
  cases n with
  | real x =>
    rcases of_toNative_real hn with rfl | hkind | hkind
    · simp [Sql.boundValue, Native.ofReal, h.notNaN x rfl]
    · exact absurd hkind h.exact.1
    · exact absurd hkind h.exact.2
  | _ => rfl

/-- Its stored value is read as the value, also where null is allowed. -/
theorem toScalar (h : v.GivenFor kind) (hn : v.toNative coercion = .ok n) :
    ∃ w, n.toScalar kind = .ok w ∧ w.expectOptional kind = .ok w ∧ v.Same w := by
  rcases h.kind with rfl | hkind
  · obtain rfl := Except.ok.inj hn
    exact ⟨.null, rfl, rfl, .refl _⟩
  · have h32 : kind ≠ .f32 := fun heq => h.exact.1 (heq ▸ hkind)
    have hdecimal : kind ≠ .decimal := fun heq => h.exact.2 (heq ▸ hkind)
    obtain ⟨w, hw, hsame⟩ := toScalar_toNative hkind h32 hdecimal h.url hn
    refine ⟨w, hw, ?_, hsame⟩
    have hwkind : w.kind? = some kind := hsame.kind?_eq.trans hkind
    have hnull : w.isNull = false := by
      cases w <;> first | rfl | cases hwkind
    simp [Scalar.expectOptional, Scalar.expect, hnull, hwkind]

end Scalar.GivenFor

/-! ## The query for a value -/

/-- The rows of a table with a value in a column. -/
def Table.rowsWith (t : Table) (c : Column) (v : Scalar) : Filter :=
  (Source.ofTable t).selectAll.where ((Expr.ofColumn c.name).eq (.constant v))

/-- The condition that a column has a value. -/
def equalityTerm (name : String) (v : Native) : Sql.Term :=
  .paren (if v.isNull then .binary .is (.column none name) .null else .binary .eq (.column none name)
    (.constant .placeholder))

/-- The value of its place. -/
def equalityParams (v : Native) : List Native := if v.isNull then [] else [v]

theorem of_ofCoercion {α : Type} {x : Except CoercionError α} {a : α} (h : Error.ofCoercion x = .ok a) : x = .ok a := by
  cases x with
  | error e => cases h
  | ok b => rw [Except.ok.inj h]

/-- The condition is written with the stored value of the scalar. -/
theorem compile_equality {t : Table} {c : Column} (hc : c ∈ t.columns) {v : Scalar} {coercion : Coercion}
    {b : Bound Sql.Term}
    (h : Compiler.compile ⟨.single t, .positional, coercion⟩ ((Expr.ofColumn c.name).eq (.constant v)) = .ok b) :
    ∃ n, v.toNative coercion = .ok n ∧ b = ⟨equalityTerm c.name n, equalityParams n⟩ := by
  simp only [Expr.eq, Expr.ofColumn, Compiler.compile, Operator.toSql?, resolve_single hc] at h
  obtain ⟨l, hl, hright⟩ := bind_eq_ok h
  obtain rfl := Except.ok.inj hl
  obtain ⟨r, hr, hwhole⟩ := bind_eq_ok hright
  obtain rfl := Except.ok.inj hwhole
  obtain ⟨k, hk, hr'⟩ := bind_eq_ok hr
  obtain rfl := Except.ok.inj hr'
  obtain ⟨n, hn, hchecked⟩ := bind_eq_ok hk
  obtain ⟨m, hm, hwritten⟩ := bind_eq_ok hchecked
  obtain rfl := Native.eq_of_checkLiteral hm
  refine ⟨m, of_ofCoercion hn, ?_⟩
  cases m with
  | null =>
    obtain rfl := Except.ok.inj hwritten
    rfl
  | _ =>
    obtain rfl := Except.ok.inj hwritten
    rfl

/-- The statement of the query is made with the stored value of the scalar. -/
theorem statement_equality {t : Table} {c : Column} (hc : c ∈ t.columns) {v : Scalar} {coercion : Coercion}
    {b : Bound Sql.Statement} (h : (t.rowsWith c v).toQuery.statement ⟨.positional, coercion⟩ = .ok b) :
    ∃ n, v.toNative coercion = .ok n ∧
      b = ⟨.select (t.rowsWhere (some (equalityTerm c.name n))), equalityParams n⟩ := by
  rw [Table.rowsWith, statement_where] at h
  cases hp : (Rendering.compiler ⟨.positional, coercion⟩ (.single t)).compile
    ((Expr.ofColumn c.name).eq (.constant v)) with
  | error e =>
    rw [hp] at h
    cases h
  | ok p =>
    rw [hp] at h
    obtain rfl := Except.ok.inj h
    obtain ⟨n, hn, rfl⟩ := compile_equality hc hp
    exact ⟨n, hn, rfl⟩

/-- What is written of the condition is the condition as it is emitted. -/
theorem equalityTerm_eq_written (name : String) (v : Native) :
    ∃ m : Emitted, equalityTerm name v = m.written ∧ m.read = m.written := by
  cases hnull : v.isNull with
  | true =>
    refine ⟨.binary .is (.column none name) (.constant .null), ?_, rfl⟩
    simp [equalityTerm, hnull, Emitted.written, Sql.Term.null, Sql.WritableConstant.null]
  | false =>
    refine ⟨.binary .eq (.column none name) (.constant .placeholder), ?_, rfl⟩
    simp [equalityTerm, hnull, Emitted.written, Sql.WritableConstant.placeholder]

theorem grouped_equalityTerm (name : String) (v : Native) : (equalityTerm name v).grouped = equalityTerm name v := by
  obtain ⟨m, heq, hread⟩ := equalityTerm_eq_written name v
  rw [heq, m.grouped_written, hread]

theorem places_equalityTerm (name : String) (v : Native) : ∀ p ∈ (equalityTerm name v).places, p = .anonymous := by
  intro p hp
  unfold equalityTerm at hp
  split at hp
  · cases hp
  · exact List.mem_singleton.1 hp

/-- A value is equal to itself. -/
theorem Native.same_self (v : Native) : v.same v = true := by
  rw [Native.same, beq_iff_eq]
  cases v with
  | null => rfl
  | integer n => exact Std.compare_self
  | real x => exact Std.compare_self
  | text s => exact compareBytes_eq_iff.2 rfl
  | blob b => exact compareBytes_eq_iff.2 rfl

/-- An operator on a column that is no number and a constant. -/
theorem eval_column_constant {f : Frame} {name : String} {row : List Native}
    (hplain : (Sql.Term.column none name).isNumeric f = false) (op : Sql.BinaryOp) (k : Sql.Constant) :
    (Sql.Term.paren (.binary op (.column none name) (.constant k))).eval f row =
      ((Sql.Term.column none name).eval f row).operate op k.value := by
  have hconstant : (Sql.Term.constant k).isNumeric f = false := rfl
  have heval : (Sql.Term.paren (.binary op (.column none name) (.constant k))).eval f row =
      if op.compares && ((Sql.Term.column none name).isNumeric f || (Sql.Term.constant k).isNumeric f) then
        ((Sql.Term.column none name).eval f row).asNumeric.operate op k.value.asNumeric
      else ((Sql.Term.column none name).eval f row).operate op k.value := rfl
  rw [heval, hplain, hconstant, Bool.or_false, Bool.and_false, if_neg Bool.false_ne_true]

/-- The condition holds on a row with the value at the column, as it is bound. -/
theorem holds_equalityTerm {f : Frame} {name : String} {i : Nat} {s : Slot} (hfind : f.find none name = .at i)
    (hs : f[i]? = some s) (hnumeric : s.numeric = false) {v : Native} (hbound : Sql.boundValue v = v)
    {row : List Native} (hrow : row[i]? = some v) :
    ((equalityTerm name v).fill (equalityParams v)).1.holds f row = true := by
  have hcolumn : (Sql.Term.column none name).eval f row = v := by
    rw [Sql.Term.eval, hfind]
    simp [hrow]
  have hplain : (Sql.Term.column none name).isNumeric f = false := by
    rw [Sql.Term.isNumeric, hfind]
    simp [hs, hnumeric]
  have hvalue : ((equalityTerm name v).fill (equalityParams v)).1.eval f row = .ofTruth (some true) := by
    cases hnull : v.isNull with
    | true =>
      have hfilled : ((equalityTerm name v).fill (equalityParams v)).1 =
          .paren (.binary .is (.column none name) .null) := by
        simp [equalityTerm, equalityParams, hnull, Sql.Term.fill, Sql.Term.null, Sql.Constant.fill]
      have hv : v = .null := by
        cases v <;> first | rfl | cases hnull
      rw [hfilled, Sql.Term.null, eval_column_constant hplain, hcolumn, hv]
      rfl
    | false =>
      have hfilled : ((equalityTerm name v).fill (equalityParams v)).1 =
          .paren (.binary .eq (.column none name) (.constant (.literal v))) := by
        simp [equalityTerm, equalityParams, hnull, Sql.Term.fill, Sql.Constant.placeholder, Sql.Constant.fill,
          Sql.nextValue, hbound]
      have hcompare : (v.compare v == .eq) = true := v.same_self
      rw [hfilled, eval_column_constant hplain, hcolumn]
      simp [Sql.Constant.value, Native.operate, Native.comparison, hnull, hcompare]
  rw [Sql.Term.holds, hvalue]
  decide

/-! ## Queries on one table -/

section Queries

variable {t : Table} {stored : StoredTable} {c : Connection}

/-- The rows of a table for which a condition holds, as a query returns them. -/
def Table.rowsOf (t : Table) (coercion : Coercion) (stored : StoredTable) (condition : Option Sql.Term) : List Row :=
  (stored.rows.filter fun r => stored.test condition r.values).map fun r =>
    ⟨t.columns.map Column.name, t.shown r.values, coercion⟩

/-- A query of all columns of a table returns the rows for which its condition holds with the values in its places,
sorted by its keys. -/
theorem query_rowsOrdered (h : t.StoredAs c.store.tables stored) {k : Clause} {q : Query} (hk : k.query? = some q)
    {condition : Option Sql.Term} {keys : List (Column × Bool)} (hkeys : ∀ k ∈ keys, k.1 ∈ t.columns)
    {params : List Native} (hq : q.statement c.rendering = .ok ⟨.select (t.rowsOrdered condition keys), params⟩)
    (hgrouped : ∀ x ∈ condition, x.grouped = x) (hcondition : ∀ x ∈ condition, x.fault? stored.frame = none ∧
      isSendable x.text = true)
    (hplaces : ∀ p ∈ Sql.optionalPlaces condition, p = .anonymous) :
    (Connection.query q [] c).1 =
      .ok (((stored.rows.filter fun r =>
        stored.test (Sql.fillOptional condition params).1 r.values).mergeSort fun a b =>
        stored.compareRows keys a b != .gt).map fun r =>
          ⟨t.columns.map Column.name, t.shown r.values, c.coercion⟩) := by
  have hstatement : k.statement? c.rendering .rows = some (.ok ⟨.select (t.rowsOrdered condition keys), params⟩) := by
    rw [Clause.statement?, hk, ← hq]
    rfl
  obtain ⟨filled, hfills⟩ := Clause.statement?_fills hstatement
  have hsame : (Sql.Statement.select (t.rowsOrdered condition keys)).grouped =
      .select (t.rowsOrdered condition keys) := by
    have hcondition : condition.map Sql.Term.grouped = condition := by
      cases condition with
      | none => rfl
      | some x => rw [Option.map_some, hgrouped x rfl]
    rw [Sql.Statement.grouped, grouped_rowsOrdered, hcondition]
  have hprepared := h.knownAs.prepare_rowsOrdered hkeys hcondition
  have hanonymous : ∀ p ∈ (Sql.Statement.select (t.rowsOrdered condition keys)).places, p = .anonymous := by
    rw [Sql.Statement.places, places_rowsOrdered]
    exact hplaces
  obtain ⟨hlength, hbound⟩ := hfills.bindParameters_of_anonymous hanonymous c.coercion []
  have hvalues : c.bindOrder [] ⟨.select (t.rowsOrdered condition keys), params⟩ = .ok params :=
    (bindOrder_prepared hfills (by rw [hsame]; exact hprepared)).trans hbound
  have hneeded : params.length = (Sql.Statement.select (t.rowsOrdered condition keys)).parameters.length := by
    rw [Sql.Statement.parameters, List.length_map, Sql.parametersFrom_of_anonymous hanonymous, List.nil_append]
    exact hlength.symm
  have hbind : (Sql.Statement.select (t.rowsOrdered condition keys)).bind params =
      .select (t.rowsOrdered (Sql.fillOptional condition params).1 keys) := by
    rw [Sql.Statement.bind, Sql.arrange_of_anonymous hanonymous hlength.symm, Sql.Statement.fill, fill_rowsOrdered]
  simp only [Connection.query, Connection.send, hq, hvalues, hsame, Connection.step, Database.execute, hprepared,
    ← hneeded, if_true, hbind, Database.run, h.titles_rowsOrdered hkeys fun x hx => (hcondition x hx).1,
    h.run_rowsOrdered, Except.map, Error.ofEngine,
    Except.bind, Outcome.toRows, Bool.false_eq_true, if_false, List.map_map]
  rfl

/-- Without keys the rows are in the order of the table. -/
theorem query_rowsWhere (h : t.StoredAs c.store.tables stored) {k : Clause} {q : Query} (hk : k.query? = some q)
    {condition : Option Sql.Term} {params : List Native}
    (hq : q.statement c.rendering = .ok ⟨.select (t.rowsWhere condition), params⟩)
    (hgrouped : ∀ x ∈ condition, x.grouped = x) (hcondition : ∀ x ∈ condition, x.fault? stored.frame = none ∧
      isSendable x.text = true)
    (hplaces : ∀ p ∈ Sql.optionalPlaces condition, p = .anonymous) :
    (Connection.query q [] c).1 = .ok (t.rowsOf c.coercion stored (Sql.fillOptional condition params).1) := by
  have hkeys : ∀ k ∈ ([] : List (Column × Bool)), k.1 ∈ t.columns := nofun
  have hrows := query_rowsOrdered h hk hkeys hq hgrouped hcondition hplaces
  rwa [mergeSort_compareRows_nil] at hrows

/-- The query of all rows of a table returns its rows. -/
theorem query_selectAll (h : t.StoredAs c.store.tables stored) :
    (Connection.query (Source.ofTable t).selectAll.toQuery [] c).1 = .ok (t.rowsOf c.coercion stored none) :=
  query_rowsWhere (k := .selection (Source.ofTable t).selectAll) h rfl
    (statement_selectAll t c.rendering) nofun nofun nofun

/-- The query for a value returns the rows for which the column has it. -/
theorem query_rowsWith (h : t.StoredAs c.store.tables stored) {col : Column} (hcol : col ∈ t.columns)
    {v : Scalar} {n : Native} (hq : (t.rowsWith col v).toQuery.statement c.rendering =
      .ok ⟨.select (t.rowsWhere (some (equalityTerm col.name n))), equalityParams n⟩) :
    (Connection.query (t.rowsWith col v).toQuery [] c).1 =
      .ok (t.rowsOf c.coercion stored (some ((equalityTerm col.name n).fill (equalityParams n)).1)) := by
  have hfault : (equalityTerm col.name n).fault? stored.frame = none := by
    have hcolumn := h.fault?_column hcol
    unfold equalityTerm
    split <;> simp [Sql.Term.fault?, Sql.Term.null] at hcolumn ⊢ <;> exact hcolumn
  have hname : isSendable (quoteIdentifier col.name) = true :=
    isSendable_quoteIdentifier (h.sendable col.name (List.mem_cons_of_mem _ (List.mem_map_of_mem hcol)))
  have hsendable : isSendable (equalityTerm col.name n).text = true := by
    unfold equalityTerm
    split
    · have htext : (Sql.Term.paren (.binary .is (.column none col.name) .null)).text =
          "(" ++ (quoteIdentifier col.name ++ " IS NULL)") := by
        simp [Sql.Term.text, Sql.columnText, Sql.Term.null, Sql.Constant.text, Sql.literalText, Sql.BinaryOp.text,
          String.append_assoc]
      rw [htext]
      exact isSendable_append (by decide) (isSendable_append hname (by decide))
    · have htext : (Sql.Term.paren (.binary .eq (.column none col.name) (.constant .placeholder))).text =
          "(" ++ (quoteIdentifier col.name ++ " = ?)") := by
        simp [Sql.Term.text, Sql.columnText, Sql.Constant.placeholder, Sql.Constant.text, Sql.Place.text,
          Sql.BinaryOp.text, String.append_assoc]
      rw [htext]
      exact isSendable_append (by decide) (isSendable_append hname (by decide))
  refine query_rowsWhere (k := .filter (t.rowsWith col v)) h rfl hq ?_ ?_ (places_equalityTerm col.name n)
  · rintro x ⟨⟩
    exact grouped_equalityTerm col.name n
  · rintro x ⟨⟩
    exact ⟨hfault, hsendable⟩

end Queries

/-! ## The row that is inserted -/

/-- What is stored for a column is the stored value of the scalar, which is null only where the column may be. -/
theorem Column.store_ok {c : Column} {coercion : Coercion} {table : String} {v : Scalar} {n : Native}
    (h : c.store coercion table v = .ok n) : v.toNative coercion = .ok n ∧ (c.nullable = false → v.isNull = false) := by
  unfold Column.store at h
  split at h
  · cases h
  · rename_i hnull
    refine ⟨of_ofCoercion h, fun hnullable => ?_⟩
    rw [hnullable, Bool.not_false, Bool.and_true, Bool.not_eq_true] at hnull
    exact hnull

/-- For each column that the store does not assign a value is written that is stored for its scalar. -/
theorem insertValues_store {t : Table} {coercion : Coercion} {values : List Scalar} {params : List Native}
    (h : t.insertValues coercion values = .ok params) {i : Nat} {c : Column} {v : Scalar} (hc : t.columns[i]? = some c)
    (hassigned : c.isAssigned = false) (hv : values[i]? = some v) :
    ∃ (j : Nat) (n : Native), t.insertColumns[j]? = some (i, c) ∧ params[j]? = some n ∧
      c.store coercion t.name v = .ok n := by
  obtain ⟨-, hall⟩ := insertValues_forall₂ h
  obtain ⟨hlength, hstore⟩ := List.forall₂_iff_get.1 hall
  obtain ⟨j, hj⟩ := List.getElem?_of_mem (Table.mem_insertColumns (p := (i, c)).2 ⟨hc, hassigned⟩)
  obtain ⟨hlt, hget⟩ := List.getElem?_eq_some_iff.1 hj
  have hlt' : j < params.length := hlength ▸ hlt
  have hcolumn := hstore j hlt hlt'
  simp only [List.get_eq_getElem, hget, hv, Option.getD_some] at hcolumn
  exact ⟨j, params[j], hj, List.getElem?_eq_getElem hlt', hcolumn⟩

/-- What is written for such a column is the stored value of its scalar. -/
theorem insertValues_column {t : Table} {coercion : Coercion} {values : List Scalar} {params : List Native}
    (h : t.insertValues coercion values = .ok params) {i : Nat} {c : Column} {v : Scalar} (hc : t.columns[i]? = some c)
    (hassigned : c.isAssigned = false) (hv : values[i]? = some v) :
    ∃ (j : Nat) (n : Native), t.insertColumns[j]? = some (i, c) ∧ params[j]? = some n ∧
      v.toNative coercion = .ok n := by
  obtain ⟨j, n, hj, hparam, hstore⟩ := insertValues_store h hc hassigned hv
  exact ⟨j, n, hj, hparam, (Column.store_ok hstore).1⟩

/-- A column of a row that a query returns is read by its name. -/
theorem Table.StoredAs.get_column {t : Table} {ts : Tables} {stored : StoredTable} (h : t.StoredAs ts stored)
    {i : Nat} {c : Column} (hc : t.columns[i]? = some c) {values : List Native} {n : Native}
    (hn : values[i]? = some n) (coercion : Coercion) :
    let row : Row := ⟨t.columns.map Column.name, t.shown values, coercion⟩
    row.value? c.name = some n ∧ ∀ kind w, n.toScalar kind = .ok w → w.expectOptional kind = .ok w →
    row.get kind true c.name = .ok w := by
  intro row
  have hdistinct : Sql.Distinct ((t.columns.map Column.name).map id) := by
    rw [List.map_id]
    exact h.distinct
  have hposition : row.position? c.name = some i := by
    refine hdistinct.findIdx? (x := c.name) (by simp [hc]) (fun y hy => ?_) (by simp)
    rw [beq_iff_eq.1 hy]
    exact Sql.sameWord_self _
  have hi : i < t.columns.length := (List.getElem?_eq_some_iff.1 hc).1
  have hvalue : row.values[i]? = some n := by
    simp [row, Table.shown, hi, hn]
  refine ⟨by rw [Row.value?, hposition, Option.bind_some, hvalue], fun kind w hw hoptional => ?_⟩
  simp only [Row.get, hposition, Row.getAt, hvalue, hw, bind, Except.bind, if_true, hoptional, Error.ofCoercion]

/-- An insertion keeps its table stored as it was created. -/
theorem insert_storedAs {t : Table} {stored : StoredTable} {c d : Connection} {values : List Scalar} {number : Int64}
    (h : t.StoredAs c.store.tables stored) (hinsert : Connection.insert t values c = (.ok number, d)) :
    ∃ stored', t.StoredAs d.store.tables stored' := by
  obtain ⟨ts, hinto, rfl⟩ := insert_ok hinsert
  obtain ⟨params, -, hinto⟩ := bind_eq_ok hinto
  obtain ⟨stored', -, hstored', -⟩ := h.insertParams_ok (of_ofEngine hinto)
  exact ⟨stored', hstored'⟩

/-- What is inserted is found and read back, under any settings and whatever else is stored. An insertion that is
accepted has put one row among those that a query of all rows returned before. A query for the value of a column
that is not the key, if it can be compiled at all, returns that row among some of the others; reading the column,
with null allowed, gives the value back; and a key that the store assigns is the number of the row. -/
theorem inserted_row_reads_back {t : Table} {stored : StoredTable} {c d : Connection} {values : List Scalar}
    {number : Int64} (hstored : t.StoredAs c.store.tables stored)
    (hgiven : ∀ (i : Nat) (col : Column) (v : Scalar), t.columns[i]? = some col → values[i]? = some v →
      v.GivenFor col.kind)
    (hinsert : Connection.insert t values c = (.ok number, d)) :
    ∃ before row after,
      (Connection.query (Source.ofTable t).selectAll.toQuery [] c).1 = .ok (before ++ after) ∧
      (Connection.query (Source.ofTable t).selectAll.toQuery [] d).1 = .ok (before ++ row :: after) ∧
      (∀ (i : Nat) (col : Column) (v : Scalar), t.columns[i]? = some col → values[i]? = some v →
        col.primaryKey = false → (∀ b, (t.rowsWith col v).toQuery.statement d.rendering = .ok b →
          ∃ before' after', (Connection.query (t.rowsWith col v).toQuery [] d).1 = .ok (before' ++ row :: after') ∧
            before'.Sublist before ∧ after'.Sublist after) ∧
        ∃ w, row.get col.kind true col.name = .ok w ∧ v.Same w) ∧
      ∀ key ∈ t.columns, key.isAssigned = true → row.value? key.name = some (.integer number) := by
  obtain ⟨ts, hinto, rfl⟩ := insert_ok hinsert
  obtain ⟨params, hparams, hinto⟩ := bind_eq_ok hinto
  obtain ⟨stored', written, hstored', hmore, hlength, hwritten⟩ := hstored.insertParams_ok (of_ofEngine hinto)
  obtain ⟨before, after, hbefore, hafter⟩ := hmore.rows
  let inserted : StoredRow := ⟨number, stored.numbered number written⟩
  let shown (r : StoredRow) : Row := ⟨t.columns.map Column.name, t.shown r.values, c.coercion⟩
  have hcolumn : ∀ (i : Nat) (col : Column) (v : Scalar), t.columns[i]? = some col → values[i]? = some v →
      col.primaryKey = false →
      ∃ n, v.toNative c.coercion = .ok n ∧ Sql.boundValue n = n ∧ inserted.values[i]? = some n := by
    intro i col v hcol hv hkey
    obtain ⟨j, n, hj, hparam, hn⟩ := insertValues_column hparams hcol (by simp [Column.isAssigned, hkey]) hv
    have hbound := (hgiven i col v hcol hv).boundValue_eq hn
    have hvalue := hwritten j i col n hj hparam
    rw [hbound] at hvalue
    have hnumbered := hstored.numbered_column hcol number hvalue
    rw [hkey, Bool.false_and, if_neg Bool.false_ne_true] at hnumbered
    exact ⟨n, hn, hbound, hnumbered⟩
  refine ⟨before.map shown, shown inserted, after.map shown, ?_, ?_, fun i col v hcol hv hkey =>
    ⟨fun b hb => ?_, ?_⟩, ?_⟩
  · rw [query_selectAll hstored]
    simp [Table.rowsOf, StoredTable.test, hbefore, shown]
  · rw [query_selectAll (c := { c with store := { c.store with tables := ts, changes := 1 } }) hstored']
    simp only [Table.rowsOf, StoredTable.test, List.filter_true, hafter, List.map_append, List.map_cons]
    rfl
  · obtain ⟨n, hn, hbound, hvalue⟩ := hcolumn i col v hcol hv hkey
    obtain ⟨m, hm, rfl⟩ := statement_equality (List.mem_of_getElem? hcol) hb
    obtain rfl : n = m := Except.ok.inj (hn.symm.trans hm)
    have hnumeric : (col.primaryKey && col.kind.isInteger) = false := by rw [hkey, Bool.false_and]
    have hholds := holds_equalityTerm (hstored'.find_column hcol) (hstored'.slot hcol) hnumeric hbound hvalue
    rw [query_rowsWith (c := { c with store := { c.store with tables := ts, changes := 1 } }) hstored'
      (List.mem_of_getElem? hcol) hb]
    let test (r : StoredRow) : Bool :=
      stored'.test (some ((equalityTerm col.name n).fill (equalityParams n)).1) r.values
    refine ⟨(before.filter test).map shown, (after.filter test).map shown, ?_, List.filter_sublist.map _,
      List.filter_sublist.map _⟩
    have hinserted : test inserted = true := hholds
    have hfiltered : stored'.rows.filter test = before.filter test ++ inserted :: after.filter test := by
      rw [hafter, List.filter_append, List.filter_cons_of_pos hinserted]
    rw [Table.rowsOf, hfiltered, List.map_append, List.map_cons]
    rfl
  · obtain ⟨n, hn, -, hvalue⟩ := hcolumn i col v hcol hv hkey
    obtain ⟨w, hw, hoptional, hsame⟩ := (hgiven i col v hcol hv).toScalar hn
    exact ⟨w, (hstored.get_column hcol hvalue c.coercion).2 col.kind w hw hoptional, hsame⟩
  · intro key hmem hassigned
    obtain ⟨i, hkey⟩ := List.getElem?_of_mem hmem
    have hi : i < written.length := hlength ▸ (List.getElem?_eq_some_iff.1 hkey).1
    have hnumbered := hstored.numbered_column hkey number (List.getElem?_eq_getElem hi)
    rw [Table.isInteger_of_isAssigned hmem hassigned, if_pos rfl] at hnumbered
    exact (hstored.get_column hkey hnumbered c.coercion).1

/-- A row with a null is inserted after another row. -/
theorem inserted_row_reads_back_null :
    let key : Column :=
      { name := "id", property := "Id", kind := .integer .i64, primaryKey := true, autoIncrement := true }
    let label : Column := { name := "label", property := "Label", kind := .text, nullable := true }
    let t : Table := ⟨"item", [key, label], by decide +kernel⟩
    let created := (Connection.createTable t [] (Connection.open none .inMemory)).2
    let c := (Connection.insert t [.integer .i64 0 (by decide), .text "a"] created).2
    let d := (Connection.insert t [.integer .i64 0 (by decide), .null] c).2
    ∃ before row after before' after', (Connection.query (Source.ofTable t).selectAll.toQuery [] d).1 =
      .ok (before ++ row :: after) ∧
      (Connection.query (t.rowsWith label .null).toQuery [] d).1 = .ok (before' ++ row :: after') ∧
      (∃ w, row.get .text true "label" = .ok w ∧ Scalar.null.Same w) ∧ row.value? "id" = some (.integer 2) := by
  intro key label t created c d
  have hcreated : Database.createTable t.name (t.storedColumns []) (Connection.open none .inMemory).store =
      (.ok (), created.store) :=
    Prod.ext (by decide +kernel) rfl
  have hfirst : Connection.insert t [.integer .i64 0 (by decide), .text "a"] created = (.ok 1, c) :=
    Prod.ext (by decide +kernel) rfl
  have hsecond : Connection.insert t [.integer .i64 0 (by decide), .null] c = (.ok 2, d) :=
    Prod.ext (by decide +kernel) rfl
  obtain ⟨stored, hstored⟩ := insert_storedAs (createTable_storedAs hcreated) hfirst
  have hgiven : ∀ (i : Nat) (col : Column) (v : Scalar), t.columns[i]? = some col →
      [Scalar.integer .i64 0 (by decide), .null][i]? = some v → v.GivenFor col.kind := by
    rintro (_ | _ | i) col v hcol hv
    · obtain rfl := Option.some.inj hcol
      obtain rfl := Option.some.inj hv
      exact ⟨Or.inr rfl, ⟨nofun, nofun⟩, nofun, nofun⟩
    · obtain rfl := Option.some.inj hcol
      obtain rfl := Option.some.inj hv
      exact ⟨Or.inl rfl, ⟨nofun, nofun⟩, nofun, nofun⟩
    · cases hcol
  obtain ⟨before, row, after, -, hall, hcolumns, hkey⟩ :=
    inserted_row_reads_back hstored hgiven hsecond
  obtain ⟨hfound, hread⟩ := hcolumns 1 label .null rfl rfl rfl
  have hcompiled : (t.rowsWith label .null).toQuery.statement d.rendering =
      .ok ⟨.select (t.rowsWhere (some (equalityTerm "label" .null))), []⟩ := by decide +kernel
  obtain ⟨before', after', hrows, -⟩ := hfound _ hcompiled
  exact ⟨before, row, after, before', after', hall, hrows, hread, hkey key List.mem_cons_self rfl⟩

end SqlMapper
