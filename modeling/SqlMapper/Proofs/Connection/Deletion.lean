import SqlMapper.Proofs.Connection.Counting
import SqlMapper.Proofs.Query.Scopes

/-!
# Rows that are deleted

The deletion of the rows of a filter is written apart from the query for them: it keeps the predicate and its
values, and leaves the columns out with theirs. It succeeds exactly when it can be prepared and its places have
their values (`Filter.IsRun`), and then the query for all columns under the same predicates returns the rows that it
removes (`delete_removes_filtered_rows`).
-/

namespace SqlMapper

/-! ## Filters on one table -/

/-- The rows of a selection for which one predicate after another holds. -/
def Selection.whereAll (s : Selection) (p : Expr) (ps : List Expr) : Filter := ps.foldl Filter.where (s.where p)

/-- Predicates one after another are one predicate. -/
theorem whereAll_eq (s : Selection) (p : Expr) (ps : List Expr) : s.whereAll p ps = s.where (ps.foldl Expr.and p) := by
  unfold Selection.whereAll
  induction ps generalizing p with
  | nil => rfl
  | cons q ps ih => exact ih (p.and q)

/-! ## Deletions that are run -/

/-- A deletion can be prepared when its table is there, its condition has no fault, and both can be sent. -/
theorem Database.prepare_delete {db : Database} {name : String} {condition : Sql.Term} :
    db.prepare (.delete name (some condition)) = .ok () ↔
      (isSendable (quoteIdentifier name) = true ∧ isSendable condition.text = true) ∧
        ∃ stored, db.tables.find name = .ok stored ∧ condition.fault? stored.frame = none := by
  have htext : isSendable (Sql.Statement.delete name (some condition)).text =
      (isSendable (quoteIdentifier name) && isSendable condition.text) := by
    have hfrom : isSendable "DELETE FROM " = true := by decide
    have hwhere : isSendable "WHERE " = true := by decide
    refine (Sql.isSendable_lines ["DELETE FROM " ++ quoteIdentifier name, "WHERE " ++ condition.text]).trans ?_
    simp [isSendable_append_eq, hfrom, hwhere]
  unfold prepare
  rw [htext, ← Bool.and_eq_true]
  cases isSendable (quoteIdentifier name) && isSendable condition.text with
  | false => exact iff_of_false (fun h => nomatch h) fun h => nomatch h.1
  | true =>
    refine ⟨fun h => ⟨rfl, ?_⟩, fun h => ?_⟩
    · obtain ⟨stored, hstored, hchecked⟩ := bind_eq_ok h
      exact ⟨stored, hstored, Sql.checkTerms_eq_ok.1 hchecked condition (List.mem_singleton_self _)⟩
    · obtain ⟨-, stored, hstored, hfault⟩ := h
      have hchecked : checkTerms stored.frame [condition] = .ok () := Sql.checkTerms_eq_ok.2 (by simpa using hfault)
      simp only [hstored, bind, Except.bind, Option.toList_some, hchecked]
      rfl

/-- A deletion that is run: its predicate compiled, with the values that its places take, and the stored table found
that it is on. -/
structure Filter.IsRun (f : Filter) (named : NamedValues) (c : Connection) (b : Bound Sql.Term) (values : List Native)
    (stored : StoredTable) : Prop where
  compiled : (c.rendering.compiler f.selection.scope).compile f.predicate = .ok b
  supplied : Sql.Supplies c.coercion named b.sql.places b.params values
  found : c.store.tables.find f.selection.source.table.name = .ok stored
  fault : b.sql.grouped.fault? stored.frame = none
  sendable : isSendable (quoteIdentifier f.selection.source.table.name) = true ∧ isSendable b.sql.grouped.text = true

/-- The connection after the rows of a stored table are removed for which a test holds. -/
def Connection.without (c : Connection) (stored : StoredTable) (test : StoredRow → Bool) : Connection :=
  { c with store :=
    { c.store with
      tables := c.store.tables.replace { stored with rows := stored.rows.filter fun r => !test r }
      changes := (stored.rows.filter test).length } }

section Deletions

variable {c d : Connection} {f : Filter} {named : NamedValues} {b : Bound Sql.Term} {values : List Native}
    {stored : StoredTable}

/-- Such a deletion removes the rows for which its condition holds, and counts them. -/
theorem delete_of_isRun (hsource : f.selection.source.joins = []) (h : f.IsRun named c b values stored) :
    let test (r : StoredRow) : Bool := (b.sql.grouped.fill values).1.holds stored.frame r.values
    Connection.delete f named c = (.ok (stored.rows.filter test).length, c.without stored test) := by
  intro test
  let name := f.selection.source.table.name
  have hstatement : f.deleteStatement c.rendering = .ok (b.map fun x => .delete name (some x)) := by
    rw [deleteStatement_single hsource, h.compiled]
    rfl
  have hk : (Clause.filter f).statement? c.rendering .deletion = some (.ok (b.map fun x => .delete name (some x))) :=
    congrArg some hstatement
  have hprepared : c.store.prepare (.delete name (some b.sql.grouped)) = .ok () :=
    Database.prepare_delete.2 ⟨h.sendable, stored, h.found, h.fault⟩
  have hfault : (b.sql.grouped.fill values).1.fault? stored.frame = none := by rw [Sql.Term.fault?_fill, h.fault]
  have hdeleted := Tables.delete_eq h.found hfault
  rw [Connection.delete, hstatement, send_supplied hk hprepared h.supplied]
  simp only [Connection.step, Bound.map, Sql.Statement.grouped, Option.map_some, Sql.Statement.fill,
    Sql.fillOptional, Database.run, Database.change, hdeleted, name]
  rfl

/-- A deletion that succeeds is run. -/
theorem isRun_of_delete (hsource : f.selection.source.joins = []) {n : Nat}
    (h : Connection.delete f named c = (.ok n, d)) :
    ∃ b values stored, f.IsRun named c b values stored := by
  cases hb : (c.rendering.compiler f.selection.scope).compile f.predicate with
  | error e =>
    rw [Connection.delete, deleteStatement_single hsource, hb] at h
    cases h
  | ok b =>
    have hstatement := deleteStatement_single hsource c.rendering
    rw [hb] at hstatement
    rw [Connection.delete, hstatement] at h
    have hk : (Clause.filter f).statement? c.rendering .deletion = _ := congrArg some hstatement
    generalize hsent : Connection.send named _ c = sent at h
    obtain ⟨e | o, d'⟩ := sent
    · cases h
    · obtain ⟨hprepared, values, hvalues, -⟩ := send_ok hk hsent
      obtain ⟨hsendable, stored, hfound, hfault⟩ := Database.prepare_delete.1 hprepared
      exact ⟨b, values, stored, hb, hvalues, hfound, hfault, hsendable⟩

/-! ## The rows that are deleted -/

theorem compiled_selectAll {t : Table} (hsource : f.selection.source = .ofTable t)
    (h : f.IsRun named c b values stored) :
    ((Source.ofTable t).selectAll.where f.predicate).toQuery.compile c.rendering =
      .ok ⟨t.rowsWhere (some b.sql), b.params⟩ := by
  have hscope : f.selection.scope = .single t := by rw [Selection.scope, hsource]; rfl
  have hcompiled := h.compiled
  rw [hscope] at hcompiled
  rw [compile_where, hcompiled]
  rfl

/-- The query for all columns under the same predicate returns the rows that the deletion removes, if it returns any. -/
theorem rows_selectAll {t : Table} (hsource : f.selection.source = .ofTable t) (h : f.IsRun named c b values stored)
    {rows : List Row}
    (hrows : (Connection.query ((Source.ofTable t).selectAll.where f.predicate).toQuery named c).1 = .ok rows) :
    rows.map Row.values =
      (stored.rows.filter fun r => (b.sql.grouped.fill values).1.holds stored.frame r.values).map
        fun r => t.valuesIn stored.frame r.values := by
  obtain ⟨select, values', r, hrun, hresult⟩ := query_ok hrows
  obtain rfl := Except.ok.inj (hrun.compiled.symm.trans (compiled_selectAll hsource h))
  have hsupplied := hrun.supplied
  rw [places_rowsWhere] at hsupplied
  obtain rfl := hsupplied.unique h.supplied
  have hfound : c.store.tables.find t.name = .ok stored :=
    (congrArg (fun s : Source => c.store.tables.find s.table.name) hsource).symm.trans h.found
  have hrelation := hrun.source
  rw [grouped_rowsWhere, fill_rowsWhere, source_rowsWhere, relation_single hfound] at hrelation
  obtain rfl := Except.ok.inj hrelation
  rw [hresult, grouped_rowsWhere, fill_rowsWhere, resultRows_rowsWhere]
  rfl

/-- It does where the table can be asked for. -/
theorem query_selectAll_of_isRun {t : Table} (hsource : f.selection.source = .ofTable t)
    (h : f.IsRun named c b values stored) (hknown : t.KnownAs c.store.tables stored) :
    ∃ rows, (Connection.query ((Source.ofTable t).selectAll.where f.predicate).toQuery named c).1 = .ok rows := by
  have hrun : Query.IsRun ((Source.ofTable t).selectAll.where f.predicate).toQuery named c
      ⟨t.rowsWhere (some b.sql), b.params⟩ values
      stored.relation := by
    refine ⟨compiled_selectAll hsource h, ?_, ?_, ?_⟩
    · rw [grouped_rowsWhere]
      refine hknown.prepare_rowsWhere fun x hx => ?_
      obtain rfl := Option.some.inj hx
      exact ⟨h.fault, h.sendable.2⟩
    · rw [places_rowsWhere]
      exact h.supplied
    · rw [grouped_rowsWhere, fill_rowsWhere, source_rowsWhere, relation_single hknown.found]
  have hread : (((t.rowsWhere (some b.sql)).grouped.fill values).1).isDamaged stored.relation.frame
      (((t.rowsWhere (some b.sql)).grouped.fill values).1.resultRows stored.relation) = false := by
    rw [grouped_rowsWhere, fill_rowsWhere, isDamaged_rowsWhere]
  exact ⟨_, congrArg Prod.fst (query_of_isRun hrun hread)⟩

/-- Run again on what it has left, a deletion removes nothing. -/
theorem delete_again (hsource : f.selection.source.joins = []) (h : f.IsRun named c b values stored) :
    let test (r : StoredRow) : Bool := (b.sql.grouped.fill values).1.holds stored.frame r.values
    let d := c.without stored test
    Connection.delete f named d = (.ok 0, { d with store := { d.store with changes := 0 } }) := by
  intro test d
  let kept : StoredTable := { stored with rows := stored.rows.filter fun r => !test r }
  have hagain : f.IsRun named d b values kept :=
    ⟨h.compiled, h.supplied, Tables.find_replace h.found rfl, h.fault, h.sendable⟩
  have hnone : kept.rows.filter test = [] := by
    simp only [kept, List.filter_filter, Bool.and_not_self, List.filter_false]
  have hkept : kept.rows.filter (fun r => !test r) = kept.rows := by
    simp only [kept, List.filter_filter, Bool.and_self]
  have hdelete : Connection.delete f named d = (.ok (kept.rows.filter test).length, d.without kept test) :=
    delete_of_isRun hsource hagain
  have hwithout : d.without kept test = { d with store := { d.store with changes := 0 } } := by
    have htables : d.store.tables.replace kept = d.store.tables := Tables.replace_replace c.store.tables kept
    simp only [Connection.without, hnone, hkept, List.length_nil]
    rw [htables]
  rw [hnone, hwithout] at hdelete
  exact hdelete

end Deletions

/-- Deleting the rows of a filter on one table, whatever is selected and however many predicates there are, removes
the rows for which the predicates hold and nothing else, and returns their number. The query for all columns of the
table under the same predicates returns just these rows, and it does so wherever the table has the columns. Other
tables stay as they are, and there is nothing left for a second deletion. From joined tables nothing can be deleted:
there is no statement to send. -/
theorem delete_removes_filtered_rows (c : Connection) (s : Selection) (p : Expr) (ps : List Expr)
    (named : NamedValues) :
    let t := s.source.table
    let f := s.whereAll p ps
    let all := ((Source.ofTable t).selectAll.whereAll p ps).toQuery
    (s.source.joins = [] → ∀ n d, Connection.delete f named c = (.ok n, d) →
      ∃ b values stored, f.IsRun named c b values stored ∧
      let test (r : StoredRow) : Bool := (b.sql.grouped.fill values).1.holds stored.frame r.values
      n = (stored.rows.filter test).length ∧ d = c.without stored test ∧
        (∀ rows, (Connection.query all named c).1 = .ok rows →
          rows.map Row.values = (stored.rows.filter test).map fun r => t.valuesIn stored.frame r.values) ∧
        (t.KnownAs c.store.tables stored → ∃ rows, (Connection.query all named c).1 = .ok rows) ∧
        (∀ name, Sql.sameWord t.name name = false → d.store.tables.find name = c.store.tables.find name) ∧
        Connection.delete f named d = (.ok 0, { d with store := { d.store with changes := 0 } })) ∧
    (s.source.joins ≠ [] → ∃ e : Error, e.code = "InvalidOperation" ∧ (∀ r, f.deleteStatement r = .error e) ∧
      Connection.delete f named c = (.error e, c)) := by
  intro t f all
  have hf : f = s.where (ps.foldl Expr.and p) := whereAll_eq s p ps
  have hall : all = ((Source.ofTable t).selectAll.where f.predicate).toQuery := by
    rw [hf]
    exact congrArg Filter.toQuery (whereAll_eq _ p ps)
  have hselection : f.selection = s := by rw [hf]; rfl
  refine ⟨fun hjoins n d hdelete => ?_, fun hjoins => ⟨_, rfl, deleteStatement_joined (hselection ▸ hjoins), ?_⟩⟩
  · have hsingle : f.selection.source.joins = [] := hselection ▸ hjoins
    have hsource : f.selection.source = .ofTable t := by
      rw [hselection]
      show s.source = ⟨s.source.table, []⟩
      rw [← hjoins]
    obtain ⟨b, values, stored, hrun⟩ := isRun_of_delete hsingle hdelete
    obtain ⟨hn, rfl⟩ := Prod.mk.inj (hdelete.symm.trans (delete_of_isRun hsingle hrun))
    refine ⟨b, values, stored, hrun, Except.ok.inj hn, rfl, ?_, ?_, fun name hname => ?_, delete_again hsingle hrun⟩
    · rw [hall]
      exact fun rows hrows => rows_selectAll hsource hrun hrows
    · rw [hall]
      exact query_selectAll_of_isRun hsource hrun
    · have hfound : c.store.tables.find t.name = .ok stored :=
        (congrArg (fun s : Source => c.store.tables.find s.table.name) hsource).symm.trans hrun.found
      have hsame : Sql.sameWord stored.name t.name = true :=
        List.find?_some (p := fun u : StoredTable => Sql.sameWord u.name t.name) (Tables.find_ok hfound)
      exact Tables.find_replace_of_ne _ ((Sql.sameWord_congr hsame name).trans hname)
  · rw [Connection.delete, deleteStatement_joined (hselection ▸ hjoins)]
    rfl

/-- Two predicates leave one of three rows to delete; from the table joined to itself nothing can be deleted. -/
theorem delete_removes_filtered_rows_between :
    let t : Table := ⟨"t", [{ name := "a", property := "a", kind := .integer .i64 }], by decide⟩
    let stored : StoredTable := ⟨"t", [⟨"a", false, false⟩], [⟨1, [.integer 1]⟩, ⟨2, [.integer 2]⟩, ⟨3, [.integer 3]⟩]⟩
    let c : Connection := Session.idle .counter ⟨[stored], [], 0, none, {}⟩
    let a : Expr := .column ⟨none, "a"⟩
    let p := a.ge (.parameter "least")
    let ps := [a.ne (.constant (.integer .i64 3 (by decide)))]
    let named : NamedValues := [("least", .integer .i64 2 (by decide))]
    let f := ((Source.ofTable t).selectDistinct [.binary .concat a (.constant (.text "x"))]).whereAll p ps
    let joined := ((Source.ofTable t).join .inner t (.constant (.bool true))).selectAll.whereAll p ps
    (∃ d rows, Connection.delete f named c = (.ok 1, d) ∧
      (Connection.query ((Source.ofTable t).selectAll.whereAll p ps).toQuery named c).1 = .ok rows ∧ rows.length = 1 ∧
      (Connection.delete f named d).1 = .ok 0) ∧
      ∃ e : Error, e.code = "InvalidOperation" ∧ Connection.delete joined named c = (.error e, c) := by
  intro t stored c a p ps named f joined
  have hfirst : (Connection.delete f named c).1 = .ok 1 := by decide +kernel
  rcases hdelete : Connection.delete f named c with ⟨_, d⟩
  rw [hdelete] at hfirst
  obtain rfl := hfirst
  obtain ⟨b, values, found, hrun, hcount, -, hrows, hknown, -, hagain⟩ :=
    (delete_removes_filtered_rows c
      ((Source.ofTable t).selectDistinct [.binary .concat a (.constant (.text "x"))]) p ps named).1 rfl
      1 d hdelete
  obtain ⟨e, hcode, -, hfails⟩ := (delete_removes_filtered_rows c
    ((Source.ofTable t).join .inner t (.constant (.bool true))).selectAll p ps named).2 (List.cons_ne_nil _ _)
  have hstored : c.store.tables.find t.name = .ok stored := by decide +kernel
  obtain rfl : found = stored := Except.ok.inj (hrun.found.symm.trans hstored)
  obtain ⟨rows, hquery⟩ := hknown ⟨hstored, by decide +kernel, by decide +kernel⟩
  have hlength := congrArg List.length (hrows rows hquery)
  rw [List.length_map, List.length_map, ← hcount] at hlength
  exact ⟨⟨d, rows, rfl, hquery, hlength, congrArg Prod.fst hagain⟩, e, hcode, hfails⟩

end SqlMapper
