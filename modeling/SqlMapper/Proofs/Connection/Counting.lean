import SqlMapper.Proofs.Connection.Sending
import SqlMapper.Proofs.Query.OneTable
import SqlMapper.Proofs.Sql.Filling

/-!
# Counts of rows

A count is another statement than the query whose rows it counts: it leaves the columns out, with the values of
their places, unless equal rows are to count once; then it has the whole query inside. Either way it can be prepared
when the query can (`Database.prepare_countRows`, `Database.prepare_countOf`), the places that are left take the
values that they take in the query, and the number it gives is that of the rows of the query
(`count_is_number_of_rows`).
-/

namespace SqlMapper

open Sql (Place)

/-! ## Preparing a count -/

/-- A query that passes its check has its tables, and its terms have no fault. -/
theorem Sql.Select.check_ok {q : Sql.Select} {ts : Tables} {f : Frame} (h : q.check ts = .ok f) :
    ∃ r, Sql.Source.relation ts q.source = .ok r ∧ ∀ t ∈ q.terms, t.fault? r.frame = none := by
  obtain ⟨r, hr, h⟩ := bind_eq_ok h
  obtain ⟨⟨⟩, -, h⟩ := bind_eq_ok h
  obtain ⟨⟨⟩, hterms, -⟩ := bind_eq_ok h
  exact ⟨r, hr, Sql.checkTerms_eq_ok.1 hterms⟩

namespace Database

variable {db : Database} {q : Sql.Select}

/-- A query that can be prepared can be sent, and passes its check. -/
theorem prepare_select (h : db.prepare (.select q) = .ok ()) : q.clauses.all isSendable = true ∧
    ∃ f, q.check db.tables = .ok f := by
  have htext : isSendable (Sql.Statement.select q).text = q.clauses.all isSendable := Sql.isSendable_lines q.clauses
  unfold prepare at h
  rw [htext] at h
  cases hsend : q.clauses.all isSendable with
  | false =>
    rw [hsend] at h
    cases h
  | true =>
    rw [hsend] at h
    obtain ⟨f, hf, -⟩ := bind_eq_ok h
    exact ⟨rfl, f, hf⟩

/-- Then its rows can be counted without its columns, -/
theorem prepare_countRows (h : db.prepare (.select q) = .ok ()) {s : Sql.Source} (hs : q.source = some s) :
    db.prepare (.countRows s q.condition) = .ok () := by
  obtain ⟨hsend, f, hf⟩ := prepare_select h
  obtain ⟨r, hr, hterms⟩ := Sql.Select.check_ok hf
  rw [hs] at hr
  have hchecked : checkTerms r.frame (Sql.Source.terms (some s) ++ q.condition.toList) = .ok () := by
    refine Sql.checkTerms_eq_ok.2 fun t ht => hterms t ?_
    simp only [Sql.Select.terms, hs, List.mem_append] at ht ⊢
    rcases ht with ht | ht
    · exact .inl (.inl (.inl ht))
    · exact .inl (.inr ht)
  have hsendable : isSendable (Sql.Statement.countRows s q.condition).text = true := by
    rw [Sql.Select.isSendable_clauses, hs] at hsend
    simp only [Bool.and_eq_true, Option.all_some] at hsend
    have hcount : ["SELECT count(*)"].all isSendable = true := by decide
    refine (Sql.isSendable_lines (["SELECT count(*)"] ++ s.clauses ++ Sql.conditionClause q.condition)).trans ?_
    rw [List.all_append, List.all_append, hcount, hsend.1.1.2, hsend.1.2]
    rfl
  simp only [prepare, hsendable, hr, hchecked, bind, Except.bind]
  rfl

/-- and with them. -/
theorem prepare_countOf (h : db.prepare (.select q) = .ok ()) : db.prepare (.countOf q) = .ok () := by
  obtain ⟨hsend, f, hf⟩ := prepare_select h
  have hsendable : isSendable (Sql.Statement.countOf q).text = true := by
    have hcount : ["SELECT count(*)", "FROM ("].all isSendable = true := by decide
    have hclose : [")"].all isSendable = true := by decide
    refine (Sql.isSendable_lines (["SELECT count(*)", "FROM ("] ++ q.clauses ++ [")"])).trans ?_
    rw [List.all_append, List.all_append, hcount, hsend, hclose]
    rfl
  simp only [prepare, hsendable, hf]
  rfl

end Database

/-! ## Rows of a query -/

/-- A query that neither drops equal rows nor cuts out a page has a row for each row of its source that it keeps. -/
theorem Sql.Select.length_resultRows {q : Sql.Select} (h : q.distinct = false) (hlimit : q.limit = none)
    (hoffset : q.offset = none) (r : Relation) : (q.resultRows r).length = (r.restrict q.condition).rows.length := by
  simp [Sql.Select.resultRows, h, hlimit, hoffset, orderRows]

/-- A query that is run: compiled and prepared, with the values that its places take and the rows of its source. -/
structure Query.IsRun (q : Query) (named : NamedValues) (c : Connection) (select : Bound Sql.Select)
    (values : List Native) (r : Relation) : Prop where
  compiled : q.compile c.rendering = .ok select
  prepared : c.store.prepare (.select select.sql.grouped) = .ok ()
  supplied : Sql.Supplies c.coercion named select.sql.places select.params values
  source : Sql.Source.relation c.store.tables (select.sql.grouped.fill values).1.source = .ok r

/-- A query that returns rows has been run, and they are the rows of its statement. -/
theorem query_ok {c : Connection} {q : Query} {named : NamedValues} {rows : List Row}
    (h : (Connection.query q named c).1 = .ok rows) :
    ∃ select values r, q.IsRun named c select values r ∧
      rows.map Row.values = (select.sql.grouped.fill values).1.resultRows r := by
  cases hselect : q.compile c.rendering with
  | error e =>
    rw [Connection.query, Query.statement, hselect] at h
    cases h
  | ok select =>
    have hstatement : q.statement c.rendering = .ok (select.map .select) := by rw [Query.statement, hselect]; rfl
    have hk : (Clause.paged q).statement? c.rendering .rows = some (.ok (select.map .select)) :=
      congrArg some hstatement
    rw [Connection.query, hstatement] at h
    rcases hsent : Connection.send named (.ok (select.map .select)) c with ⟨e | o, d⟩
    · rw [hsent] at h
      cases h
    · rw [hsent] at h
      obtain ⟨hprepared, values, hvalues, hrun⟩ := send_ok hk hsent
      have hrows := of_ofEngine (Prod.mk.inj hrun).1
      obtain ⟨result, hresult, rfl⟩ : ∃ result, Sql.Select.run (select.sql.grouped.fill values).1
          (c.store.titles (.select select.sql.grouped)) c.store.tables = .ok result ∧ o = .rows result := by
        simp only [Bound.map, Sql.Statement.grouped, Sql.Statement.fill, Database.run] at hrows
        cases hresult : Sql.Select.run (select.sql.grouped.fill values).1 (c.store.titles (.select select.sql.grouped))
            c.store.tables with
        | error e =>
          rw [hresult] at hrows
          cases hrows
        | ok result =>
          rw [hresult] at hrows
          exact ⟨result, rfl, (Except.ok.inj hrows).symm⟩
      obtain ⟨r, hr, hresult⟩ := bind_eq_ok hresult
      obtain rfl := Except.ok.inj hresult
      have hread := of_ofEngine h
      dsimp only [Outcome.toRows] at hread
      split at hread
      · cases hread
      · refine ⟨select, values, r, ⟨hselect, hprepared, hvalues, hr⟩, ?_⟩
        rw [← Except.ok.inj hread, List.map_map]
        exact List.map_id _

/-- A query that is run returns the rows of its statement, or fails when one of their values cannot be read. -/
theorem query_eq_of_isRun {c : Connection} {q : Query} {named : NamedValues} {select : Bound Sql.Select}
    {values : List Native} {r : Relation} (h : q.IsRun named c select values r) :
    Connection.query q named c =
      (if (select.sql.grouped.fill values).1.isDamaged r.frame ((select.sql.grouped.fill values).1.resultRows r) then
        .error (.engine .invalidText)
      else
        .ok (((select.sql.grouped.fill values).1.resultRows r).map fun row =>
          ⟨c.store.titles (.select select.sql.grouped), row, c.coercion⟩), c) := by
  have hstatement : q.statement c.rendering = .ok (select.map .select) := by rw [Query.statement, h.compiled]; rfl
  have hk : (Clause.paged q).statement? c.rendering .rows = some (.ok (select.map .select)) := congrArg some hstatement
  rw [Connection.query, hstatement, send_supplied hk h.prepared h.supplied]
  simp only [Connection.step, Bound.map, Sql.Statement.grouped, Sql.Statement.fill, Database.run, Sql.Select.run,
    h.source, bind, Except.bind, pure, Except.pure, Except.map, Error.ofEngine, Outcome.toRows]
  cases (select.sql.grouped.fill values).1.isDamaged r.frame ((select.sql.grouped.fill values).1.resultRows r) <;> rfl

/-- A query that is run returns the rows of its statement, unless one of their values cannot be read. -/
theorem query_of_isRun {c : Connection} {q : Query} {named : NamedValues} {select : Bound Sql.Select}
    {values : List Native} {r : Relation} (h : q.IsRun named c select values r)
    (hread : (select.sql.grouped.fill values).1.isDamaged r.frame
      ((select.sql.grouped.fill values).1.resultRows r) = false) :
    Connection.query q named c =
      (.ok (((select.sql.grouped.fill values).1.resultRows r).map fun row =>
        ⟨c.store.titles (.select select.sql.grouped), row, c.coercion⟩), c) := by
  rw [query_eq_of_isRun h, hread, if_neg Bool.false_ne_true]

/-! ## The number of rows -/

/-- A count is the statement of a chain. -/
theorem exists_count_statement (s : Selection) (predicate : Option Expr) (r : Rendering) :
    ∃ k : Clause, k.statement? r .count = some (s.countWhere predicate r) := by
  cases predicate with
  | none => exact ⟨.selection s, rfl⟩
  | some p => exact ⟨.filter ⟨s, p⟩, rfl⟩

/-- The columns of a selection have a question mark for each of their values. -/
theorem count_places_projection {s : Selection} {coercion : Coercion} {b : Bound (List Sql.Term)}
    (h : Rendering.projection ⟨.positional, coercion⟩ s = .ok b) :
    (b.sql.flatMap Sql.Term.places).count .anonymous = b.params.length := by
  have halike := projection_alike coercion s
  rw [h] at halike
  generalize Rendering.projection ⟨.inline, coercion⟩ s = inline at halike
  cases halike with
  | ok hagrees => exact (Sql.Fits.flatMap Sql.Term.places (fun _ _ _ h => h.fits) hagrees.2).count

section Counts

variable {c : Connection} {s : Selection} {predicate : Option Expr} {named : NamedValues}

/-- A count whose statement is run to a number gives the number, and leaves the connection as it is. -/
theorem count_of_run {b : Bound Sql.Statement} (hb : s.countWhere predicate c.rendering = .ok b)
    (hprepared : c.store.prepare b.sql.grouped = .ok ()) {values : List Native}
    (hvalues : Sql.Supplies c.coercion named b.sql.places b.params values) {n : Nat}
    (hrun : ∀ titles, Database.run titles (b.sql.grouped.fill values) c.store = (.ok (.ofCount titles n), c.store)) :
    Connection.count s predicate named c = (.ok (Int64.ofNat n).toInt, c) := by
  obtain ⟨k, hk⟩ := exists_count_statement s predicate c.rendering
  rw [hb] at hk
  rw [Connection.count, hb, send_supplied hk hprepared hvalues, Connection.step, hrun]
  rfl

variable {select : Bound Sql.Select} {values : List Native} {r : Relation}

/-- Where equal rows count once, the rows of the query itself are counted. -/
theorem count_distinct (hdistinct : s.distinct = true)
    (h : Query.IsRun { selection := s, predicate } named c select values r) :
    Connection.count s predicate named c =
      (.ok (Int64.ofNat ((select.sql.grouped.fill values).1.resultRows r).length).toInt, c) := by
  have hcount : s.countWhere predicate c.rendering = .ok (select.map .countOf) := by
    rw [Selection.countWhere, if_pos hdistinct, h.compiled]
    rfl
  refine count_of_run hcount (Database.prepare_countOf h.prepared) h.supplied fun titles => ?_
  simp only [Bound.map, Sql.Statement.grouped, Sql.Statement.fill, Database.run, Sql.Select.run, h.source]
  rfl

/-- Otherwise the rows of the source that the query keeps are counted, with the values that its source and condition
take. -/
theorem count_plain (hdistinct : s.distinct = false)
    (h : Query.IsRun { selection := s, predicate } named c select values r) :
    Connection.count s predicate named c =
      (.ok (Int64.ofNat ((select.sql.grouped.fill values).1.resultRows r).length).toInt, c) := by
  have hemitted := (query_compiledTo h.compiled).emitted
  obtain ⟨columns, hcolumns, hselect⟩ := bind_eq_ok h.compiled
  obtain ⟨source, hsource, hselect⟩ := bind_eq_ok hselect
  obtain ⟨condition, hcondition, hselect⟩ := bind_eq_ok hselect
  obtain rfl := Except.ok.inj hselect
  let counted : Bound Sql.Statement := ⟨.countRows source.sql condition.sql, source.params ++ condition.params⟩
  let q : Sql.Select := .ofTerms s.distinct columns.sql source.sql condition.sql [] none none
  have hcount : s.countWhere predicate c.rendering = .ok counted := by
    have hpredicate : Rendering.predicate c.rendering s.scope predicate = .ok condition := hcondition
    rw [Selection.countWhere, hdistinct, if_neg Bool.false_ne_true, hsource]
    simp only [hpredicate]
    rfl
  -- The places of the columns come first, and leave the others their values.
  have hcolumnPlaces : q.columns.flatMap Sql.ResultColumn.places = columns.sql.flatMap Sql.Term.places := by
    simp [q, Sql.Select.ofTerms, List.flatMap_map, Sql.ResultColumn.places]
  have hsupplied : Sql.Supplies c.coercion named (columns.sql.flatMap Sql.Term.places ++ counted.sql.places)
      (columns.params ++ counted.params) values := by
    have hplaces : q.places = columns.sql.flatMap Sql.Term.places ++ counted.sql.places := by
      simp only [Sql.Select.places, hcolumnPlaces]
      simp [q, counted, Sql.Select.ofTerms, Sql.Statement.places]
    have hparams : columns.params ++ counted.params = columns.params ++ source.params ++ condition.params ++ [] := by
      simp [counted]
    rw [← hplaces, hparams]
    exact h.supplied
  have hcounted := hsupplied.split (count_places_projection hcolumns)
  have hgrouped : q.grouped.columns.flatMap Sql.ResultColumn.places = columns.sql.flatMap Sql.Term.places :=
    hemitted.grouped_places_columns.trans hcolumnPlaces
  obtain ⟨source', hsource', hfilled⟩ := Sql.Select.fill_countRows (q := q.grouped) (s := source.sql.grouped) rfl values
  rw [hgrouped] at hfilled
  have hrelation : Sql.Source.relation c.store.tables (some source') = .ok r := by rw [← hsource']; exact h.source
  have hrows : ((q.grouped.fill values).1.resultRows r).length =
      (r.restrict (q.grouped.fill values).1.condition).rows.length :=
    Sql.Select.length_resultRows hdistinct rfl rfl r
  refine count_of_run hcount (Database.prepare_countRows h.prepared rfl) hcounted fun titles => ?_
  have hstatement : counted.sql.grouped = .countRows source.sql.grouped q.grouped.condition := rfl
  rw [hstatement, hfilled]
  simp only [Database.run, hrelation]
  exact congrArg (fun n => (Except.ok (Outcome.ofCount titles n), c.store)) hrows.symm

end Counts

/-- Wherever a query without an order and without a page returns rows, the count of the same chain returns their
number, whatever is joined, selected and filtered, and leaves the connection as it is. The engine counts in 64
bits. -/
theorem count_is_number_of_rows {c : Connection} {s : Selection} {predicate : Option Expr} {named : NamedValues}
    {rows : List Row} (h : (Connection.query { selection := s, predicate } named c).1 = .ok rows) :
    Connection.count s predicate named c = (.ok (Int64.ofNat rows.length).toInt, c) ∧
      (rows.length < 2 ^ 63 → Connection.count s predicate named c = (.ok rows.length, c)) := by
  obtain ⟨select, values, r, hrun, hrows⟩ := query_ok h
  have hlength : ((select.sql.grouped.fill values).1.resultRows r).length = rows.length := by
    rw [← hrows, List.length_map]
  have hcount : Connection.count s predicate named c = (.ok (Int64.ofNat rows.length).toInt, c) := by
    rw [← hlength]
    cases hdistinct : s.distinct with
    | true => exact count_distinct hdistinct hrun
    | false => exact count_plain hdistinct hrun
  refine ⟨hcount, fun hbound => ?_⟩
  have hnumber := Int64.toInt_ofNat_of_lt hbound
  rwa [hnumber] at hcount

/-- Of the three joined rows that the predicate keeps two are the same in the column; the name stands for the
largest value. -/
theorem count_is_number_of_rows_distinct :
    let t : Table := ⟨"t", [{ name := "a", property := "a", kind := .integer .i64 }], by decide +kernel⟩
    let u : Table := ⟨"u", [{ name := "b", property := "b", kind := .integer .i64 }], by decide +kernel⟩
    let stored : StoredTable := ⟨"t", [⟨"a", false, false⟩], [⟨1, [.integer 2]⟩, ⟨2, [.integer 1]⟩, ⟨3, [.integer 9]⟩]⟩
    let other : StoredTable := ⟨"u", [⟨"b", false, false⟩], [⟨1, [.integer 2]⟩, ⟨2, [.integer 2]⟩]⟩
    let c : Connection := Session.idle .counter ⟨[stored, other], [], 0, none, {}⟩
    let a : Expr := .column ⟨some "t", "a"⟩
    let s := ((Source.ofTable t).join .left u (a.eq (.column ⟨some "u", "b"⟩))).selectDistinct
      [.binary .concat a (.constant (.text "x"))]
    let predicate := some (a.le (.parameter "most"))
    let named : NamedValues := [("most", .integer .i64 5 (by decide))]
    ∃ rows, (Connection.query { selection := s, predicate } named c).1 = .ok rows ∧ rows.length = 2 ∧
      Connection.count s predicate named c = (.ok 2, c) := by
  intro t u stored other c a s predicate named
  let title := Sql.Term.paren (.binary .concat (.column (some "t") "a") (.constant .placeholder))
  let on := Sql.Term.paren (.binary .eq (.column (some "t") "a") (.column (some "u") "b"))
  let most := Sql.Term.paren (.binary .le (.column (some "t") "a") (.parameter "most"))
  let select : Bound Sql.Select :=
    ⟨.ofTerms true [title] ⟨"t", [⟨.left, "u", on⟩]⟩ (some most) [] none none, [.text "x"]⟩
  have hcompiled : Query.compile { selection := s, predicate } c.rendering = .ok select := by decide +kernel
  have hplaces : select.sql.places = [.anonymous, .named ':' "most"] := by decide +kernel
  have hsupplied : Sql.Supplies c.coercion named select.sql.places select.params [.text "x", .integer 5] := by
    rw [hplaces]
    exact ⟨.cons (.anonymous _) (.cons (.named ':' rfl rfl) .nil), rfl⟩
  let filled := (select.sql.grouped.fill [.text "x", .integer 5]).1
  let r : Relation := ⟨[⟨"t", "a", false⟩, ⟨"u", "b", false⟩],
    [[.integer 2, .integer 2], [.integer 2, .integer 2], [.integer 1, .null], [.integer 9, .null]]⟩
  have hsource : Sql.Source.relation c.store.tables filled.source = .ok r := by
    have hparts : ((Sql.Source.relation c.store.tables filled.source).toOption.map fun r => (r.frame, r.rows)) =
        some (r.frame, r.rows) := by decide +kernel
    generalize Sql.Source.relation c.store.tables filled.source = result at hparts
    cases result with
    | error e => cases hparts
    | ok found =>
      obtain ⟨hframe, hrows⟩ := Prod.mk.inj (Option.some.inj hparts)
      exact congrArg Except.ok (congrArg₂ Relation.mk hframe hrows)
  have hrun : Query.IsRun { selection := s, predicate } named c select [.text "x", .integer 5] r :=
    ⟨hcompiled, by decide +kernel, hsupplied, hsource⟩
  have hrows : filled.resultRows r = [[.text "2x"], [.text "1x"]] := by
    refine (Sql.Select.resultRows_unordered (by decide +kernel) rfl rfl r).trans ?_
    decide +kernel
  have hread : filled.isDamaged r.frame (filled.resultRows r) = false := by
    rw [hrows]
    decide +kernel
  have hquery := congrArg Prod.fst (query_of_isRun hrun hread)
  rw [hrows] at hquery
  exact ⟨_, hquery, rfl, (count_is_number_of_rows hquery).2 (by decide)⟩

end SqlMapper
