import SqlMapper.Proofs.Connection.Binding
import SqlMapper.Proofs.Query.Ordinals
import SqlMapper.Proofs.Query.Rereading
import SqlMapper.Proofs.Query.Styles

/-!
# Constants written out and constants bound are run alike

The text of a chain with its constants written out and the text with its constants bound, run with their values,
return the same rows in the same order (`inline_and_bound_run_alike`), unless the two texts do not say the same:
where a key of the order is a small integer, which stands for a result column as soon as it is written out
(`inline_and_bound_run_alike_not_ordinals`), or where the text that is written out holds a null character.
-/

namespace SqlMapper

open Sql (Place parametersFrom)

/-! ## Two runs -/

/-- Two runs of a statement that give the same but for the titles of rows, or that both fail. The database is the
same after both. -/
inductive RunsAlike : Except EngineError Outcome × Database → Except EngineError Outcome × Database → Prop where
  | ok {o o' : Outcome} (h : o.untitled = o'.untitled) (db : Database) : RunsAlike (.ok o, db) (.ok o', db)
  | error (e e' : EngineError) (db : Database) : RunsAlike (.error e, db) (.error e', db)

theorem RunsAlike.of_eq {x y : Except EngineError Outcome × Database}
    (h : (x.1.map Outcome.untitled, x.2) = (y.1.map Outcome.untitled, y.2)) : RunsAlike x y := by
  obtain ⟨r, db⟩ := x
  obtain ⟨r', db'⟩ := y
  obtain ⟨hr, rfl⟩ := Prod.mk.inj h
  cases r with
  | error e =>
    cases r' with
    | error e' => exact .error e e' db
    | ok o' => cases hr
  | ok o =>
    cases r' with
    | error e' => cases hr
    | ok o' => exact .ok (Except.ok.inj hr) db

/-- What runs alike returns the same rows. -/
theorem RunsAlike.rows_eq {x y : Except EngineError Outcome × Database} (h : RunsAlike x y) {r r' : ResultSet}
    (hx : x.1 = .ok (.rows r)) (hy : y.1 = .ok (.rows r')) : r.rows = r'.rows := by
  cases h with
  | error e e' db => cases hx
  | ok h db =>
    cases hx
    cases hy
    simp only [Outcome.untitled, Outcome.rows.injEq, ResultSet.mk.injEq] at h
    exact h.2.1

/-! ## Statements -/

namespace Sql.Statement

theorem places_untitled (s : Statement) : s.untitled.places = s.places := by
  have hcolumns : ∀ q : Select, q.untitled.places = q.places := by
    intro q
    have hcolumn : ∀ c : ResultColumn, c.untitled.places = c.places := by
      intro c
      cases c <;> rfl
    simp [Select.untitled, Select.places, List.flatMap_map, hcolumn]
  cases s <;> simp [untitled, places, hcolumns]

end Sql.Statement

namespace Database

/-- What a query returns that is read off a text and filled with values. -/
theorem executeText_select (db : Database) {text : String} {q filled : Sql.Select} {values : List Native} {r : Relation}
    (hread : Sql.readBatch text = [.ok (.select q)]) (hprepare : db.prepare (.select q) = .ok ())
    (hcount : values.length = (Sql.Statement.select q).parameters.length)
    (hbind : (Sql.Statement.select q).bind values = .select filled)
    (hsource : Sql.Source.relation db.tables filled.source = .ok r) :
    ∃ result, (db.executeText text values).1 = .ok (.rows result) ∧ result.rows = filled.resultRows r := by
  refine ⟨⟨db.titles (.select q), filled.resultRows r, filled.isDamaged r.frame (filled.resultRows r)⟩, ?_, rfl⟩
  simp only [Database.executeText, hread, Database.execute, hprepare, if_pos hcount, hbind, Database.run,
    Sql.Select.run, hsource]
  rfl

/-- With too few values or too many a statement is not run. -/
theorem execute_miscounted {s : Sql.Statement} {values : List Native} (h : values.length ≠ s.parameters.length)
    (db : Database) :
    ∃ e, Database.execute s values db = (.error e, db) := by
  unfold Database.execute
  cases db.prepare s with
  | error e => exact ⟨e, rfl⟩
  | ok _ => exact ⟨_, if_neg h⟩

end Database

section Reading

variable {i b : Bound Sql.Statement} {inline bound : Sql.Statement}

/-- Without names the statements that are read are run alike. -/
theorem execute_alike_of_anonymous (hfills : b.sql.Fills b.params i.sql)
    (hanonymous : ∀ p ∈ b.sql.places, p = .anonymous) (hvalues : ∀ v ∈ b.params, v.ReadsBack)
    (hnumbers : ∀ k ∈ i.sql.order, k.term.grouped.number? = none)
    (hinline : inline.untitled = i.sql.grouped.untitled) (hbound : bound.untitled = b.sql.grouped.untitled)
    (hiplaces : inline.places = i.sql.places) (hbplaces : bound.places = b.sql.places)
    (hisend : isSendable inline.text = true) (hbsend : isSendable bound.text = true) (db : Database) :
    RunsAlike (Database.execute inline [] db) (Database.execute bound b.params db) := by
  have hnone : inline.places = [] := by
    rw [hiplaces, hfills.fits.left, List.filter_eq_nil_iff]
    intro p hp
    simp [hanonymous p hp]
  have hlength : b.params.length = b.sql.places.length := by
    rw [← hfills.fits.count, List.count_eq_length.2 fun p hp => (hanonymous p hp).symm]
  have hself : inline.bind [] = inline := Sql.Statement.fill_of_places_eq_nil hnone _
  have hfilled : (bound.bind b.params).untitled = inline.untitled :=
    calc (bound.bind b.params).untitled
        = (bound.fill b.params).untitled := by
          rw [Sql.Statement.bind, hbplaces, Sql.arrange_of_anonymous hanonymous hlength]
      _ = b.sql.grouped.untitled.fill b.params := by rw [← Sql.Statement.fill_untitled, hbound]
      _ = i.sql.grouped.untitled := hfills.fill_grouped hanonymous hvalues hnumbers
      _ = inline.untitled := hinline.symm
  have houtline : inline.outline = bound.outline :=
    calc inline.outline
        = (bound.bind b.params).outline := by
          rw [← Sql.Statement.outline_untitled, ← hfilled, Sql.Statement.outline_untitled]
      _ = bound.outline := bound.outline_fill _
  have hprepare := Database.prepare_congr houtline hisend hbsend db
  have hinlineCount : inline.parameters.length = 0 := by
    rw [Sql.Statement.parameters, hnone]
    rfl
  have hboundCount : bound.parameters.length = b.params.length := by
    rw [Sql.Statement.parameters, hbplaces, Sql.parametersFrom_of_anonymous hanonymous, List.nil_append,
      List.length_map, hlength]
  unfold Database.execute
  rw [hprepare]
  cases db.prepare bound with
  | error e => exact .error e e db
  | ok _ =>
    simp only [hinlineCount, hboundCount, List.length_nil, if_true, hself]
    exact .of_eq (Database.run_congr hfilled.symm _ _ db)

/-- With a name in them there are not enough values for either. -/
theorem execute_alike_of_named (hfills : b.sql.Fills b.params i.sql) {p : Place} (hp : p ∈ b.sql.places)
    (hnamed : p ≠ .anonymous) (hiplaces : inline.places = i.sql.places) (hbplaces : bound.places = b.sql.places)
    (db : Database) :
    RunsAlike (Database.execute inline [] db) (Database.execute bound b.params db) := by
  have hileft : ∀ q ∈ i.sql.places, q ∈ b.sql.places := by
    intro q hq
    rw [hfills.fits.left] at hq
    exact (List.mem_filter.1 hq).1
  have himem : p ∈ i.sql.places := by
    rw [hfills.fits.left]
    exact List.mem_filter.2 ⟨hp, by simpa using hnamed⟩
  have hinlineCount : ([] : List Native).length ≠ inline.parameters.length := by
    have hparameter := Sql.mem_parametersFrom (fun q hq => hfills.unnumbered q (hileft q hq)) [] himem
    rw [Sql.Statement.parameters, hiplaces, List.length_map]
    exact Nat.ne_of_lt (List.length_pos_of_mem hparameter)
  have hboundCount : b.params.length ≠ bound.parameters.length := by
    have hparameter := Sql.mem_parametersFrom hfills.unnumbered [] hp
    rw [Sql.Statement.parameters, hbplaces, List.length_map, ← hfills.count_parameters]
    intro hall
    exact hnamed (List.count_eq_length.1 hall p hparameter).symm
  obtain ⟨e, he⟩ := Database.execute_miscounted hinlineCount db
  obtain ⟨e', he'⟩ := Database.execute_miscounted hboundCount db
  rw [he, he']
  exact .error e e' db

end Reading

/-- A chain with its constants written out and with its constants bound is refused with the same error, or it
becomes two texts of which the first takes no values. Run on the same database, the second with its values, they
return the same rows in the same order, titles aside, or both fail. -/
theorem inline_and_bound_run_alike {steps : List ChainStep} {k : Clause} (hk : Clause.ofChain steps = some k)
    (coercion : Coercion) (hkeys : k.NoOrdinals coercion) (p : Clause.Purpose) (db : Database) :
    Option.Rel (Alike fun i b => i.params = [] ∧ (isSendable i.text = true → (∀ v ∈ b.params, v.ReadsBack) →
      RunsAlike (db.executeText i.text []) (db.executeText b.text b.params)))
      (k.render? ⟨.inline, coercion⟩ p) (k.render? ⟨.positional, coercion⟩ p) := by
  have halike := k.statement_alike coercion p
  rw [k.render?_eq, k.render?_eq]
  generalize hi : k.statement? ⟨.inline, coercion⟩ p = inline at halike
  generalize hb : k.statement? ⟨.positional, coercion⟩ p = bound at halike
  cases halike with
  | none => exact .none
  | some halike =>
    refine .some ?_
    cases halike with
    | error e => exact .error e
    | @ok i b hagrees =>
      obtain ⟨hparams, hfills⟩ := hagrees
      refine .ok ⟨hparams, fun hsend hvalues => ?_⟩
      have hpaged := Clause.isPaged_of_ofChain hk
      have hbsend := hfills.text.isSendable_text hsend
      obtain ⟨inline, hiread, hinline, hisend⟩ := Clause.readBatch_text hi hpaged hsend
      obtain ⟨bound, hbread, hbound, hbsend⟩ := Clause.readBatch_text hb hpaged hbsend
      have hiplaces : inline.places = i.sql.places := by
        rw [← inline.places_untitled, hinline, Sql.Statement.places_untitled,
          (Clause.statement?_emitted hi).1.grouped_places]
      have hbplaces : bound.places = b.sql.places := by
        rw [← bound.places_untitled, hbound, Sql.Statement.places_untitled,
          (Clause.statement?_emitted hb).1.grouped_places]
      have hnumbers := Clause.number?_of_key hkeys hi hfills hvalues
      simp only [Bound.toText, Database.executeText, hiread, hbread]
      by_cases hnamed : ∃ q ∈ b.sql.places, q ≠ .anonymous
      · obtain ⟨q, hq, hne⟩ := hnamed
        exact execute_alike_of_named hfills hq hne hiplaces hbplaces db
      · have hanonymous : ∀ q ∈ b.sql.places, q = .anonymous := by
          intro q hq
          by_contra hne
          exact hnamed ⟨q, hq, hne⟩
        exact execute_alike_of_anonymous hfills hanonymous hvalues hnumbers hinline hbound hiplaces hbplaces
          hisend hbsend db

/-- A condition on a constant, the rows sorted by a column. -/
theorem inline_and_bound_run_alike_ordered :
    let t : Table := ⟨"t", [{ name := "a", property := "a", kind := .integer .i64 }], by decide⟩
    let column : Expr := .column ⟨none, "a"⟩
    let steps : List ChainStep :=
      [.from t, .selectAll, .where (.binary .gt column (.constant (.integer .i64 0 (by decide)))), .orderBy column true]
    let db : Database := ⟨[⟨"t", [⟨"a", false, false⟩], [⟨1, [.integer 1]⟩, ⟨2, [.integer 2]⟩]⟩], [], 0, none, {}⟩
    ∃ k i b, Clause.ofChain steps = some k ∧ k.NoOrdinals {} ∧ k.render? ⟨.inline, {}⟩ .rows = some (.ok i) ∧
      k.render? ⟨.positional, {}⟩ .rows = some (.ok b) ∧ b.params = [.integer 0] ∧ isSendable i.text = true ∧
      (∀ v ∈ b.params, v.ReadsBack) ∧ RunsAlike (db.executeText i.text []) (db.executeText b.text b.params) := by
  intro t column steps db
  let positive : Expr := .binary .gt column (.constant (.integer .i64 0 (by decide)))
  let q := ((Source.ofTable t).selectAll.where positive).toQuery.orderBy column true
  have hk : Clause.ofChain steps = some (.ordered q) := rfl
  have hkeys : (Clause.ordered q).NoOrdinals {} := by
    intro q' hq' key hkey n hn
    obtain rfl := Option.some.inj hq'
    obtain rfl : key = ⟨column, true⟩ := List.mem_singleton.1 hkey
    cases hn
  have hinline : (Clause.ordered q).render? ⟨.inline, {}⟩ .rows =
      some (.ok ⟨"SELECT \"a\"\nFROM \"t\"\nWHERE (\"a\" > 0)\nORDER BY \"a\" DESC", []⟩) := by decide +kernel
  have hbound : (Clause.ordered q).render? ⟨.positional, {}⟩ .rows =
      some (.ok ⟨"SELECT \"a\"\nFROM \"t\"\nWHERE (\"a\" > ?)\nORDER BY \"a\" DESC", [.integer 0]⟩) := by decide +kernel
  have hreads : ∀ v ∈ [Native.integer 0], v.ReadsBack := by
    intro v hv
    obtain rfl := List.mem_singleton.1 hv
    rfl
  refine ⟨_, _, _, hk, hkeys, hinline, hbound, rfl, by decide +kernel, hreads, ?_⟩
  have halike := inline_and_bound_run_alike hk {} hkeys .rows db
  rw [hinline, hbound] at halike
  cases halike with
  | some halike =>
    cases halike with
    | ok h => exact h.2 (by decide +kernel) hreads

/-- Two rows are kept as they are or turned around. -/
theorem orderRows_pair (descending : List Bool) (x y : ResultRow) :
    orderRows descending [x, y] = if compareKeys descending x.keys y.keys != .gt then [x, y] else [y, x] := by
  simp [orderRows, List.mergeSort, List.MergeSort.Internal.splitInTwo, List.splitAt, List.splitAt.go, List.merge]

/-- A query of two rows that are neither counted off nor compared with each other. -/
theorem Sql.Select.resultRows_pair {q : Sql.Select} {r : Relation} {x y : ResultRow}
    (hrows : (r.restrict q.condition).rows.map (q.resultRow r.frame) = [x, y])
    (hplain : q.distinct = false ∧ q.limit = none ∧ q.offset = none) :
    q.resultRows r = (orderRows (q.order.map Sql.SortKey.descending) [x, y]).map ResultRow.values := by
  obtain ⟨hdistinct, hlimit, hoffset⟩ := hplain
  simp only [Sql.Select.resultRows, hrows, hdistinct, hlimit, hoffset, page_none, Bool.false_eq_true, if_false]

/-- A small integer that is written out as a key of the order is the number of a result column, and the rows are
sorted by it. Bound as a value it is the same for all rows, and they stay in their order. -/
theorem inline_and_bound_run_alike_not_ordinals :
    ¬ ∀ (steps : List ChainStep) (k : Clause), Clause.ofChain steps = some k →
      ∀ (coercion : Coercion) (p : Clause.Purpose) (db : Database),
        Option.Rel (Alike fun i b => i.params = [] ∧ (isSendable i.text = true → (∀ v ∈ b.params, v.ReadsBack) →
        RunsAlike (db.executeText i.text []) (db.executeText b.text b.params)))
        (k.render? ⟨.inline, coercion⟩ p) (k.render? ⟨.positional, coercion⟩ p) := by
  intro hall
  let t : Table := ⟨"t", [{ name := "a", property := "a", kind := .integer .i64 }], by decide +kernel⟩
  let stored : StoredTable := ⟨"t", [⟨"a", false, false⟩], [⟨1, [.integer 2]⟩, ⟨2, [.integer 1]⟩]⟩
  let db : Database := ⟨[stored], [], 0, none, {}⟩
  let one : Expr := .constant (.integer .i64 1 (by decide))
  let k : Clause := .ordered ((Source.ofTable t).selectAll.toQuery.orderBy one false)
  -- The two texts.
  have hinline : k.render? ⟨.inline, {}⟩ .rows = some (.ok ⟨"SELECT \"a\"\nFROM \"t\"\nORDER BY 1", []⟩) := by
    decide +kernel
  have hbound : k.render? ⟨.positional, {}⟩ .rows =
      some (.ok ⟨"SELECT \"a\"\nFROM \"t\"\nORDER BY ?", [.integer 1]⟩) := by
    decide +kernel
  -- What they are read as, and the rows that each returns.
  let query (key : Sql.SortKey) : Sql.Select :=
    { columns := [.term (.column none "a") none], source := some ⟨"t", []⟩, order := [key] }
  let inline := query ⟨.constant (.literal (.integer 1)), false, some 1⟩
  let bound := query ⟨.constant .placeholder, false, none⟩
  let filled := query ⟨.constant (.literal (.integer 1)), false, none⟩
  have hinlineRead : Sql.readBatch "SELECT \"a\"\nFROM \"t\"\nORDER BY 1" = [.ok (.select inline)] := by decide +kernel
  have hboundRead : Sql.readBatch "SELECT \"a\"\nFROM \"t\"\nORDER BY ?" = [.ok (.select bound)] := by decide +kernel
  have hsource : Sql.Source.relation db.tables (some ⟨"t", []⟩) = .ok stored.relation := by
    have hname : Sql.sameWord stored.name "t" = true := by decide +kernel
    simp only [Sql.Source.relation, Sql.Source.tables, Tables.find, db, List.find?_cons, hname]
    rfl
  have hinlineCount : ([] : List Native).length = (Sql.Statement.select inline).parameters.length := by decide +kernel
  have hboundCount : [Native.integer 1].length = (Sql.Statement.select bound).parameters.length := by decide +kernel
  have hinlineBind : (Sql.Statement.select inline).bind [] = .select inline := by decide +kernel
  have hboundBind : (Sql.Statement.select bound).bind [.integer 1] = .select filled := by decide +kernel
  obtain ⟨sorted, hsorted, hsortedRows⟩ :=
    db.executeText_select hinlineRead (by decide +kernel) hinlineCount hinlineBind hsource
  obtain ⟨kept, hkept, hkeptRows⟩ := db.executeText_select hboundRead (by decide +kernel) hboundCount hboundBind hsource
  have hreads : ∀ v ∈ [Native.integer 1], v.ReadsBack := by
    intro v hv
    obtain rfl := List.mem_singleton.1 hv
    rfl
  have halike := hall [.from t, .selectAll, .orderBy one false] k rfl {} .rows db
  rw [hinline, hbound] at halike
  cases halike with
  | some halike =>
    cases halike with
    | ok h =>
      have hrows := (h.2 (by decide +kernel) hreads).rows_eq hsorted hkept
      rw [hsortedRows, hkeptRows, Sql.Select.resultRows_pair rfl ⟨rfl, rfl, rfl⟩,
        Sql.Select.resultRows_pair rfl ⟨rfl, rfl, rfl⟩, orderRows_pair, orderRows_pair] at hrows
      exact absurd hrows (by decide +kernel)

end SqlMapper
