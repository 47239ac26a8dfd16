import SqlMapper.Proofs.Connection.Counting
import SqlMapper.Proofs.Connection.InlineBound

/-!
# Pages

A page of a query is a limit and an offset at the end of its statement (`Query.compile_within`), and they change
nothing else about it: the same names are looked up, the same places are filled (`Sql.Select.prepare_within`), and
of the rows that the query returns a part is cut out (`Sql.Select.resultRows_within`).

Counts of rows are written as integers of 64 bits. A larger count is written as the largest of them, which is more
rows than any query returns, so the part that is cut out is the part that was asked for (`page_eq_slice`).
-/

namespace SqlMapper

open Sql (arrange)

/-! ## Counts -/

/-- The part of a list after its first items, or so many items of that part at most. -/
def slice {α : Type} (limit : Option Nat) (offset : Nat) (rows : List α) : List α :=
  match limit with
  | some n => (rows.drop offset).take n
  | none => rows.drop offset

/-- A number of rows as a limit; where there is none, the limit that is no limit. -/
def clampLimit (limit : Option Nat) : Int := (limit.map clampCount).getD unbounded

/-- A count is written as itself, or as the largest integer of 64 bits. -/
theorem clampCount_eq (n : Nat) : clampCount n = ((min n (2 ^ 63 - 1) : Nat) : Int) := by
  unfold clampCount
  split <;> omega

/-- A count never comes out as a number below zero, nor as the limit that is no limit. -/
theorem clampCount_bounds (n : Nat) : 0 ≤ clampCount n ∧ clampCount n ≠ unbounded ∧ clampCount n < 2 ^ 63 := by
  rw [clampCount_eq, unbounded]
  omega

/-- A count beyond 64 bits drops whatever there is, and so does the largest of 64 bits. -/
theorem drop_clamped {α : Type} {n : Nat} {rows : List α} (h : rows.length < 2 ^ 63 ∨ n < 2 ^ 63) :
    rows.drop (min n (2 ^ 63 - 1)) = rows.drop n := by
  by_cases hn : n < 2 ^ 63
  · rw [Nat.min_eq_left (by omega)]
  · have hrows := h.resolve_right hn
    rw [List.drop_eq_nil_of_le (by omega), List.drop_eq_nil_of_le (by omega)]

/-- It keeps whatever there is as well. -/
theorem take_clamped {α : Type} {n : Nat} {rows : List α} (h : rows.length < 2 ^ 63 ∨ n < 2 ^ 63) :
    rows.take (min n (2 ^ 63 - 1)) = rows.take n := by
  by_cases hn : n < 2 ^ 63
  · rw [Nat.min_eq_left (by omega)]
  · have hrows := h.resolve_right hn
    rw [List.take_of_length_le (by omega), List.take_of_length_le (by omega)]

/-- So many rows can be counted in 64 bits, as those of every list in memory can, or the counts of a page can. -/
def CountsFit (limit : Option Nat) (offset rows : Nat) : Prop := rows < 2 ^ 63 ∨ offset < 2 ^ 63 ∧
  ∀ n ∈ limit, n < 2 ^ 63

/-- What is cut out by counts of 64 bits is what was asked for. -/
theorem page_eq_slice {α : Type} {limit : Option Nat} {offset : Nat} {rows : List α}
    (h : CountsFit limit offset rows.length) :
    page (some (clampLimit limit)) (some (clampCount offset)) rows = slice limit offset rows := by
  have hdrop := drop_clamped (h.imp_right And.left)
  cases limit with
  | none =>
    have hpage : page (some (clampLimit none)) (some (clampCount offset)) rows =
        rows.drop (clampCount offset).toNat := rfl
    rw [hpage, clampCount_eq, Int.toNat_natCast, hdrop, slice]
  | some n =>
    have htake : (rows.drop offset).length < 2 ^ 63 ∨ n < 2 ^ 63 :=
      h.imp (fun h => Nat.lt_of_le_of_lt (by simp) h) fun h => h.2 n rfl
    have hclamped : clampLimit (some n) = ((min n (2 ^ 63 - 1) : Nat) : Int) := clampCount_eq n
    rw [hclamped, clampCount_eq, page_some, hdrop, take_clamped htake, slice]

/-- A page is cut out of what a function makes of the rows as well as out of the rows. -/
theorem page_map {α β : Type} (f : α → β) (limit offset : Option Int) (rows : List α) :
    page limit offset (rows.map f) = (page limit offset rows).map f := by
  cases limit with
  | none => simp [page]
  | some n => by_cases hn : n < 0 <;> simp [page, hn, List.map_take]

theorem page_sublist {α : Type} (limit offset : Option Int) (rows : List α) :
    (page limit offset rows).Sublist rows := by
  cases limit with
  | none => exact List.drop_sublist _ _
  | some n =>
    unfold page
    dsimp only
    split
    · exact List.drop_sublist _ _
    · exact (List.take_sublist _ _).trans (List.drop_sublist _ _)

/-! ## Statements within a page -/

namespace Sql.Select

/-- The same query with another page. -/
def within (q : Select) (limit offset : Option Int) : Select := { q with limit, offset }

variable {q : Select} {limit offset : Option Int}

/-- The rows of a page are cut out of those of the query. -/
theorem resultRows_within (hlimit : q.limit = none) (hoffset : q.offset = none) (r : Relation) :
    (q.within limit offset).resultRows r = page limit offset (q.resultRows r) := by
  have hrow : (q.within limit offset).resultRow = q.resultRow := rfl
  simp only [resultRows, hrow, hlimit, hoffset, page_none, page_map]
  rfl

/-- Rows without damage have pages without. -/
theorem isDamaged_within {f : Frame} {rows : List (List Native)} (h : q.isDamaged f rows = false) :
    (q.within limit offset).isDamaged f (page limit offset rows) = false := by
  unfold isDamaged at h ⊢
  rw [List.any_eq_false] at h ⊢
  exact fun row hrow => h row ((page_sublist limit offset rows).subset hrow)

theorem isSendable_within :
    isSendable (Statement.select (q.within limit offset)).text = isSendable (Statement.select q).text := by
  have hpaged : isSendable (Statement.select (q.within limit offset)).text =
      (q.within limit offset).clauses.all isSendable :=
    isSendable_lines _
  have hplain : isSendable (Statement.select q).text = q.clauses.all isSendable := isSendable_lines _
  rw [hpaged, hplain, isSendable_clauses, isSendable_clauses]
  rfl

/-- A query can be prepared with a page if and only if it can be without. -/
theorem prepare_within (db : Database) : db.prepare (.select (q.within limit offset)) = db.prepare (.select q) := by
  have hcheck : (q.within limit offset).check db.tables = q.check db.tables := rfl
  unfold Database.prepare
  simp only [isSendable_within, hcheck]

/-- The text of a page is that of the query with two more lines. -/
theorem text_within (hlimit : q.limit = none) (hoffset : q.offset = none) (n m : Int) :
    (Statement.select (q.within (some n) (some m))).text =
      (Statement.select q).text ++ "\nLIMIT " ++ toString n ++ "\nOFFSET " ++ toString m := by
  have hne : q.clauses ≠ [] := by simp [clauses]
  have hclauses : (q.within (some n) (some m)).clauses = q.clauses ++
      ["LIMIT " ++ toString n, "OFFSET " ++ toString m] := by
    simp only [clauses, within, hlimit, hoffset, List.append_assoc, List.nil_append]
    rfl
  have hlines : "\nLIMIT " = "\n" ++ "LIMIT " ∧ "\nOFFSET " = "\n" ++ "OFFSET " := ⟨rfl, rfl⟩
  have htext : ∀ q : Select, (Statement.select q).text = "\n".intercalate q.clauses := fun _ => rfl
  rw [htext, htext, hclauses, String.intercalate_append_of_ne_nil hne (List.cons_ne_nil _ _), hlines.1, hlines.2]
  simp only [String.intercalate_cons_cons, String.intercalate_singleton, String.append_assoc]

/-- A query that is run returns with a page the rows of the page. -/
theorem execute_within (limit offset : Option Int) {values : List Native} {db d : Database} {result : ResultSet}
    (hlimit : q.limit = none) (hoffset : q.offset = none)
    (h : Database.execute (.select q) values db = (.ok (.rows result), d)) :
    ∃ damaged, Database.execute (.select (q.within limit offset)) values db =
      (.ok (.rows ⟨result.titles, page limit offset result.rows, damaged⟩), d) := by
  have hparameters : (Statement.select (q.within limit offset)).parameters = (Statement.select q).parameters := rfl
  have htitles : db.titles (.select (q.within limit offset)) = db.titles (.select q) := rfl
  have hbind : (Statement.select (q.within limit offset)).bind values =
      .select ((q.fill (arrange (Statement.select q).places values)).1.within limit offset) := rfl
  have hfilled : (Statement.select q).bind values =
      .select (q.fill (arrange (Statement.select q).places values)).1 := rfl
  unfold Database.execute at h ⊢
  rw [prepare_within, hparameters, htitles, hbind]
  rw [hfilled] at h
  cases hprepare : db.prepare (.select q) with
  | error e =>
    rw [hprepare] at h
    cases h
  | ok _ =>
    rw [hprepare] at h
    dsimp only at h ⊢
    split at h
    · rename_i hcount
      rw [if_pos hcount]
      generalize hfill : (q.fill (arrange (Statement.select q).places values)).1 = filled at h
      have hpage : filled.limit = none ∧ filled.offset = none := by rw [← hfill]; exact ⟨hlimit, hoffset⟩
      have hsource : (filled.within limit offset).source = filled.source := rfl
      unfold Database.run Select.run at h ⊢
      dsimp only at h ⊢
      rw [hsource]
      cases hr : Source.relation db.tables filled.source with
      | error e =>
        rw [hr] at h
        cases h
      | ok r =>
        rw [hr] at h
        obtain ⟨hresult, rfl⟩ := Prod.mk.inj h
        obtain rfl := Outcome.rows.inj (Except.ok.inj hresult)
        exact ⟨_, by rw [← resultRows_within hpage.1 hpage.2]; rfl⟩
    · cases h

end Sql.Select

/-! ## Statements that differ in titles -/

/-- Statements that differ in titles only, and that are read to the end, are run alike with any values. -/
theorem Database.execute_congr {s s' : Sql.Statement} (h : s.untitled = s'.untitled) (hs : isSendable s.text = true)
    (hs' : isSendable s'.text = true) (values : List Native) (db : Database) :
    RunsAlike (Database.execute s values db) (Database.execute s' values db) := by
  have hplaces : s.places = s'.places := by rw [← s.places_untitled, h, s'.places_untitled]
  have hparameters : s.parameters = s'.parameters := by rw [Sql.Statement.parameters, Sql.Statement.parameters, hplaces]
  have houtline : s.outline = s'.outline := by rw [← s.outline_untitled, h, s'.outline_untitled]
  have hbind : (s.bind values).untitled = (s'.bind values).untitled := by
    rw [Sql.Statement.bind, Sql.Statement.bind, ← Sql.Statement.fill_untitled,
      ← Sql.Statement.fill_untitled, h, hplaces]
  unfold Database.execute
  rw [Database.prepare_congr houtline hs hs', hparameters]
  cases db.prepare s' with
  | error e => exact .error e e db
  | ok _ =>
    dsimp only
    split
    · exact .of_eq (Database.run_congr hbind _ _ db)
    · exact .error _ _ db

/-- A text that is read as one statement is run as that statement. -/
theorem Database.executeText_of_read {text : String} {s : Sql.Statement} (h : Sql.readBatch text = [.ok s])
    (values : List Native) (db : Database) : db.executeText text values = Database.execute s values db := by
  rw [Database.executeText, h]

/-- A query leaves the database as it is. -/
theorem Database.execute_select_store (q : Sql.Select) (values : List Native) (db : Database) :
    (Database.execute (.select q) values db).2 = db := by
  unfold Database.execute
  cases db.prepare (.select q) with
  | error e => rfl
  | ok _ =>
    dsimp only
    split <;> rfl

/-- What runs alike with rows returns rows, and leaves the same database. -/
theorem RunsAlike.of_rows {x : Except EngineError Outcome × Database} {result : ResultSet} {d : Database}
    (h : RunsAlike x (.ok (.rows result), d)) : ∃ result', x = (.ok (.rows result'), d) ∧
    result'.rows = result.rows := by
  cases h with
  | @ok o _ h db =>
    cases o with
    | rows result' =>
      simp only [Outcome.untitled, Outcome.rows.injEq, ResultSet.mk.injEq] at h
      exact ⟨result', rfl, h.2.1⟩
    | changed n i => cases h
    | done => cases h

/-! ## Queries within a page -/

/-- A query that is run fails when one of its values cannot be read. -/
theorem query_of_damaged {c : Connection} {q : Query} {named : NamedValues} {select : Bound Sql.Select}
    {values : List Native} {r : Relation} (h : q.IsRun named c select values r)
    (hread : (select.sql.grouped.fill values).1.isDamaged r.frame
      ((select.sql.grouped.fill values).1.resultRows r) = true) :
    Connection.query q named c = (.error (.engine .invalidText), c) := by
  rw [query_eq_of_isRun h, if_pos hread]

namespace Query

variable {q : Query} {limit offset : Option Int}

/-- A query is compiled with a page as it is without, and in particular with the same error. -/
theorem compile_within (q : Query) (limit offset : Option Int) (r : Rendering) :
    Query.compile { q with limit, offset } r = (q.compile r).map (Bound.map fun s => s.within limit offset) := by
  unfold Query.compile
  dsimp only
  cases r.projection q.selection with
  | error e => rfl
  | ok columns =>
    cases r.source q.selection.source with
    | error e => rfl
    | ok source =>
      cases r.predicate q.selection.scope q.predicate with
      | error e => rfl
      | ok condition =>
        cases r.keys q.selection.scope q.keys <;> rfl

/-- The page of a query is the page of its statement. -/
theorem page_of_compile {r : Rendering} {b : Bound Sql.Select} (h : q.compile r = .ok b) :
    b.sql.limit = q.limit ∧ b.sql.offset = q.offset := by
  obtain ⟨columns, -, h⟩ := bind_eq_ok h
  obtain ⟨source, -, h⟩ := bind_eq_ok h
  obtain ⟨condition, -, h⟩ := bind_eq_ok h
  obtain ⟨order, -, h⟩ := bind_eq_ok h
  obtain rfl := Except.ok.inj h
  exact ⟨rfl, rfl⟩

/-- A query whose rows come back has been run, and its rows are those of its statement, none of them damaged. -/
theorem isRun_of_ok {c : Connection} {named : NamedValues} {rows : List Row}
    (h : (Connection.query q named c).1 = .ok rows) :
    ∃ select values r, q.IsRun named c select values r ∧
      (select.sql.grouped.fill values).1.isDamaged r.frame ((select.sql.grouped.fill values).1.resultRows r) = false ∧
      rows = ((select.sql.grouped.fill values).1.resultRows r).map fun row =>
        ⟨c.store.titles (.select select.sql.grouped), row, c.coercion⟩ := by
  obtain ⟨select, values, r, hrun, -⟩ := query_ok h
  cases hread : (select.sql.grouped.fill values).1.isDamaged r.frame
    ((select.sql.grouped.fill values).1.resultRows r) with
  | true =>
    rw [query_of_damaged hrun hread] at h
    cases h
  | false =>
    rw [query_of_isRun hrun hread] at h
    exact ⟨select, values, r, hrun, hread, (Except.ok.inj h).symm⟩

/-- A query is a page of another. Its text is that of the other with two more lines, for the limit and the offset,
and the same values go with it, or it is refused with the same error. Of the rows that the other returns it returns
those after the first ones, so many of them at most, whether it is run as a query or as a text with any values. -/
structure IsPageOf (p q : Query) (limit : Option Nat) (offset : Nat) : Prop where
  render : ∀ r, p.render r = (q.render r).map fun t =>
    ⟨t.text ++ "\nLIMIT " ++ toString (clampLimit limit) ++ "\nOFFSET " ++ toString (clampCount offset), t.params⟩
  rows : ∀ c named rows, (Connection.query q named c).1 = .ok rows → CountsFit limit offset rows.length →
    Connection.query p named c = (.ok (slice limit offset rows), c)
  run : ∀ r whole part, q.render r = .ok whole → p.render r = .ok part → isSendable whole.text = true →
    ∀ (db : Database) (values : List Native) (result : ResultSet),
    (db.executeText whole.text values).1 = .ok (.rows result) →
      CountsFit limit offset result.rows.length →
      ∃ page, db.executeText part.text values = (.ok (.rows page), db) ∧ page.rows = slice limit offset result.rows

/-- A text that a query is rendered to is that of the statement that it is compiled to. -/
theorem compile_of_render {r : Rendering} {t : CompiledSql} (h : q.render r = .ok t) :
    ∃ b, q.compile r = .ok b ∧ t = (b.map Sql.Statement.select).toText := by
  obtain ⟨s, hs, h⟩ := bind_eq_ok h
  obtain ⟨b, hb, hs⟩ := bind_eq_ok hs
  obtain rfl := Except.ok.inj hs
  exact ⟨b, hb, (Except.ok.inj h).symm⟩

/-- The text of a query is read as its statement grouped, but for the titles of its columns. -/
theorem readBatch_render {r : Rendering} {b : Bound Sql.Select} (h : q.compile r = .ok b) (hpaged : q.IsPaged)
    (hsend : isSendable (Sql.Statement.select b.sql).text = true) :
    ∃ s, Sql.readBatch (Sql.Statement.select b.sql).text = [.ok (.select s)] ∧ s.untitled = b.sql.grouped.untitled ∧
      isSendable (Sql.Statement.select s).text = true := by
  have hstatement : q.statement r = .ok (b.map .select) := by rw [Query.statement, h]; rfl
  have hk : (Clause.paged q).statement? r .rows = some (.ok (b.map .select)) := congrArg some hstatement
  have hclause : (Clause.paged q).IsPaged := by
    intro q' hq'
    obtain rfl := Option.some.inj hq'
    exact hpaged
  obtain ⟨s, hread, huntitled, hsend⟩ := Clause.readBatch_text hk hclause hsend
  cases s with
  | select s => exact ⟨s, hread, Sql.Statement.select.inj huntitled, hsend⟩
  | _ => cases huntitled

/-- A query without a page can be read, and so can one whose page has counts of 64 bits. -/
theorem isPaged_of_none (hlimit : q.limit = none) (hoffset : q.offset = none) : q.IsPaged := by
  rw [IsPaged, hlimit, hoffset]
  exact .none

theorem isPaged_clamped (limit : Option Nat) (offset : Nat) :
    IsPaged { q with limit := some (clampLimit limit), offset := some (clampCount offset) } where
  limited _ := rfl
  limit := by
    intro n hn
    obtain rfl := Option.some.inj hn
    cases limit with
    | none => rfl
    | some n => exact fitsInt64_clampCount n
  offset := by
    intro n hn
    obtain rfl := Option.some.inj hn
    exact fitsInt64_clampCount offset

/-- The text of a query without a page and its text with one are read as one statement, without the page and with
it, but for the titles. -/
theorem readBatch_clamped {r : Rendering} {b : Bound Sql.Select} (h : q.compile r = .ok b) (hlimit : q.limit = none)
    (hoffset : q.offset = none) (limit : Option Nat) (offset : Nat)
    (hsend : isSendable (Sql.Statement.select b.sql).text = true) :
    let cut (s : Sql.Select) : Sql.Select := s.within (some (clampLimit limit)) (some (clampCount offset))
    ∃ whole part, Sql.readBatch (Sql.Statement.select b.sql).text = [.ok (.select whole)] ∧
      Sql.readBatch (Sql.Statement.select (cut b.sql)).text = [.ok (.select part)] ∧ whole.limit = none ∧
      whole.offset = none ∧ (Sql.Statement.select part).untitled = (Sql.Statement.select (cut whole)).untitled ∧
      isSendable (Sql.Statement.select part).text = true ∧
      isSendable (Sql.Statement.select (cut whole)).text = true := by
  intro cut
  obtain ⟨hl, ho⟩ := page_of_compile h
  obtain ⟨whole, hwhole, hwholeTitles, hwholeSend⟩ := readBatch_render h (isPaged_of_none hlimit hoffset) hsend
  have hcompiled : Query.compile { q with limit := some (clampLimit limit), offset := some (clampCount offset) } r =
      .ok (b.map cut) := by
    rw [compile_within, h]
    rfl
  obtain ⟨part, hpart, hpartTitles, hpartSend⟩ :=
    readBatch_render hcompiled (isPaged_clamped limit offset) (Sql.Select.isSendable_within.trans hsend)
  have htitles : part.untitled = (cut whole).untitled := hpartTitles.trans (congrArg cut hwholeTitles).symm
  exact ⟨whole, part, hwhole, hpart, (congrArg Sql.Select.limit hwholeTitles).trans (hl.trans hlimit),
    (congrArg Sql.Select.offset hwholeTitles).trans (ho.trans hoffset),
    congrArg Sql.Statement.select htitles, hpartSend,
    Sql.Select.isSendable_within.trans hwholeSend⟩

/-- A query without a page that is given one becomes a page of itself. -/
theorem isPageOf (hlimit : q.limit = none) (hoffset : q.offset = none) (limit : Option Nat) (offset : Nat) :
    IsPageOf { q with limit := some (clampLimit limit), offset := some (clampCount offset) } q limit offset where
  render r := by
    rw [Query.render, Query.statement, compile_within, Query.render, Query.statement]
    cases hcompiled : q.compile r with
    | error e => rfl
    | ok b =>
      obtain ⟨hl, ho⟩ := page_of_compile hcompiled
      have htext := Sql.Select.text_within (hl.trans hlimit) (ho.trans hoffset) (clampLimit limit) (clampCount offset)
      exact congrArg (fun text => (Except.ok ⟨text, b.params⟩ : Except Error CompiledSql)) htext
  rows c named rows h hfit := by
    obtain ⟨select, values, r, hrun, hread, rfl⟩ := isRun_of_ok h
    obtain ⟨hl, ho⟩ := page_of_compile hrun.compiled
    let l := some (clampLimit limit)
    let o := some (clampCount offset)
    let filled := (select.sql.grouped.fill values).1
    have hpart : IsRun { q with limit := l, offset := o } named c (select.map fun s => s.within l o) values r :=
      { compiled := by rw [compile_within, hrun.compiled]; rfl
        prepared := Sql.Select.prepare_within (q := select.sql.grouped) c.store ▸ hrun.prepared
        supplied := hrun.supplied
        source := hrun.source }
    have hrows : (filled.within l o).resultRows r = page l o (filled.resultRows r) :=
      Sql.Select.resultRows_within (q := filled) (hl.trans hlimit) (ho.trans hoffset) r
    have hundamaged : (filled.within l o).isDamaged r.frame ((filled.within l o).resultRows r) = false := by
      rw [hrows]
      exact Sql.Select.isDamaged_within hread
    refine (query_of_isRun hpart hundamaged).trans ?_
    have hcut := page_map (fun row => (⟨c.store.titles (.select select.sql.grouped), row, c.coercion⟩ : Row)) l o
      (filled.resultRows r)
    rw [page_eq_slice hfit] at hcut
    rw [hcut, ← hrows]
    rfl
  run r whole part hwhole hpart hsend db values result h hfit := by
    obtain ⟨b, hcompiled, rfl⟩ := compile_of_render hwhole
    obtain ⟨b', hcompiled', rfl⟩ := compile_of_render hpart
    rw [compile_within, hcompiled] at hcompiled'
    obtain rfl := Except.ok.inj hcompiled'
    obtain ⟨whole, part, hwhole, hpart, hl, ho, htitles, hpartSend, hcutSend⟩ :=
      readBatch_clamped hcompiled hlimit hoffset limit offset hsend
    have hexecute := (congrArg Prod.fst (Database.executeText_of_read hwhole values db)).symm.trans h
    obtain ⟨damaged, hpage⟩ := Sql.Select.execute_within (some (clampLimit limit)) (some (clampCount offset)) hl ho
      (Prod.ext hexecute (Database.execute_select_store whole values db))
    have halike := Database.execute_congr htitles hpartSend hcutSend values db
    rw [hpage] at halike
    obtain ⟨page, hexecuted, hrows⟩ := halike.of_rows
    exact ⟨page, (Database.executeText_of_read hpart values db).trans hexecuted, hrows.trans (page_eq_slice hfit)⟩

end Query

/-! ## Pages of chains -/

namespace Clause

/-- An ordered query is ordered by a key after those of a query that had no page. -/
theorem step_ordered {k : Clause} {s : ChainStep} {q : Query} (h : k.StepsTo s (.ordered q)) :
    ∃ p x descending, k.unpaged? = some p ∧ q = p.orderBy x descending := by
  cases h with
  | orderSelection s x descending => exact ⟨s.toQuery, x, descending, rfl, rfl⟩
  | orderFilter f x descending => exact ⟨f.toQuery, x, descending, rfl, rfl⟩
  | thenBy p x descending => exact ⟨p, x, descending, rfl, rfl⟩

/-- What an order or a page can be put on has no page yet. -/
def IsUnpaged (k : Clause) : Prop := ∀ q, k.unpaged? = some q → q.limit = none ∧ q.offset = none

/-- A chain puts its page on what has none. -/
theorem isUnpaged_of_ofChain {steps : List ChainStep} {k : Clause} (h : Clause.ofChain steps = some k) :
    k.IsUnpaged := by
  refine ofChain_induction (P := IsUnpaged) (fun _ _ hq => by cases hq) (fun {k l s} hunpaged hs q hq => ?_) h
  cases l with
  | selection s =>
    obtain rfl := Option.some.inj hq
    exact ⟨rfl, rfl⟩
  | filter f =>
    obtain rfl := Option.some.inj hq
    exact ⟨rfl, rfl⟩
  | ordered p =>
    obtain rfl := Option.some.inj hq
    obtain ⟨base, x, descending, hbase, rfl⟩ := step_ordered hs
    exact hunpaged base hbase
  | _ => cases hq

section Steps

variable {steps more : List ChainStep} {k : Clause} {q : Query}

/-- A chain goes on from where it is, with a step that is allowed there. -/
theorem ofChain_append_cons (hk : Clause.ofChain steps = some k) {s : ChainStep} {l : Clause} (hs : k.step s = some l) :
    Clause.ofChain (steps ++ s :: more) = more.foldl Clause.start (some l) := by
  have hstart : Clause.start (some k) s = k.step s := by
    cases s with
    | «from» t => cases hs
    | _ => rfl
  rw [Clause.ofChain, List.foldl_append, ← Clause.ofChain, hk, List.foldl_cons, hstart, hs]

/-- What has no page can be given a limit, an offset or an index. -/
theorem step_of_unpaged (hq : k.unpaged? = some q) (n : Nat) :
    k.step (.take n) = some (.limited (q.take n)) ∧ k.step (.skip n) = some (.paged (q.skip n)) ∧
      k.step (.elementAt n) = some (.paged (q.elementAt n)) :=
  ⟨step_eq_some_iff.2 (.take hq n), step_eq_some_iff.2 (.skip hq n), step_eq_some_iff.2 (.elementAt hq n)⟩

/-- Of limits after an offset the last one counts. -/
theorem foldl_takes (q : Query) (counts : List Nat) (n : Nat) :
    (counts.map ChainStep.take ++ [ChainStep.take n]).foldl Clause.start (some (.paged q)) =
    some (.paged (q.take n)) := by
  induction counts generalizing q with
  | nil => rfl
  | cons count counts ih => exact ih (q.take count)

end Steps

end Clause

/-- Pages do not depend on the order in which they are asked for, and show what was asked for. For every chain that
may be given a page, a limit and then an offset is the same query as the offset and then the limit, whatever limits
stood in between; an index is an offset and a limit of one. The query is a page of what the chain stands for
(`Query.IsPageOf`): so many of the rows after the first ones, and with no limit all of them. A count, however large,
is written as no number below zero and not as the limit that is no limit. -/
theorem paging_slices_rows {steps : List ChainStep} {k : Clause} (hk : Clause.ofChain steps = some k) {q : Query}
    (hq : k.unpaged? = some q) (n m : Nat) :
    ∃ page rest : Query, Clause.ofChain (steps ++ [.take n, .skip m]) = some (.paged page) ∧
      Clause.ofChain (steps ++ [.skip m, .take n]) = some (.paged page) ∧
      (∀ counts : List Nat, Clause.ofChain (steps ++ .skip m :: (counts.map ChainStep.take ++ [.take n])) =
        some (.paged page)) ∧
      Clause.ofChain (steps ++ [.skip m]) = some (.paged rest) ∧
      Clause.ofChain (steps ++ [.elementAt m]) = Clause.ofChain (steps ++ [.skip m, .take 1]) ∧
      page.IsPageOf q (some n) m ∧ rest.IsPageOf q none m ∧
      ∀ count, 0 ≤ clampCount count ∧ clampCount count ≠ unbounded ∧ clampCount count < 2 ^ 63 := by
  obtain ⟨hlimit, hoffset⟩ := Clause.isUnpaged_of_ofChain hk q hq
  obtain ⟨-, hskip, helement⟩ := Clause.step_of_unpaged hq m
  obtain ⟨htake, -⟩ := Clause.step_of_unpaged hq n
  have hrest : q.skip m = { q with limit := some (clampLimit none), offset := some (clampCount m) } := by
    rw [Query.skip, hlimit]
    rfl
  refine ⟨(q.skip m).take n, q.skip m, Clause.ofChain_append_cons hk htake, Clause.ofChain_append_cons hk hskip,
    fun counts => ?_,
    Clause.ofChain_append_cons hk hskip, ?_, ?_, ?_, clampCount_bounds⟩
  · rw [Clause.ofChain_append_cons hk hskip, Clause.foldl_takes]
  · rw [Clause.ofChain_append_cons hk helement, Clause.ofChain_append_cons hk hskip]
    rfl
  · exact Query.isPageOf hlimit hoffset (some n) m
  · rw [hrest]
    exact Query.isPageOf hlimit hoffset none m

/-- Of three rows those after the first, at most as many as can be asked for, and the row with the index one. -/
theorem paging_slices_rows_largest :
    let t : Table := ⟨"t", [{ name := "a", property := "a", kind := .integer .i64 }], by decide⟩
    let stored : StoredTable := ⟨"t", [⟨"a", false, false⟩], [⟨1, [.integer 7]⟩, ⟨2, [.integer 8]⟩, ⟨3, [.integer 9]⟩]⟩
    let c : Connection := Session.idle .counter ⟨[stored], [], 0, none, {}⟩
    let steps : List ChainStep := [.from t, .selectAll]
    let row (n : Int64) : Row := ⟨["a"], [.integer n], {}⟩
    (∃ page, Clause.ofChain (steps ++ [.take (2 ^ 64 - 1), .skip 1]) = some (.paged page) ∧
      (page.toSql.toOption = some "SELECT \"a\"\nFROM \"t\"\nLIMIT 9223372036854775807\nOFFSET 1") ∧
      Connection.query page [] c = (.ok [row 8, row 9], c)) ∧
    ∃ indexed, Clause.ofChain (steps ++ [.elementAt 1]) = some (.paged indexed) ∧
      Connection.query indexed [] c = (.ok [row 8], c) := by
  intro t stored c steps row
  let q := (Source.ofTable t).selectAll.toQuery
  have hk : Clause.ofChain steps = some (.selection (Source.ofTable t).selectAll) := rfl
  have hrows : (Connection.query q [] c).1 = .ok [row 7, row 8, row 9] := by
    let select : Bound Sql.Select := ⟨.ofTerms false [.column none "a"] ⟨"t", []⟩ none [] none none, []⟩
    have hsource : Sql.Source.relation c.store.tables (some ⟨"t", []⟩) = .ok stored.relation := by
      have hname : Sql.sameWord stored.name "t" = true := by decide +kernel
      simp only [Sql.Source.relation, Sql.Source.tables, Tables.find, c, Session.idle, List.find?_cons, hname]
      rfl
    have hrun : q.IsRun [] c select [] stored.relation :=
      ⟨by decide +kernel, by decide +kernel, ⟨.nil, rfl⟩, hsource⟩
    have hresult : (select.sql.grouped.fill []).1.resultRows stored.relation =
        [[.integer 7], [.integer 8], [.integer 9]] := by
      refine (Sql.Select.resultRows_unordered rfl rfl rfl _).trans ?_
      decide +kernel
    have hread : (select.sql.grouped.fill []).1.isDamaged stored.relation.frame
        ((select.sql.grouped.fill []).1.resultRows stored.relation) = false := by
      rw [hresult]
      decide +kernel
    have htitles : c.store.titles (.select select.sql.grouped) = ["a"] := by decide +kernel
    rw [query_of_isRun hrun hread, hresult, htitles]
    rfl
  have hfit : ∀ limit offset, CountsFit limit offset [row 7, row 8, row 9].length := fun _ _ => .inl (by decide)
  constructor
  · obtain ⟨page, -, hpage, -, -, -, -, hcut, -⟩ := paging_slices_rows hk (q := q) rfl (2 ^ 64 - 1) 1
    refine ⟨page, hpage, ?_, hcut.rows c [] _ hrows (hfit _ _)⟩
    rw [Query.toSql, hcut.render]
    decide +kernel
  · obtain ⟨page, -, -, hpage, -, -, hindexed, hcut, -⟩ := paging_slices_rows hk (q := q) rfl 1 1
    exact ⟨page, hindexed.trans hpage, hcut.rows c [] _ hrows (hfit _ _)⟩

end SqlMapper
