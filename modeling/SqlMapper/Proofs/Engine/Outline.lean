import SqlMapper.Engine.Database

/-!
# What preparing and running depend on

Whether a statement can be run depends on the tables, the names and the number of columns in it, and neither on its
constants nor on the titles of its columns: on its outline (`Database.prepare_congr`). The rows that it then returns
do not depend on the titles either (`Database.run_congr`).
-/

namespace SqlMapper

namespace Sql

/-! ## Statements without titles -/

/-- A result column without its title. -/
def ResultColumn.untitled : ResultColumn → ResultColumn
  | .all => .all
  | .term t _ => .term t none

/-- A query without the titles of its columns. -/
def Select.untitled (q : Select) : Select := { q with columns := q.columns.map ResultColumn.untitled }

/-- A statement without titles. -/
def Statement.untitled : Statement → Statement
  | .select q => .select q.untitled
  | .countOf q => .countOf q.untitled
  | s => s

/-! ## Outlines -/

/-- A term with every constant in it null. -/
def Term.outline : Term → Term
  | .constant _ => .null
  | .not x => .not x.outline
  | .sign negative x => .sign negative x.outline
  | .binary op l r => .binary op l.outline r.outline
  | .member item _ => .member item.outline []
  | .apply f x => .apply f x.outline
  | .replace x old new => .replace x.outline old.outline new.outline
  | .castText x => .castText x.outline
  | .paren x => .paren x.outline
  | t => t

def Join.outline (j : Join) : Join := { j with condition := j.condition.outline }

def Source.outline (s : Source) : Source := { s with joins := s.joins.map Join.outline }

def ResultColumn.outline : ResultColumn → ResultColumn
  | .all => .all
  | .term t _ => .term t.outline none

def SortKey.outline (k : SortKey) : SortKey := { k with term := k.term.outline }

/-- A query with every constant in it null, and without titles. -/
def Select.outline (q : Select) : Select :=
  { q with
    columns := q.columns.map ResultColumn.outline
    source := q.source.map Source.outline
    condition := q.condition.map Term.outline
    order := q.order.map SortKey.outline }

/-- A statement with every constant in it null, and without titles. -/
def Statement.outline : Statement → Statement
  | .select q => .select q.outline
  | .countOf q => .countOf q.outline
  | .countRows source condition => .countRows source.outline (condition.map Term.outline)
  | .delete table condition => .delete table (condition.map Term.outline)
  | .insert table columns values => .insert table columns (values.map fun _ => .literal .null)
  | .update table column _ condition => .update table column (.literal .null) (condition.map Term.outline)
  | s => s

/-- The titles are not in the outline. -/
@[simp] theorem ResultColumn.outline_untitled (c : ResultColumn) : c.untitled.outline = c.outline := by cases c <;> rfl

/-- Titles are no part of an outline. -/
@[simp] theorem Select.outline_untitled (q : Select) : q.untitled.outline = q.outline := by
  simp [Select.untitled, Select.outline, Function.comp_def]

@[simp] theorem Statement.outline_untitled (s : Statement) : s.untitled.outline = s.outline := by
  cases s <;> simp [Statement.untitled, Statement.outline]

/-! ## Checks -/

/-- The names of a term are those of its outline. -/
@[simp] theorem Term.fault?_outline (f : Frame) (t : Term) : t.outline.fault? f = t.fault? f := by
  induction t <;> simp_all [Term.outline, Term.fault?, Term.null]

/-- Terms pass the check if there is no fault in any. -/
theorem checkTerms_eq_ok {f : Frame} {terms : List Term} : checkTerms f terms = .ok () ↔ ∀ t ∈ terms,
    t.fault? f = none := by
  rw [← List.findSome?_eq_none_iff]
  unfold checkTerms
  cases terms.findSome? fun t => t.fault? f <;> simp

/-- The check sees no more than outlines. -/
@[simp] theorem checkTerms_outline (f : Frame) (terms : List Term) :
    checkTerms f (terms.map Term.outline) = checkTerms f terms := by
  simp [checkTerms, List.findSome?_map, Function.comp_def]

/-- The tables that are joined are found alike, whatever the conditions are. -/
theorem mapM_find_outline (ts : Tables) (joins : List Join) :
    (joins.map Join.outline).mapM (fun j : Join => do return (j, ← ts.find j.table)) =
      (joins.mapM fun j : Join => do return (j, ← ts.find j.table)).map
      (List.map fun p : Join × StoredTable => (p.1.outline, p.2)) := by
  induction joins with
  | nil => rfl
  | cons j joins ih =>
    rw [List.map_cons, List.mapM_cons, List.mapM_cons, ih]
    have htable : j.outline.table = j.table := rfl
    rw [htable]
    cases ts.find j.table with
    | error e => rfl
    | ok t => cases joins.mapM fun j : Join => do return (j, ← ts.find j.table) <;> rfl

/-- The columns of joined tables do not depend on the conditions. -/
theorem frame_foldl_outline (joined : List (Join × StoredTable)) {r r' : Relation} (h : r'.frame = r.frame) :
    ((joined.map fun p => (p.1.outline, p.2)).foldl (fun r j => r.join j.1.kind j.2.relation j.1.condition) r').frame =
      (joined.foldl (fun r j => r.join j.1.kind j.2.relation j.1.condition) r).frame := by
  induction joined generalizing r r' with
  | nil => exact h
  | cons p joined ih =>
    refine ih ?_
    simp only [Relation.join, h]

/-- The columns of a source are those of its outline. -/
theorem Source.frame_outline (ts : Tables) (s : Option Source) :
    (Source.relation ts (s.map Source.outline)).map Relation.frame = (Source.relation ts s).map Relation.frame := by
  cases s with
  | none => rfl
  | some s =>
    have htable : s.outline.table = s.table := rfl
    have hjoins : s.outline.joins = s.joins.map Join.outline := rfl
    simp only [Option.map_some, Source.relation, Source.tables, htable, hjoins, mapM_find_outline]
    cases ts.find s.table with
    | error e => rfl
    | ok first =>
      cases s.joins.mapM fun j : Join => do return (j, ← ts.find j.table) with
      | error e => rfl
      | ok joined => exact congrArg Except.ok (frame_foldl_outline joined rfl)

/-- A source is there if its outline is, with the same columns. -/
theorem Source.bind_outline {α : Type} (ts : Tables) (s : Option Source) (check : Frame → Except EngineError α) :
    (Source.relation ts (s.map Source.outline) >>= fun r => check r.frame) =
    Source.relation ts s >>= fun r => check r.frame := by
  have hframe := Source.frame_outline ts s
  cases hs : Source.relation ts s with
  | error e =>
    cases ho : Source.relation ts (s.map Source.outline) with
    | error e' =>
      rw [hs, ho] at hframe
      obtain rfl := Except.error.inj hframe
      rfl
    | ok r =>
      rw [hs, ho] at hframe
      cases hframe
  | ok r =>
    cases ho : Source.relation ts (s.map Source.outline) with
    | error e =>
      rw [hs, ho] at hframe
      cases hframe
    | ok r' =>
      rw [hs, ho] at hframe
      exact congrArg check (Except.ok.inj hframe)

theorem Source.terms_outline (s : Option Source) :
    Source.terms (s.map Source.outline) = (Source.terms s).map Term.outline := by
  cases s <;> simp [Source.terms, Source.outline, Join.outline, Function.comp_def]

/-- The terms of an outline are the outlines of the terms. -/
theorem Select.terms_outline (q : Select) : q.outline.terms = q.terms.map Term.outline := by
  have horder : q.outline.order.map SortKey.term = (q.order.map SortKey.term).map Term.outline := by
    simp [Select.outline, SortKey.outline, Function.comp_def]
  have hcondition : q.outline.condition.toList = q.condition.toList.map Term.outline := by
    cases hc : q.condition <;> simp [Select.outline, hc]
  have hsource : Source.terms q.outline.source = (Source.terms q.source).map Term.outline :=
    Source.terms_outline q.source
  have hcolumns : q.outline.columns = q.columns.map ResultColumn.outline := rfl
  simp only [Select.terms, hsource, hcondition, horder, hcolumns, List.map_append, List.filterMap_map,
    List.map_filterMap]
  congr 4
  funext c
  cases c <;> rfl

/-- A query and its outline return as many columns. -/
theorem Select.width_outline (q : Select) (f : Frame) : q.outline.width f = q.width f := by
  have hcolumn : ∀ c : ResultColumn, (c.outline.titles f).length = (c.titles f).length := by
    intro c
    cases c with
    | all => rfl
    | term t title => cases title <;> rfl
  simp [Select.width, Select.outline, List.length_flatMap, Function.comp_def, hcolumn]

/-- Ordinals among the keys are told by the outline. -/
theorem Select.checkOrder_outline (q : Select) (f : Frame) : q.outline.checkOrder f = q.checkOrder f := by
  unfold Select.checkOrder
  rw [q.width_outline]
  simp [Select.outline, SortKey.outline, List.all_map, Function.comp_def]

theorem Select.checkStar_outline (q : Select) : q.outline.checkStar = q.checkStar := by
  have hall : (q.columns.map ResultColumn.outline).contains .all = q.columns.contains .all := by
    rw [Bool.eq_iff_iff, List.contains_iff_mem, List.contains_iff_mem, List.mem_map]
    constructor
    · rintro ⟨c, hc, hall⟩
      cases c with
      | all => exact hc
      | term t title => cases hall
    · exact fun h => ⟨.all, h, rfl⟩
  have hsource : q.outline.source.isNone = q.source.isNone := by cases hs : q.source <;> simp [Select.outline, hs]
  unfold Select.checkStar
  rw [hsource]
  exact congrArg (fun b => if q.source.isNone && b then Except.error EngineError.noTables else .ok ()) hall

/-- A query is checked by its outline. -/
theorem Select.check_outline (q : Select) (ts : Tables) : q.outline.check ts = q.check ts := by
  have hcheck := Source.bind_outline ts q.source fun f => do
    q.checkStar
    checkTerms f q.terms
    q.checkOrder f
    return f
  unfold Select.check
  simp only [q.checkStar_outline, q.terms_outline, checkTerms_outline, q.checkOrder_outline]
  exact hcheck

/-- So are the rows of a source with a condition. -/
theorem Source.checkRows_outline (ts : Tables) (s : Source) (condition : Option Term) :
    (do
      let r ← Source.relation ts (some s.outline)
      checkTerms r.frame (Source.terms (some s.outline) ++ (condition.map Term.outline).toList)) =
      (do
        let r ← Source.relation ts (some s)
        checkTerms r.frame (Source.terms (some s) ++ condition.toList)) := by
  have hterms : Source.terms (some s.outline) ++ (condition.map Term.outline).toList =
      (Source.terms (some s) ++ condition.toList).map Term.outline := by
    rw [List.map_append, Option.toList_map]
    exact congrArg (· ++ _) (Source.terms_outline (some s))
  simp only [hterms, checkTerms_outline]
  exact Source.bind_outline ts (some s) fun f => checkTerms f (Source.terms (some s) ++ condition.toList)

end Sql

/-- Statements of one outline, whose texts are read to the end, can both be run or neither. -/
theorem Database.prepare_congr {s s' : Sql.Statement} (h : s.outline = s'.outline) (hs : isSendable s.text = true)
    (hs' : isSendable s'.text = true) (db : Database) : db.prepare s = db.prepare s' := by
  have hcheck : ∀ {q q' : Sql.Select}, q.outline = q'.outline → q.check db.tables = q'.check db.tables := by
    intro q q' hq
    rw [← q.check_outline, ← q'.check_outline, hq]
  have hterms : ∀ {c c' : Option Sql.Term}, c.map Sql.Term.outline = c'.map Sql.Term.outline →
      ∀ f : Frame, checkTerms f c.toList = checkTerms f c'.toList := by
    intro c c' hc f
    rw [← Sql.checkTerms_outline, ← Option.toList_map, hc, Option.toList_map, Sql.checkTerms_outline]
  cases s with
  | select q =>
    cases s' with
    | select q' => simp only [prepare, hs, hs', hcheck (Sql.Statement.select.inj h)]
    | _ => cases h
  | countOf q =>
    cases s' with
    | countOf q' => simp only [prepare, hs, hs', hcheck (Sql.Statement.countOf.inj h)]
    | _ => cases h
  | countRows source condition =>
    cases s' with
    | countRows source' condition' =>
      obtain ⟨hsource, hcondition⟩ := Sql.Statement.countRows.inj h
      have hrows := Sql.Source.checkRows_outline db.tables source condition
      rw [hsource, hcondition, Sql.Source.checkRows_outline] at hrows
      simp only [prepare, hs, hs', hrows]
    | _ => cases h
  | delete table condition =>
    cases s' with
    | delete table' condition' =>
      obtain ⟨rfl, hcondition⟩ := Sql.Statement.delete.inj h
      simp only [prepare, hs, hs', hterms hcondition]
    | _ => cases h
  | insert table columns values =>
    cases s' with
    | insert table' columns' values' =>
      obtain ⟨rfl, rfl, hvalues⟩ := Sql.Statement.insert.inj h
      have hlength : values.length = values'.length := by simpa using congrArg List.length hvalues
      simp only [prepare, hs, hs', hlength]
    | _ => cases h
  | update table column value condition =>
    cases s' with
    | update table' column' value' condition' =>
      obtain ⟨rfl, rfl, -, hcondition⟩ := Sql.Statement.update.inj h
      simp only [prepare, hs, hs', hterms hcondition]
    | _ => cases h
  | _ =>
    cases s' with
    | select q => cases h
    | countOf q => cases h
    | countRows source condition => cases h
    | delete table condition => cases h
    | insert table columns values => cases h
    | update table column value condition => cases h
    | _ => exact congrArg db.prepare h

/-! ## Rows and titles -/

/-- What a statement gives, without the titles of its rows. -/
def Outcome.untitled : Outcome → Outcome
  | .rows result => .rows { result with titles := [] }
  | o => o

/-- The rows of a query do not depend on the titles of its columns. -/
theorem Sql.Select.run_untitled (q : Sql.Select) (titles : List String) (ts : Tables) :
    q.untitled.run titles ts = q.run titles ts := by
  have hvalues : ∀ f row, q.untitled.columns.flatMap (fun c => c.values f row) =
      q.columns.flatMap fun c => c.values f row := by
    intro f row
    rw [Sql.Select.untitled, List.flatMap_map]
    congr 1
    funext c
    cases c <;> rfl
  have hcasts : ∀ f, q.untitled.columns.flatMap (fun c => c.castsToText f) =
      q.columns.flatMap fun c => c.castsToText f := by
    intro f
    rw [Sql.Select.untitled, List.flatMap_map]
    congr 1
    funext c
    cases c <;> rfl
  have hrow : ∀ f, q.untitled.resultRow f = q.resultRow f := by
    intro f
    funext row
    simp only [Sql.Select.resultRow, hvalues]
    rfl
  have hrows : ∀ r, q.untitled.resultRows r = q.resultRows r := by
    intro r
    simp only [Sql.Select.resultRows, hrow]
    rfl
  unfold Sql.Select.run Sql.Select.isDamaged
  simp only [hrows, hcasts]
  rfl

namespace Database

/-- A statement without titles is run as it is. -/
theorem run_untitled (s : Sql.Statement) (titles : List String) (db : Database) :
    Database.run titles s.untitled db = Database.run titles s db := by
  cases s with
  | select q => simp only [Sql.Statement.untitled, Database.run, q.run_untitled]
  | countOf q => simp only [Sql.Statement.untitled, Database.run, q.run_untitled]
  | _ => rfl

/-- The titles under which a statement is run are only those of its rows. -/
theorem run_titles (s : Sql.Statement) (titles titles' : List String) (db : Database) :
    ((Database.run titles s db).1.map Outcome.untitled, (Database.run titles s db).2) =
      ((Database.run titles' s db).1.map Outcome.untitled, (Database.run titles' s db).2) := by
  cases s with
  | select q =>
    simp only [Database.run, Sql.Select.run]
    cases Sql.Source.relation db.tables q.source <;> rfl
  | countOf q =>
    simp only [Database.run, Sql.Select.run]
    cases Sql.Source.relation db.tables q.source <;> rfl
  | countRows source condition =>
    simp only [Database.run]
    cases Sql.Source.relation db.tables (some source) <;> rfl
  | _ => rfl

/-- Statements that differ in titles only are run alike, but for the titles of their rows. -/
theorem run_congr {s s' : Sql.Statement} (h : s.untitled = s'.untitled) (titles titles' : List String) (db : Database) :
    ((Database.run titles s db).1.map Outcome.untitled, (Database.run titles s db).2) =
      ((Database.run titles' s' db).1.map Outcome.untitled, (Database.run titles' s' db).2) := by
  rw [← run_untitled s, ← run_untitled s', h]
  exact run_titles s'.untitled titles titles' db

end Database

end SqlMapper
