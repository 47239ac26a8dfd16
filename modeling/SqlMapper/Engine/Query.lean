import SqlMapper.Engine.Store
import SqlMapper.Sql.StatementReader

/-!
# Running queries

A query joins its tables row by row, keeps the rows for which the condition holds, and computes its
columns; then equal rows are dropped, the rest is ordered, and the page is cut out. Rows come in the
order of the row numbers, those of the first table first. Equal rows are dropped after the first of
them, and rows with equal keys stay in the order in which they came. A key that is a number written
out means the result column of that number.
-/

namespace SqlMapper

/-- The tables of a database. -/
abbrev Tables := List StoredTable

/-- The table of a name, in any case. -/
def Tables.find (ts : Tables) (name : String) : Except EngineError StoredTable :=
  match List.find? (fun t : StoredTable => Sql.sameWord t.name name) ts with
  | some t => .ok t
  | none => .error (.noSuchTable name)

/-- A relation: the columns of its rows, and the rows. -/
structure Relation where
  frame : Frame
  rows : List (List Native)

/-- The rows of a table. -/
def StoredTable.relation (t : StoredTable) : Relation := ⟨t.frame, t.rows.map StoredRow.values⟩

/-- A row for each row of the left side and each row of the right side for which the condition
holds; a left join has a row with nulls where there is none. -/
def Relation.join (left : Relation) (kind : Sql.JoinKind) (right : Relation) (condition : Sql.Term) :
    Relation :=
  let frame := left.frame ++ right.frame
  let rows := left.rows.flatMap fun l =>
    let matching := (right.rows.map fun r => l ++ r).filter fun row => condition.holds frame row
    if matching.isEmpty ∧ kind = .left then [l ++ right.frame.map fun _ => .null] else matching
  ⟨frame, rows⟩

/-- The rows for which a condition holds, if there is one. -/
def Relation.restrict (r : Relation) (condition : Option Sql.Term) : Relation :=
  match condition with
  | some t => { r with rows := r.rows.filter fun row => t.holds r.frame row }
  | none => r

/-- The tables of a source. -/
def Sql.Source.tables (ts : Tables) (s : Sql.Source) :
    Except EngineError (StoredTable × List (Sql.Join × StoredTable)) := do
  let first ← ts.find s.table
  let joined ← s.joins.mapM fun j => do return (j, ← ts.find j.table)
  return (first, joined)

/-- The rows of a source. Without a source there is one row without columns. -/
def Sql.Source.relation (ts : Tables) : Option Sql.Source → Except EngineError Relation
  | none => .ok ⟨[], [[]]⟩
  | some s => do
    let (first, joined) ← s.tables ts
    return joined.foldl (fun r j => r.join j.1.kind j.2.relation j.1.condition) first.relation

/-! ## Checks -/

/-- The terms of a source, all of which see all tables. -/
def Sql.Source.terms : Option Sql.Source → List Sql.Term
  | some s => s.joins.map Sql.Join.condition
  | none => []

/-- The terms of a query. -/
def Sql.Select.terms (q : Sql.Select) : List Sql.Term :=
  Sql.Source.terms q.source ++
    q.columns.filterMap (fun c =>
      match c with
      | .all => none
      | .term t _ => some t) ++
    q.condition.toList ++ q.order.map Sql.SortKey.term

/-- Checks the names of terms. -/
def checkTerms (f : Frame) (terms : List Sql.Term) : Except EngineError Unit :=
  match terms.findSome? fun t => t.fault? f with
  | some e => .error e
  | none => .ok ()

/-! ## Columns -/

/-- The column that a term is, if it is one. -/
def Sql.Term.slot? (f : Frame) (t : Sql.Term) : Option Slot :=
  let slot (r : Reference) : Option Slot :=
    match r with
    | .at i => f[i]?
    | _ => none
  match t.bare with
  | .column table name => slot (f.find table name)
  | .word name => slot (f.find none name)
  | _ => none

/-- The titles of a result column: its own, the name of the column that it is, or its text. -/
def Sql.ResultColumn.titles (f : Frame) : Sql.ResultColumn → List String
  | .all => f.map Slot.name
  | .term _ (some title) => [title]
  | .term t none => [((t.slot? f).map Slot.name).getD t.text]

/-- The values of a result column on a row. -/
def Sql.ResultColumn.values (f : Frame) (row : List Native) : Sql.ResultColumn → List Native
  | .all => row
  | .term t _ => [t.eval f row]

/-- Which of the values of a result column are to be texts. -/
def Sql.ResultColumn.castsToText (f : Frame) : Sql.ResultColumn → List Bool
  | .all => f.map fun _ => false
  | .term t _ =>
    match t.bare with
    | .castText _ => [true]
    | _ => [false]

/-! ## Order and page -/

/-- A row of the result, with the keys that it is ordered by. -/
structure ResultRow where
  values : List Native
  keys : List Native

/-- Whether two rows are equal, value by value. -/
def sameRow : List Native → List Native → Bool
  | [], [] => true
  | a :: as, b :: bs => a.same b && sameRow as bs
  | _, _ => false

/-- The rows without those that equal an earlier one. -/
def dropRepeated (rows : List ResultRow) : List ResultRow :=
  rows.foldl (fun kept r => if kept.any fun k => sameRow k.values r.values then kept else kept ++ [r]) []

/-- The order of two lists of keys; the flags tell which keys descend. -/
def compareKeys : List Bool → List Native → List Native → Ordering
  | d :: ds, a :: as, b :: bs => (if d then b.compare a else a.compare b).then (compareKeys ds as bs)
  | _, _, _ => .eq

/-- The rows in the order of their keys. -/
def orderRows (descending : List Bool) (rows : List ResultRow) : List ResultRow :=
  rows.mergeSort fun a b => compareKeys descending a.keys b.keys != .gt

/-- The part of a list between an offset and a limit. A limit below zero is no limit, and an offset
below zero is zero. -/
def page {α : Type} (limit offset : Option Int) (rows : List α) : List α :=
  let rest := rows.drop (offset.getD 0).toNat
  match limit with
  | some n => if n < 0 then rest else rest.take n.toNat
  | none => rest

/-- Without a limit and an offset all rows are returned. -/
@[simp] theorem page_none {α : Type} (rows : List α) : page none none rows = rows := by
  simp [page]

/-- The offset comes off first, then the limit counts. -/
theorem page_some {α : Type} (limit offset : Nat) (rows : List α) :
    page (some limit) (some offset) rows = (rows.drop offset).take limit := by
  have h : ¬ (limit : Int) < 0 := by omega
  simp [page, h]

/-! ## Results -/

/-- What a query returns. -/
structure ResultSet where
  titles : List String
  rows : List (List Native)
  /-- Whether a value that was to be a text stayed a blob, so that the rows cannot be read. -/
  damaged : Bool := false
  deriving DecidableEq

/-- The value of a key on a row: that of a result column, or of a term. -/
def Sql.SortKey.value (f : Frame) (row values : List Native) (k : Sql.SortKey) : Native :=
  match k.number with
  | some n => values[(n - 1).toNat]?.getD .null
  | none => k.term.eval f row

/-- Computes the columns and keys of a row. -/
def Sql.Select.resultRow (q : Sql.Select) (f : Frame) (row : List Native) : ResultRow :=
  let values := q.columns.flatMap fun c => c.values f row
  ⟨values, q.order.map fun k => k.value f row values⟩

/-- The rows that a query returns of the rows of its source. -/
def Sql.Select.resultRows (q : Sql.Select) (r : Relation) : List (List Native) :=
  let rows := (r.restrict q.condition).rows.map (q.resultRow r.frame)
  let rows := if q.distinct then dropRepeated rows else rows
  let rows := orderRows (q.order.map Sql.SortKey.descending) rows
  (page q.limit q.offset rows).map ResultRow.values

/-- How many result columns a query has. -/
def Sql.Select.width (q : Sql.Select) (f : Frame) : Nat :=
  (q.columns.flatMap fun c => c.titles f).length

/-- Checks that the result columns that rows are ordered by are there. -/
def Sql.Select.checkOrder (q : Sql.Select) (f : Frame) : Except EngineError Unit :=
  if q.order.all fun k => k.number.all fun (n : Int) => 1 ≤ n ∧ n ≤ (q.width f : Int) then .ok ()
  else .error .noSuchResultColumn

/-- Checks that there are tables where all columns are asked for. -/
def Sql.Select.checkStar (q : Sql.Select) : Except EngineError Unit :=
  if q.source.isNone && q.columns.contains .all then .error .noTables else .ok ()

/-- Checks a query: its tables are there, and so are the columns that it names. -/
def Sql.Select.check (q : Sql.Select) (ts : Tables) : Except EngineError Frame := do
  let r ← Sql.Source.relation ts q.source
  q.checkStar
  checkTerms r.frame q.terms
  q.checkOrder r.frame
  return r.frame

/-- Whether a value that was to be a text stayed a blob. -/
def Sql.Select.isDamaged (q : Sql.Select) (f : Frame) (rows : List (List Native)) : Bool :=
  let casts := q.columns.flatMap fun c => c.castsToText f
  rows.any fun row => (row.zip casts).any fun p => p.2 && p.1.isBlob

/-- Runs a query; its rows under the given titles. -/
def Sql.Select.run (q : Sql.Select) (titles : List String) (ts : Tables) :
    Except EngineError ResultSet := do
  let r ← Sql.Source.relation ts q.source
  let rows := q.resultRows r
  return ⟨titles, rows, q.isDamaged r.frame rows⟩

end SqlMapper
