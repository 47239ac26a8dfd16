import SqlMapper.Proofs.Connection.ReadBack
import SqlMapper.Proofs.Engine.Comparing

/-!
# Comparisons and orders of values

A query compares columns with one another and with constants, and orders its rows by columns. The database compares
the stored forms; as long as these are in the order of the values, the query returns the rows for which the values
compare so, in the order of the values (`query_compared`).
-/

namespace SqlMapper

/-! ## Values of columns -/

/-- A column of an ordered kind, where each row has the stored form of a value. -/
structure Table.ValuesAt (t : Table) (stored : StoredTable) (coercion : Coercion) (c : Column)
    (value : StoredRow → Scalar) : Prop where
  ordered : c.kind.isOrdered = true
  rows : ∃ i : Nat, t.columns[i]? = some c ∧
    ∀ r ∈ stored.rows, (value r).IsOf c.kind ∧ ∃ n, (value r).toNative coercion = .ok n ∧ r.values[i]? = some n

/-- The values of the rows of a table, column by column. -/
abbrev RowValues := Column → StoredRow → Scalar

/-- The order of two rows by their values at columns, each of which may descend. -/
def RowValues.compare (values : RowValues) (keys : List (Column × Bool)) (a b : StoredRow) : Ordering :=
  Scalar.orderKeys (keys.map Prod.snd) (keys.map fun k => values k.1 a) (keys.map fun k => values k.1 b)

/-! ## Comparisons -/

/-- An operand of a comparison. -/
inductive Operand where
  | column (c : Column)
  | constant (v : Scalar)

/-- A comparison of two operands. -/
structure Comparison where
  op : Operator
  test : Ordering → Bool
  asks : op.asks? = some test
  left : Operand
  right : Operand

namespace Operand

def expr : Operand → Expr
  | .column c => .ofColumn c.name
  | .constant v => .constant v

/-- The value of an operand on a row. -/
def value (values : RowValues) (r : StoredRow) : Operand → Scalar
  | .column c => values c r
  | .constant v => v

/-- An operand that is a column of values of a kind, or a constant of the kind that can be stored. -/
def HasKind (t : Table) (stored : StoredTable) (coercion : Coercion) (values : RowValues) (kind : Kind) : Operand → Prop
  | .column c => c.kind = kind ∧ t.ValuesAt stored coercion c (values c)
  | .constant v => v.kind? = some kind ∧ ∃ n, v.toNative coercion = .ok n

end Operand

namespace Comparison

def expr (p : Comparison) : Expr := .binary p.op p.left.expr p.right.expr

/-- Whether the values of a row compare so. -/
def keeps (p : Comparison) (values : RowValues) (r : StoredRow) : Bool :=
  (p.left.value values r).compares p.test (p.right.value values r)

/-- A comparison of two operands of one kind, in whose order their stored forms are. -/
def Compares (t : Table) (stored : StoredTable) (coercion : Coercion) (values : RowValues) (p : Comparison) : Prop :=
  ∃ kind, kind.isOrdered = true ∧ p.left.HasKind t stored coercion values kind ∧
    p.right.HasKind t stored coercion values kind ∧
    ∀ r ∈ stored.rows, (p.left.value values r).KeepsOrder coercion (p.right.value values r)

end Comparison

/-! ## Operands as terms -/

/-- A value as it is stored. -/
def Scalar.stored (coercion : Coercion) (v : Scalar) : Native := (v.toNative coercion).toOption.getD .null

theorem Scalar.stored_eq {coercion : Coercion} {v : Scalar} {n : Native} (h : v.toNative coercion = .ok n) :
    v.stored coercion = n := by
  rw [Scalar.stored, h]
  rfl

namespace Operand

def term : Operand → Sql.Term
  | .column c => .column none c.name
  | .constant _ => .constant .placeholder

/-- The values of the places of an operand. -/
def params (coercion : Coercion) : Operand → List Native
  | .column _ => []
  | .constant v => [v.stored coercion]

/-- The term with its places filled. -/
def filled (coercion : Coercion) : Operand → Sql.Term
  | .column c => .column none c.name
  | .constant v => .constant (.literal (v.stored coercion))

end Operand

/-! ## Comparisons on rows -/

section Rows

variable {t : Table} {stored : StoredTable} {ts : Tables} {coercion : Coercion} {values : RowValues} {kind : Kind}

/-- Values of ordered kinds are not stored as reals. -/
theorem ne_real_of_isOrdered (hkind : kind.isOrdered = true) {v : Scalar} (hv : v.kind? = some kind) {n : Native}
    (hn : v.toNative coercion = .ok n) (x : Binary64) : n ≠ .real x := by
  rintro rfl
  rcases of_toNative_real hn with rfl | h | h
  · obtain rfl := Option.some.inj hv
    cases hkind
  · obtain rfl := Option.some.inj (hv.symm.trans h)
    cases hkind
  · obtain rfl := Option.some.inj (hv.symm.trans h)
    cases hkind

namespace Operand

variable {x : Operand}

theorem compile_expr (hkind : kind.isOrdered = true) (h : x.HasKind t stored coercion values kind) :
    Compiler.compile ⟨.single t, .positional, coercion⟩ x.expr = .ok ⟨x.term, x.params coercion⟩ := by
  cases x with
  | column c =>
    obtain ⟨i, hi, -⟩ := h.2.rows
    simp only [expr, Expr.ofColumn, Compiler.compile, resolve_single (List.mem_of_getElem? hi)]
    rfl
  | constant v =>
    obtain ⟨hv, n, hn⟩ := h
    have hnull := (isNull_toNative hv hn).2
    have hchecked : n.checkLiteral = .ok n := by
      unfold Native.checkLiteral
      split
      · exact absurd rfl (ne_real_of_isOrdered hkind hv hn _)
      · rfl
    simp [expr, Compiler.compile, Compiler.constant, hn, Error.ofCoercion, bind, Except.bind, pure, Except.pure,
      hchecked, hnull, term, params, Scalar.stored_eq hn, Bound.map]

/-- An operand as it is emitted. -/
def emitted : Operand → Emitted
  | .column c => .column none c.name
  | .constant _ => .constant .placeholder

theorem written_emitted (x : Operand) : x.emitted.written = x.term := by
  cases x <;> rfl

/-- The term of an operand can be prepared. -/
theorem prepared_term (hstored : t.StoredAs ts stored) (h : x.HasKind t stored coercion values kind) :
    x.term.fault? stored.frame = none ∧ isSendable x.term.text = true := by
  cases x with
  | column c =>
    obtain ⟨i, hi, -⟩ := h.2.rows
    have hc := List.mem_of_getElem? hi
    exact ⟨hstored.fault?_column hc,
      isSendable_quoteIdentifier (hstored.sendable c.name (List.mem_cons_of_mem _ (List.mem_map_of_mem hc)))⟩
  | constant v =>
    have hsend : isSendable (Sql.Term.constant .placeholder).text = true := by decide
    exact ⟨rfl, hsend⟩

/-- The places of an operand are filled with its values. -/
theorem fill_term (hkind : kind.isOrdered = true) (h : x.HasKind t stored coercion values kind) (rest : List Native) :
    x.term.fill (x.params coercion ++ rest) = (x.filled coercion, rest) := by
  cases x with
  | column c => rfl
  | constant v =>
    obtain ⟨hv, n, hn⟩ := h
    have hbound : Sql.boundValue n = n := by
      unfold Sql.boundValue
      split
      · exact absurd rfl (ne_real_of_isOrdered hkind hv hn _)
      · rfl
    simp [term, params, filled, Sql.Term.fill, Sql.Constant.placeholder, Sql.Constant.fill, Sql.nextValue,
      Scalar.stored_eq hn, hbound]

/-- Its value on a row is of the kind, and its term is evaluated to the stored form of the value. -/
theorem eval_filled (hstored : t.StoredAs ts stored) (h : x.HasKind t stored coercion values kind) {r : StoredRow}
    (hr : r ∈ stored.rows) : (x.value values r).IsOf kind ∧
      (x.value values r).toNative coercion = .ok ((x.filled coercion).eval stored.frame r.values) := by
  cases x with
  | column c =>
    obtain ⟨rfl, -, i, hi, hrows⟩ := h
    obtain ⟨hof, n, hn, hvalue⟩ := hrows r hr
    refine ⟨hof, ?_⟩
    rw [filled, hstored.eval_column hi, hvalue]
    exact hn
  | constant v =>
    obtain ⟨hv, n, hn⟩ := h
    refine ⟨.inr hv, ?_⟩
    rw [filled, Scalar.stored_eq hn]
    exact hn

/-- Only integers are compared as numbers. -/
theorem isInteger_of_isNumeric (hstored : t.StoredAs ts stored) (h : x.HasKind t stored coercion values kind)
    (hnumeric : (x.filled coercion).isNumeric stored.frame = true) : kind.isInteger = true := by
  cases x with
  | column c =>
    obtain ⟨rfl, -, i, hi, -⟩ := h
    rw [filled, Sql.Term.isNumeric, hstored.find_column hi] at hnumeric
    simp only [hstored.slot hi, Option.map_some, Option.getD_some, Bool.and_eq_true] at hnumeric
    exact hnumeric.2
  | constant v => cases hnumeric

end Operand

namespace Comparison

variable {p : Comparison}

/-- The SQL operator of a comparison. -/
def sqlOp (p : Comparison) : Sql.BinaryOp := p.op.toSql?.getD .eq

def term (p : Comparison) : Sql.Term := .paren (.binary p.sqlOp p.left.term p.right.term)

def params (coercion : Coercion) (p : Comparison) : List Native := p.left.params coercion ++ p.right.params coercion

theorem toSql?_op (p : Comparison) : p.op.toSql? = some p.sqlOp := by
  obtain ⟨op, test, hasks, left, right⟩ := p
  cases op <;> cases hasks <;> rfl

theorem compile_expr (h : p.Compares t stored coercion values) :
    Compiler.compile ⟨.single t, .positional, coercion⟩ p.expr = .ok ⟨p.term, p.params coercion⟩ := by
  obtain ⟨kind, hkind, hleft, hright, -⟩ := h
  obtain ⟨-, -, hwritten⟩ := Operator.asks?_spec p.asks p.toSql?_op
  have hnull : p.right.term ≠ .null := by
    cases p.right <;> exact nofun
  simp only [expr, Compiler.compile, p.toSql?_op, Operand.compile_expr hkind hleft,
    Operand.compile_expr hkind hright, bind, Except.bind, hwritten _ _ hnull]
  rfl

/-- The filled condition holds on the rows on which the values compare so. -/
theorem holds_fill (hstored : t.StoredAs ts stored) (h : p.Compares t stored coercion values) {r : StoredRow}
    (hr : r ∈ stored.rows) :
    (p.term.fill (p.params coercion)).1.holds stored.frame r.values = p.keeps values r := by
  obtain ⟨kind, hkind, hleft, hright, hkeeps⟩ := h
  obtain ⟨hcompares, hoperate, -⟩ := Operator.asks?_spec p.asks p.toSql?_op
  obtain ⟨hof, hn⟩ := Operand.eval_filled hstored hleft hr
  obtain ⟨hof', hn'⟩ := Operand.eval_filled hstored hright hr
  have hfill := Operand.fill_term hkind hleft (p.right.params coercion)
  have hfill' := Operand.fill_term hkind hright []
  rw [List.append_nil] at hfill'
  have hfilled : (p.term.fill (p.params coercion)).1 =
      .paren (.binary p.sqlOp (p.left.filled coercion) (p.right.filled coercion)) := by
    simp only [term, params, Sql.Term.fill, hfill, hfill']
  rw [hfilled]
  refine holds_binary hcompares hoperate hkind hof hof' hn hn' (hkeeps r hr) fun hnumeric => ?_
  rcases Bool.or_eq_true_iff.1 hnumeric with h | h
  · exact Operand.isInteger_of_isNumeric hstored hleft h
  · exact Operand.isInteger_of_isNumeric hstored hright h

/-- The condition as it is emitted. -/
def emitted (p : Comparison) : Emitted := .binary p.sqlOp p.left.emitted p.right.emitted

theorem written_emitted (p : Comparison) : p.emitted.written = p.term := by
  rw [emitted, Emitted.written, Operand.written_emitted, Operand.written_emitted, term]

/-- The condition is read as it is written. -/
theorem grouped_term (p : Comparison) : p.term.grouped = p.term := by
  have hread : p.emitted.read = p.emitted.written := by
    obtain ⟨op, test, hasks, left, right⟩ := p
    cases op <;> cases hasks <;> cases left <;> cases right <;> rfl
  rw [← written_emitted, Emitted.grouped_written, hread]

/-- The places of the condition are question marks. -/
theorem places_term (p : Comparison) : ∀ q ∈ p.term.places, q = .anonymous := by
  have hoperand : ∀ x : Operand, ∀ q ∈ x.term.places, q = .anonymous := by
    intro x
    cases x <;> simp [Operand.term, Sql.Term.places, Sql.Constant.placeholder, Sql.Constant.places]
  intro q hq
  rcases List.mem_append.1 hq with hq | hq
  · exact hoperand _ q hq
  · exact hoperand _ q hq

/-- The condition can be prepared: its names are columns, and its text can be sent. -/
theorem prepared_term (hstored : t.StoredAs ts stored) (h : p.Compares t stored coercion values) :
    p.term.fault? stored.frame = none ∧ isSendable p.term.text = true := by
  obtain ⟨kind, -, hleft, hright, -⟩ := h
  obtain ⟨hfault, hsend⟩ := Operand.prepared_term hstored hleft
  obtain ⟨hfault', hsend'⟩ := Operand.prepared_term hstored hright
  have hop : isSendable p.sqlOp.text = true := by cases p.sqlOp <;> decide
  refine ⟨?_, ?_⟩
  · rw [term, Sql.Term.fault?, Sql.Term.fault?, hfault, hfault']
    rfl
  · simp only [term, Sql.Term.text, isSendable_append_eq, hsend, hsend', hop]
    decide

end Comparison

/-! ## Orders -/

/-- Rows are in the order of their values at columns when the stored forms are. -/
theorem compareRows_eq (hstored : t.StoredAs ts stored) {keys : List (Column × Bool)}
    (hkeys : ∀ k ∈ keys, t.ValuesAt stored coercion k.1 (values k.1) ∧
      ∀ a ∈ stored.rows, ∀ b ∈ stored.rows, (values k.1 a).KeepsOrder coercion (values k.1 b))
    {a b : StoredRow} (ha : a ∈ stored.rows) (hb : b ∈ stored.rows) :
    stored.compareRows keys a b = values.compare keys a b := by
  have hstoredKeys : Scalar.KeysStored coercion (keys.map fun k => values k.1 a) (keys.map fun k => values k.1 b)
      (keys.map fun k => (Sql.Term.column none k.1.name).eval stored.frame a.values)
      (keys.map fun k => (Sql.Term.column none k.1.name).eval stored.frame b.values) := by
    induction keys with
    | nil => exact .nil
    | cons k rest ih =>
      obtain ⟨⟨hkind, i, hi, hrows⟩, hkeeps⟩ := hkeys k List.mem_cons_self
      obtain ⟨hof, n, hn, hvalue⟩ := hrows a ha
      obtain ⟨hof', n', hn', hvalue'⟩ := hrows b hb
      simp only [List.map_cons, hstored.eval_column hi, hvalue, hvalue', Option.getD_some]
      exact .cons hkind hof hof' hn hn' (hkeeps a ha b hb) (hkeeps b hb a ha)
        (ih fun k hk => hkeys k (List.mem_cons_of_mem _ hk))
  exact hstoredKeys.compareKeys_eq _

end Rows

/-! ## Queries -/

/-- The query for the rows of a table for which a comparison holds, if there is one, in an order. -/
def Table.compared (t : Table) (p : Option Comparison) (keys : List (Column × Bool)) : Query where
  selection := (Source.ofTable t).selectAll
  predicate := p.map Comparison.expr
  keys := keys.map fun k => ⟨.ofColumn k.1.name, k.2⟩

section Queries

variable {t : Table} {stored : StoredTable} {c : Connection} {values : RowValues}

/-- The keys of the order are compiled to the columns. -/
theorem compile_keys {keys : List (Column × Bool)} (h : ∀ k ∈ keys, k.1 ∈ t.columns) (r : Rendering) :
    r.keys (.single t) (keys.map fun k => ⟨.ofColumn k.1.name, k.2⟩) = .ok ⟨keys.map fun k => k.1.sortKey k.2, []⟩ := by
  induction keys with
  | nil => rfl
  | cons k rest ih =>
    have hrest := ih fun k hk => h k (List.mem_cons_of_mem _ hk)
    have hfirst : (r.compiler (.single t)).compile (.ofColumn k.1.name) = .ok ⟨.column none k.1.name, []⟩ := by
      simp only [Expr.ofColumn, Compiler.compile, Rendering.compiler, resolve_single (h k List.mem_cons_self)]
      rfl
    simp only [List.map_cons, Rendering.keys, hfirst, hrest, bind, Except.bind, pure, Except.pure, List.nil_append,
      Column.sortKey]

/-- The statement of the query. -/
theorem statement_compared {p : Option Comparison} (hp : ∀ q ∈ p, q.Compares t stored c.coercion values)
    {keys : List (Column × Bool)} (hkeys : ∀ k ∈ keys, k.1 ∈ t.columns) :
    (t.compared p keys).statement c.rendering = .ok ⟨.select (t.rowsOrdered (p.map Comparison.term) keys),
      (p.map (Comparison.params c.coercion)).getD []⟩ := by
  have hpredicate : c.rendering.predicate (.single t) (p.map Comparison.expr) =
      .ok ⟨p.map Comparison.term, (p.map (Comparison.params c.coercion)).getD []⟩ := by
    cases p with
    | none => rfl
    | some q =>
      have hcompiled := Comparison.compile_expr (hp q rfl)
      simp only [Option.map_some, Rendering.predicate, Rendering.compiler, Connection.rendering, hcompiled, bind,
        Except.bind, pure, Except.pure, Bound.map, Option.getD_some]
  have hcompile : (t.compared p keys).compile c.rendering =
      c.rendering.predicate (.single t) (p.map Comparison.expr) >>= fun condition =>
        c.rendering.keys (.single t) (keys.map fun k => ⟨.ofColumn k.1.name, k.2⟩) >>= fun order =>
          .ok ⟨.ofTerms false (Scope.single t).allColumns ⟨t.name, []⟩ condition.sql order.sql none none,
            [] ++ [] ++ condition.params ++ order.params⟩ := rfl
  rw [Query.statement, hcompile, hpredicate, compile_keys hkeys, allColumns_single]
  simp only [bind, Except.bind, pure, Except.pure, List.nil_append, List.append_nil]
  rfl

/-- The query returns the rows whose values compare so, in the order of the values. -/
theorem query_compared (hstored : t.StoredAs c.store.tables stored) {p : Option Comparison}
    (hp : ∀ q ∈ p, q.Compares t stored c.coercion values) {keys : List (Column × Bool)}
    (hkeys : ∀ k ∈ keys, t.ValuesAt stored c.coercion k.1 (values k.1) ∧
      ∀ a ∈ stored.rows, ∀ b ∈ stored.rows, (values k.1 a).KeepsOrder c.coercion (values k.1 b)) :
    (Connection.query (t.compared p keys) [] c).1 =
      .ok (((stored.rows.filter fun r => p.all fun q => q.keeps values r).mergeSort fun a b =>
        values.compare keys a b != .gt).map
        fun r => ⟨t.columns.map Column.name, t.shown r.values, c.coercion⟩) := by
  have hcolumns : ∀ k ∈ keys, k.1 ∈ t.columns := by
    intro k hk
    obtain ⟨i, hi, -⟩ := (hkeys k hk).1.rows
    exact List.mem_of_getElem? hi
  have hrows := query_rowsOrdered (k := .ordered (t.compared p keys)) hstored rfl hcolumns
    (statement_compared hp hcolumns)
    (fun x hx => by
      obtain ⟨q, -, rfl⟩ := Option.map_eq_some_iff.1 hx
      exact q.grouped_term)
    (fun x hx => by
      obtain ⟨q, hq, rfl⟩ := Option.map_eq_some_iff.1 hx
      exact Comparison.prepared_term hstored (hp q hq))
    (fun place hplace => by
      cases p with
      | none => cases hplace
      | some q => exact q.places_term place hplace)
  have hkeeps : ∀ r ∈ stored.rows, stored.test (Sql.fillOptional (p.map Comparison.term)
      ((p.map (Comparison.params c.coercion)).getD [])).1 r.values = p.all fun q => q.keeps values r := by
    intro r hr
    cases p with
    | none => rfl
    | some q => exact Comparison.holds_fill hstored (hp q rfl) hr
  have horder : ∀ a ∈ stored.rows.filter fun r => p.all fun q => q.keeps values r,
      ∀ b ∈ stored.rows.filter fun r => p.all fun q => q.keeps values r,
        (stored.compareRows keys a b != .gt) = (values.compare keys a b != .gt) := by
    intro a ha b hb
    rw [compareRows_eq hstored hkeys (List.mem_filter.1 ha).1 (List.mem_filter.1 hb).1]
  rw [hrows, List.filter_congr hkeeps, mergeSort_congr horder]

end Queries

/-! ## Stored forms and values -/

/-- Stored forms compare as the values do. Under any settings those of two values of an ordered kind, or nulls, are
equal, less and greater as the values are, unless both are date-times as text. Such texts are in the order of the
times that they show, to the second, and then of what follows; with one offset or in different seconds they are in
the order of the instants exactly if that keeps the order. So a comparison of two terms holds on a row as the values
compare, keys are in the order of the values, and a query for the rows of a table returns those whose values compare
so, in the order of the values. -/
theorem stored_forms_compare_as_values :
    (∀ (options : Coercion) (kind : Kind) (a b : Scalar) (m n : Native), kind.isOrdered = true →
      a.IsOf kind → b.IsOf kind → a.toNative options = .ok m → b.toNative options = .ok n → a.KeepsOrder options b →
        m.compare n = a.order b ∧ m.same n = a.eqv b) ∧
    (∀ (options : Coercion) (s t : DateTime) (m n : Native), options.dateTimeAsTicks = false →
      (Scalar.dateTime s).toNative options = .ok m → (Scalar.dateTime t).toNative options = .ok n →
        m.compare n = (compare s.localSecond t.localSecond).then
          (compare (DateTime.fractionText s.subsecond ++ s.zone) (DateTime.fractionText t.subsecond ++ t.zone)) ∧
        (s.offset = t.offset ∨ s.localSecond ≠ t.localSecond →
          (m.compare n = compare s.nanos t.nanos ↔ (Scalar.dateTime s).KeepsOrder options (.dateTime t)))) ∧
    (∀ (options : Coercion) (kind : Kind) (a b : Scalar) (op : Operator) (test : Ordering → Bool) (o : Sql.BinaryOp)
      (l r : Sql.Term) (f : Frame) (row : List Native), kind.isOrdered = true → a.IsOf kind → b.IsOf kind →
      a.KeepsOrder options b → op.asks? = some test → op.toSql? = some o → a.toNative options = .ok (l.eval f row) →
      b.toNative options = .ok (r.eval f row) → r ≠ .null →
        ((l.isNumeric f || r.isNumeric f) = true → kind.isInteger = true) →
        (Sql.Term.operate o l r).holds f row = a.compares test b) ∧
    (∀ (options : Coercion) (descending : List Bool) (as bs : List Scalar) (ms ns : List Native),
      Scalar.KeysStored options as bs ms ns → compareKeys descending ms ns = Scalar.orderKeys descending as bs) ∧
    ∀ (c : Connection) (t : Table) (stored : StoredTable) (values : RowValues) (p : Option Comparison)
      (keys : List (Column × Bool)),
      t.StoredAs c.store.tables stored → (∀ q ∈ p, q.Compares t stored c.coercion values) →
      (∀ k ∈ keys, t.ValuesAt stored c.coercion k.1 (values k.1) ∧
        ∀ a ∈ stored.rows, ∀ b ∈ stored.rows, (values k.1 a).KeepsOrder c.coercion (values k.1 b)) →
      (Connection.query (t.compared p keys) [] c).1 =
        .ok (((stored.rows.filter fun r => p.all fun q => q.keeps values r).mergeSort fun a b =>
          values.compare keys a b != .gt).map
          fun r => ⟨t.columns.map Column.name, t.shown r.values, c.coercion⟩) := by
  refine ⟨fun options kind a b m n hkind ha hb hm hn hkeeps => ?values, fun options s t m n ho hm hn => ?texts,
    fun options kind a b op test o l r f row hkind ha hb hkeeps hasks ho hl hr hnull hnumeric => ?terms,
    fun options descending as bs ms ns h => h.compareKeys_eq descending,
    fun c t stored values p keys hstored hp hkeys => query_compared hstored hp hkeys⟩
  case values =>
    have hcompare := hkeeps.compare_eq hkind ha hb hm hn
    refine ⟨hcompare, ?_⟩
    rw [Native.same, hcompare, Bool.eq_iff_iff, beq_iff_eq]
    exact Scalar.order_eq_iff hkind ha hb
  case texts =>
    obtain ⟨a, ha, rfl⟩ := exists_text ho hm
    obtain ⟨b, hb, rfl⟩ := exists_text ho hn
    have htexts : (Native.text a).compare (.text b) = compare a b := compareBytes_textBytes a b
    rw [htexts]
    exact ⟨DateTime.compare_text ha hb, fun hapart => DateTime.compare_text_eq_iff ha hb ho hapart⟩
  case terms =>
    obtain ⟨hcompares, hoperate, hwritten⟩ := Operator.asks?_spec hasks ho
    rw [hwritten l r hnull]
    exact holds_binary hcompares hoperate hkind ha hb hl hr hkeeps hnumeric

/-- Rows come in the order of date-times as text that show times in their order, though at different offsets; one
that is cut short comes after the other. -/
theorem stored_forms_compare_as_values_text :
    let earlier : DateTime := ⟨1577838600000000000, 0⟩
    let later : DateTime := ⟨1577840400000000000, 3600⟩
    let options : Coercion := ⟨false⟩
    let f : Frame := [⟨"event", "start", false⟩]
    let start : Column := { name := "start", property := "Start", kind := .dateTime }
    let t : Table := ⟨"event", [start], by decide +kernel⟩
    let created := (Connection.createTable t []
      (Connection.open none { Config.inMemory with dateTimeAsTicks := false })).2
    let c := (Connection.insert t [.dateTime earlier] (Connection.insert t [.dateTime later] created).2).2
    let p : Comparison := ⟨.ge, (· != .lt), rfl, .column start, .constant (.dateTime earlier)⟩
    (Native.text "2020-01-01T00:30:00Z").compare (.text "2020-01-01T02:00:00+01:00") = .lt ∧
      ¬(Scalar.dateTime ⟨1577838600500000000, 0⟩).KeepsOrder options (.dateTime earlier) ∧
      (Sql.Term.operate .gt (.column none "start") (.string "2020-01-01T00:30:00Z")).holds f
        [.text "2020-01-01T02:00:00+01:00"] = true ∧
      compareKeys [true] [.text "2020-01-01T00:30:00Z"] [.text "2020-01-01T02:00:00+01:00"] = .gt ∧
      (Connection.query (t.compared (some p) [(start, false)]) [] c).1 =
        .ok [⟨["start"], [.text "2020-01-01T00:30:00Z"], c.coercion⟩,
          ⟨["start"], [.text "2020-01-01T02:00:00+01:00"], c.coercion⟩] := by
  intro earlier later options f start t created c p
  have hearlier : (Scalar.dateTime earlier).toNative options = .ok (.text "2020-01-01T00:30:00Z") := by decide +kernel
  have hlater : (Scalar.dateTime later).toNative options = .ok (.text "2020-01-01T02:00:00+01:00") := by decide +kernel
  have hkeeps : ∀ s ∈ [earlier, later], ∀ t ∈ [earlier, later],
      (Scalar.dateTime s).KeepsOrder options (.dateTime t) := by
    have hshown : ∀ s ∈ [earlier, later], ∀ t ∈ [earlier, later],
        compare s.localSecond t.localSecond = compare s.nanos t.nanos := by decide +kernel
    exact fun s hs t ht => .inr (.inr (hshown s hs t ht))
  have hforward := hkeeps earlier (by simp) later (by simp)
  have hbackward := hkeeps later (by simp) earlier (by simp)
  obtain ⟨hvalues, htexts, hterms, hkeys, hquery⟩ := stored_forms_compare_as_values
  refine ⟨?_, ?_, ?_, ?_, ?_⟩
  · exact (hvalues options .dateTime _ _ _ _ rfl (.inr rfl) (.inr rfl) hearlier hlater hforward).1
  · have hcut : (Scalar.dateTime ⟨1577838600500000000, 0⟩).toNative options = .ok (.text "2020-01-01T00:30:00.5Z") := by
      decide +kernel
    intro h
    have hinstants := ((htexts options _ _ _ _ rfl hcut hearlier).2 (.inl rfl)).2 h
    revert hinstants
    decide +kernel
  · exact hterms options .dateTime (.dateTime later) (.dateTime earlier) .gt _ .gt (.column none "start")
      (.string "2020-01-01T00:30:00Z") f [.text "2020-01-01T02:00:00+01:00"] rfl (.inr rfl)
      (.inr rfl) hbackward rfl rfl hlater hearlier nofun nofun
  · exact hkeys options [true] _ _ _ _ (.cons rfl (.inr rfl) (.inr rfl) hearlier hlater hforward hbackward .nil)
  · let first : StoredRow := ⟨1, [.text "2020-01-01T02:00:00+01:00"]⟩
    let second : StoredRow := ⟨2, [.text "2020-01-01T00:30:00Z"]⟩
    let stored : StoredTable := ⟨"event", t.storedColumns [], [first, second]⟩
    let values : RowValues := fun _ r => .dateTime (if r.number = 1 then later else earlier)
    have hcoercion : c.coercion = options := by decide +kernel
    have hstored : t.StoredAs c.store.tables stored :=
      ⟨by decide +kernel, ⟨[], rfl⟩, List.pairwise_singleton _ _, by decide +kernel⟩
    have hrows : ∀ r ∈ stored.rows, ∃ d ∈ [earlier, later], values start r = .dateTime d ∧
        ∃ n, (Scalar.dateTime d).toNative options = .ok n ∧ r.values[0]? = some n := by
      intro r hr
      rcases List.mem_pair.1 hr with rfl | rfl
      · exact ⟨later, by simp, rfl, _, hlater, rfl⟩
      · exact ⟨earlier, by simp, rfl, _, hearlier, rfl⟩
    have hcolumn : t.ValuesAt stored options start (values start) := by
      refine ⟨rfl, 0, rfl, fun r hr => ?_⟩
      obtain ⟨d, -, hd, hn⟩ := hrows r hr
      rw [hd]
      exact ⟨.inr rfl, hn⟩
    have hcompared : p.Compares t stored options values := by
      refine ⟨.dateTime, rfl, ⟨rfl, hcolumn⟩, ⟨rfl, _, hearlier⟩, fun r hr => ?_⟩
      obtain ⟨d, hmem, hd, -⟩ := hrows r hr
      have hvalue : p.left.value values r = .dateTime d := hd
      rw [hvalue]
      exact hkeeps d hmem earlier (by simp)
    have hordered : ∀ a ∈ stored.rows, ∀ b ∈ stored.rows, (values start a).KeepsOrder options (values start b) := by
      intro a ha b hb
      obtain ⟨d, hmem, hd, -⟩ := hrows a ha
      obtain ⟨e, hmem', he, -⟩ := hrows b hb
      rw [hd, he]
      exact hkeeps d hmem e hmem'
    have hall := hquery c t stored values (some p) [(start, false)] hstored
      (fun q hq => by
        obtain rfl := Option.some.inj hq
        rw [hcoercion]
        exact hcompared)
      (fun k hk => by
        obtain rfl := List.mem_singleton.1 hk
        rw [hcoercion]
        exact ⟨hcolumn, hordered⟩)
    have hkept : (stored.rows.filter fun r => (some p).all fun q => q.keeps values r) = [first, second] := by
      decide +kernel
    have hsorted : [first, second].mergeSort (fun a b => values.compare [(start, false)] a b != .gt) =
        [second, first] := by
      have hgreater : values.compare [(start, false)] first second = .gt := by decide
      simp [List.mergeSort, List.MergeSort.Internal.splitInTwo, hgreater]
    rw [hkept, hsorted] at hall
    exact hall

/-- Date-times as text may compare otherwise than their instants: at different offsets, and at one where a text is
cut short. So stored forms do not compare as values in general. -/
theorem dateTimes_as_text_out_of_order :
    let options : Coercion := ⟨false⟩
    let first : Scalar := .dateTime ⟨1577836800000000000, 3600⟩
    let second : Scalar := .dateTime ⟨1577838600000000000, 0⟩
    let third : Scalar := .dateTime ⟨1577838600500000000, 0⟩
    first.toNative options = .ok (.text "2020-01-01T01:00:00+01:00") ∧
      second.toNative options = .ok (.text "2020-01-01T00:30:00Z") ∧
      third.toNative options = .ok (.text "2020-01-01T00:30:00.5Z") ∧
      first.order second = .lt ∧
      (Native.text "2020-01-01T01:00:00+01:00").compare (.text "2020-01-01T00:30:00Z") = .gt ∧
      second.order third = .lt ∧ (Native.text "2020-01-01T00:30:00Z").compare (.text "2020-01-01T00:30:00.5Z") = .gt ∧
      ¬∀ (options : Coercion) (kind : Kind) (a b : Scalar) (m n : Native), kind.isOrdered = true → a.kind? = some kind →
        b.kind? = some kind → a.toNative options = .ok m → b.toNative options = .ok n → m.compare n = a.order b := by
  intro options first second third
  have hfirst : first.toNative options = .ok (.text "2020-01-01T01:00:00+01:00") := by decide +kernel
  have hsecond : second.toNative options = .ok (.text "2020-01-01T00:30:00Z") := by decide +kernel
  have horder : first.order second = .lt := by decide
  have hcompare : (Native.text "2020-01-01T01:00:00+01:00").compare (.text "2020-01-01T00:30:00Z") = .gt := by
    decide +kernel
  refine ⟨hfirst, hsecond, by decide +kernel, horder, hcompare, by decide, by decide +kernel, fun hall => ?_⟩
  have hsame := hall options .dateTime first second _ _ rfl rfl rfl hfirst hsecond
  rw [hcompare, horder] at hsame
  cases hsame

end SqlMapper
