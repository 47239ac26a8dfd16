import SqlMapper.Proofs.Query.Emitted
import SqlMapper.Proofs.Query.Regrouping

/-!
# Keys that stand for result columns

A key of an order that is an integer of less than 32 bits, written out, stands for the result column of that number.
Such a key comes of nothing but a constant that is stored as an integer, under conversions or not (`Expr.integer?`),
so a chain without such keys has no ordinals among the keys that it is read with (`Clause.number?_of_key`).
-/

namespace SqlMapper

/-! ## Expressions -/

/-- The integer that an expression is stored as, if it is a constant, conversions aside. -/
def Expr.integer? (coercion : Coercion) : Expr → Option Int64
  | .constant s =>
    match s.toNative coercion with
    | .ok (.integer n) => some n
    | _ => none
  | .convert x _ => x.integer? coercion
  | _ => none

/-- The tree of a call is no constant. -/
theorem Compiler.callTree?_ne_constant {c : Compiler} {name : String} {set : Option (List Scalar)}
    {operands : List (Option Sql.Term)} (k : Sql.Constant) : c.callTree? name set operands ≠ some (.constant k) := by
  have hmethod : ∀ (m : Method) (terms : List Sql.Term), m.tree? terms ≠ some (.constant k) := by
    intro m terms h
    unfold Method.tree? at h
    split at h <;> cases h
  intro h
  obtain ⟨m, -, h⟩ := Option.bind_eq_some_iff.1 h
  split at h
  · obtain ⟨item, -, h⟩ := Option.bind_eq_some_iff.1 h
    obtain ⟨set, -, h⟩ := Option.bind_eq_some_iff.1 h
    cases h
  · obtain ⟨terms, -, h⟩ := Option.bind_eq_some_iff.1 h
    exact hmethod _ _ h

/-- What is compiled to a constant has a constant for its tree. -/
theorem tree?_of_compile {c : Compiler} {x : Expr} {b : Bound Sql.Term} (h : c.compile x = .ok b) {k : Sql.Constant}
    (hk : b.sql = .constant k) : c.tree? x = some (.constant k.reread) := by
  obtain ⟨m, hm⟩ := Emitted.compile_emits x b h
  rw [hm.tree]
  have hwritten : m.written = .constant k := hm.written.symm.trans hk
  cases m with
  | constant d =>
    obtain rfl : d.1 = k := Sql.Term.constant.inj hwritten
    rfl
  | _ => cases hwritten

/-- Only a constant is compiled to an integer that is written out. -/
theorem compile_integer {c : Compiler} {n : Int64} : ∀ (x : Expr) (b : Bound Sql.Term), c.compile x = .ok b →
    b.sql = .constant (.literal (.integer n)) → x.integer? c.coercion = some n
  | .constant s, b, h, hn => by
    rw [Compiler.compile] at h
    obtain ⟨k, hk, h⟩ := bind_eq_ok h
    obtain rfl := Except.ok.inj h
    have hsql : k.sql = .literal (.integer n) := Sql.Term.constant.inj hn
    unfold Compiler.constant at hk
    obtain ⟨v, hv, hchecked⟩ := bind_eq_ok hk
    obtain ⟨w, hw, hk⟩ := bind_eq_ok hchecked
    obtain rfl := Native.eq_of_checkLiteral hw
    split at hk
    · obtain rfl := Except.ok.inj hk
      obtain rfl : w = .integer n := Sql.Constant.literal.inj hsql
      cases hs : s.toNative c.coercion with
      | error e =>
        rw [hs] at hv
        cases hv
      | ok v =>
        rw [hs] at hv
        obtain rfl : v = .integer n := Except.ok.inj hv
        simp only [Expr.integer?, hs]
    · obtain rfl := Except.ok.inj hk
      cases hsql
  | .convert x _, b, h, hn => by
    rw [Compiler.compile] at h
    exact compile_integer x b h hn
  | .list _, b, h, _ => by cases h
  | .parameter name, b, h, hn => by cases tree?_of_compile h hn
  | .column ref, b, h, hn => by
    have htree := tree?_of_compile h hn
    obtain ⟨owner, -, hterm⟩ := Option.map_eq_some_iff.1 htree
    cases hterm
  | .binary op l r, b, h, hn => by
    have htree := tree?_of_compile h hn
    obtain ⟨o, -, htree⟩ := Option.bind_eq_some_iff.1 htree
    obtain ⟨l', -, htree⟩ := Option.bind_eq_some_iff.1 htree
    obtain ⟨r', -, htree⟩ := Option.bind_eq_some_iff.1 htree
    cases htree
  | .not x, b, h, hn => by
    have htree := tree?_of_compile h hn
    obtain ⟨x', -, hterm⟩ := Option.map_eq_some_iff.1 htree
    cases hterm
  | .method name x args, b, h, hn => absurd (tree?_of_compile h hn) (c.callTree?_ne_constant _)
  | .call name args, b, h, hn => absurd (tree?_of_compile h hn) (c.callTree?_ne_constant _)

/-! ## Keys -/

/-- The keys of a chain do not stand for result columns: none is a constant that is stored as an integer of less
than 32 bits. -/
def Clause.NoOrdinals (k : Clause) (coercion : Coercion) : Prop :=
  ∀ q, k.query? = some q → ∀ key ∈ q.keys, ∀ n, key.expr.integer? coercion = some n → 2 ^ 31 ≤ n.toInt.natAbs

/-- What corresponds to an item of the last list, and the values it was filled with. -/
theorem Each.exists_of_mem {α : Type} {R : α → List Native → α → Prop} {ps is : List α} {vs : List Native}
    (h : Each R ps vs is) {i : α} (hi : i ∈ is) : ∃ p ws, ws ⊆ vs ∧ R p ws i := by
  induction h with
  | nil => cases hi
  | cons first _ ih =>
    rcases List.mem_cons.1 hi with rfl | hi
    · exact ⟨_, _, List.subset_append_left _ _, first⟩
    · obtain ⟨p, ws, hws, hp⟩ := ih hi
      exact ⟨p, ws, List.Subset.trans hws (List.subset_append_right _ _), hp⟩

theorem Sql.Statement.Fills.exists_key {s s' : Sql.Statement} {vs : List Native} (h : s.Fills vs s') {k' : Sql.SortKey}
    (hk : k' ∈ s'.order) : ∃ k ws, ws ⊆ vs ∧ Sql.SortKey.Fills k ws k' := by
  have hselect : ∀ {q q' : Sql.Select}, q.Fills vs q' → k' ∈ q'.order → ∃ k ws, ws ⊆ vs ∧
      Sql.SortKey.Fills k ws k' := by
    intro q q' hq hk
    cases hq with
    | ofTerms distinct limit offset hcolumns hsource hcondition horder =>
      obtain ⟨k, ws, hws, hfills⟩ := horder.exists_of_mem hk
      exact ⟨k, ws, List.Subset.trans hws (List.subset_append_right _ _), hfills⟩
  cases h with
  | select h => exact hselect h hk
  | countOf h => exact hselect h hk
  | countRows hs hc => cases hk
  | delete table h => cases hk

/-- A key that is no small integer is not read as the number of a result column. -/
theorem OrderKey.CompiledTo.number? {key : OrderKey} {c : Compiler} {k k' : Sql.SortKey} (h : key.CompiledTo c k')
    {ws : List Native} (hfills : k.Fills ws k') (hvalues : ∀ v ∈ ws, v.ReadsBack)
    (hlarge : ∀ n, key.expr.integer? c.coercion = some n → 2 ^ 31 ≤ n.toInt.natAbs) :
    k'.term.grouped.number? = none := by
  obtain ⟨b, hb, hterm⟩ := h.term
  obtain ⟨m, m', -, hm', hfilled⟩ := hfills.term
  rw [hm', m'.grouped_written]
  cases hfilled with
  | constant hconstant =>
    cases hconstant with
    | @place v hv hn =>
      have hread : (Sql.Constant.literal v).reread = .literal v := hvalues v List.mem_cons_self
      simp only [Emitted.read, hread]
      cases v with
      | integer n =>
        have hsmall := hlarge n (compile_integer key.expr b hb (hterm.symm.trans hm'))
        simp only [Sql.Term.number?]
        exact if_neg (Nat.not_lt.2 hsmall)
      | _ => rfl
    | _ => rfl
  | _ => exact Emitted.number?_read fun _ h => by cases h

namespace Clause

/-- Counts have no keys. -/
theorem order_countWhere {s : Selection} {predicate : Option Expr} {r : Rendering} {b : Bound Sql.Statement}
    (h : s.countWhere predicate r = .ok b) : b.sql.order = [] := by
  unfold Selection.countWhere at h
  split at h
  · obtain ⟨select, hselect, h⟩ := bind_eq_ok h
    obtain rfl := Except.ok.inj h
    exact List.forall₂_nil_left_iff.1 (query_compiledTo hselect).keys
  · obtain ⟨source, -, h⟩ := bind_eq_ok h
    obtain ⟨condition, -, h⟩ := bind_eq_ok h
    obtain rfl := Except.ok.inj h
    rfl

/-- The keys of a rendered statement are keys of the chain. -/
theorem exists_orderKey {k : Clause} {r : Rendering} {p : Purpose} {b : Bound Sql.Statement}
    (h : k.statement? r p = some (.ok b)) {j : Sql.SortKey} (hj : j ∈ b.sql.order) :
    ∃ q, k.query? = some q ∧ ∃ key ∈ q.keys, key.CompiledTo (r.compiler q.selection.scope) j := by
  cases p with
  | rows =>
    obtain ⟨q, hq, h⟩ := Option.map_eq_some_iff.1 h
    obtain ⟨select, hselect, h⟩ := bind_eq_ok h
    obtain rfl := Except.ok.inj h
    obtain ⟨key, hkey, hcompiled⟩ := exists_of_forall₂ (query_compiledTo hselect).keys hj
    exact ⟨q, hq, key, hkey, hcompiled⟩
  | count =>
    cases k with
    | selection s =>
      rw [order_countWhere (Option.some.inj h)] at hj
      cases hj
    | filter f =>
      rw [order_countWhere (Option.some.inj h)] at hj
      cases hj
    | _ => cases h
  | deletion =>
    cases k with
    | filter f =>
      have h := Option.some.inj h
      unfold Filter.deleteStatement at h
      split at h
      · obtain ⟨condition, -, h⟩ := bind_eq_ok h
        obtain rfl := Except.ok.inj h
        cases hj
      · cases h
    | _ => cases h

/-- So none of them is read as the number of a result column. -/
theorem number?_of_key {k : Clause} {coercion : Coercion} (hkeys : k.NoOrdinals coercion) {p : Purpose}
    {i b : Bound Sql.Statement} (h : k.statement? ⟨.inline, coercion⟩ p = some (.ok i))
    (hfills : b.sql.Fills b.params i.sql) (hvalues : ∀ v ∈ b.params, v.ReadsBack) :
    ∀ j ∈ i.sql.order, j.term.grouped.number? = none := by
  intro j hj
  obtain ⟨q, hq, key, hkey, hcompiled⟩ := exists_orderKey h hj
  obtain ⟨k', ws, hws, hfill⟩ := hfills.exists_key hj
  exact hcompiled.number? hfill (fun v hv => hvalues v (hws hv)) (hkeys q hq key hkey)

end Clause

end SqlMapper
