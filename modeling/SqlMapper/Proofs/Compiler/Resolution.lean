import SqlMapper.Proofs.Compiler.Grammar
import SqlMapper.Proofs.Schema.Validation

/-!
# Resolution of columns

What a reference to a column means in a scope. Without a table it means the column of the one table that declares
the key; where no table does it is unknown, and where several do it is ambiguous, and the error carries them all
(`Scope.resolves`). With a table it means the column of the first table of that name. The columns that are written
for an expression are therefore columns of tables in scope (`Compiler.columns_compile`).
-/

namespace SqlMapper

/-! ## Tables that declare a key -/

/-- A column that a key stands for in a table: one that has it as its name or its property. -/
def Table.HasColumn (t : Table) (key : String) (c : Column) : Prop := c ∈ t.columns ∧ (c.name = key ∨ c.property = key)

/-- A table declares a key: it has a column for it. -/
def Table.Declares (t : Table) (key : String) : Prop := ∃ c, t.HasColumn key c

theorem Table.declares_iff {t : Table} {key : String} : t.Declares key ↔ (t.column? key).isSome = true := by
  simp only [Table.Declares, Table.HasColumn, ← Table.column?_eq_some_iff, Option.isSome_iff_exists]

/-- A key stands for one column. -/
theorem Table.HasColumn.unique {t : Table} {key : String} {c d : Column} (hc : t.HasColumn key c)
    (hd : t.HasColumn key d) : c = d :=
  Option.some.inj ((Table.column?_eq_some_iff.2 hc).symm.trans (Table.column?_eq_some_iff.2 hd))

instance (t : Table) (key : String) : Decidable (t.Declares key) := decidable_of_iff _ Table.declares_iff.symm

namespace Scope

/-- The tables in scope that declare a key, in their order. -/
def declaring (s : Scope) (key : String) : List Table := s.tables.filter fun t => t.Declares key

/-- The first table of a name in scope. -/
def IsFirst (s : Scope) (name : String) (t : Table) : Prop :=
  ∃ before after, s.tables = before ++ t :: after ∧ t.name = name ∧ ∀ u ∈ before, u.name ≠ name

variable {s : Scope} {key : String} {t : Table} {c : Column}

/-- The owners of a key are the tables that declare it, each with its column. -/
theorem owners_eq (s : Scope) (key : String) :
    (s.owners key).map Prod.fst = s.declaring key ∧ ∀ o ∈ s.owners key, o.1.HasColumn key o.2 := by
  constructor
  · unfold owners declaring
    induction s.tables with
    | nil => rfl
    | cons t rest ih =>
      rw [List.filterMap_cons]
      cases hc : t.column? key with
      | none =>
        rw [List.filter_cons_of_neg (by simp [Table.declares_iff, hc])]
        exact ih
      | some c =>
        rw [List.filter_cons_of_pos (by simp [Table.declares_iff, hc])]
        exact congrArg (t :: ·) ih
  · intro o ho
    obtain ⟨t, -, ho⟩ := List.mem_filterMap.1 ho
    obtain ⟨c, hc, rfl⟩ := Option.map_eq_some_iff.1 ho
    exact Table.column?_eq_some_iff.1 hc

/-- What a reference means in a scope. -/
structure Resolves (s : Scope) : Prop where
  /-- Without a table, the column of the one table that declares the key. -/
  found : ∀ key t c, s.resolve ⟨none, key⟩ = .ok (t, c) ↔ s.declaring key = [t] ∧ t.HasColumn key c
  /-- Ambiguous where two or more declare it, with the names of them all. -/
  ambiguous : ∀ key column names, s.resolve ⟨none, key⟩ = .error (.ambiguousColumn column names) ↔
    column = key ∧ 2 ≤ (s.declaring key).length ∧ names = (s.declaring key).map Table.name
  /-- Unknown where none does. -/
  unknown : ∀ key table column, s.resolve ⟨none, key⟩ = .error (.unknownColumn table column) ↔
    table = none ∧ column = key ∧ s.declaring key = []
  /-- There is no other error. -/
  fails : ∀ key e, s.resolve ⟨none, key⟩ = .error e → e = .ambiguousColumn key ((s.declaring key).map Table.name) ∨
    e = .unknownColumn none key
  /-- With a table, the column of the first table of that name. -/
  foundIn : ∀ name key t c, s.resolve ⟨some name, key⟩ = .ok (t, c) ↔ s.IsFirst name t ∧ t.HasColumn key c
  /-- Unknown where there is none. -/
  unknownIn : ∀ name key e, s.resolve ⟨some name, key⟩ = .error e ↔
    e = .unknownColumn (some name) key ∧ ¬ ∃ t c, s.IsFirst name t ∧ t.HasColumn key c

theorem isFirst_iff {name : String} : s.IsFirst name t ↔ (s.tables.find? fun t => t.name == name) = some t := by
  rw [List.find?_eq_some_iff_append]
  constructor
  · rintro ⟨before, after, htables, hname, hbefore⟩
    exact ⟨beq_iff_eq.2 hname, before, after, htables, fun u hu => by simpa using hbefore u hu⟩
  · rintro ⟨hname, before, after, htables, hbefore⟩
    exact ⟨before, after, htables, beq_iff_eq.1 hname, fun u hu => by simpa using hbefore u hu⟩

/-- A reference without a table, by the number of tables that declare it. -/
theorem resolve_unqualified (s : Scope) (key : String) :
    (s.declaring key = [] ∧ s.resolve ⟨none, key⟩ = .error (.unknownColumn none key)) ∨
    (∃ t c, s.declaring key = [t] ∧ t.HasColumn key c ∧ s.resolve ⟨none, key⟩ = .ok (t, c)) ∨
    (2 ≤ (s.declaring key).length ∧
      s.resolve ⟨none, key⟩ = .error (.ambiguousColumn key ((s.declaring key).map Table.name))) := by
  obtain ⟨htables, hcolumns⟩ := s.owners_eq key
  unfold resolve
  cases howners : s.owners key with
  | nil =>
    rw [howners] at htables
    exact .inl ⟨htables.symm, rfl⟩
  | cons first rest =>
    rw [howners] at htables hcolumns
    cases rest with
    | nil => exact .inr (.inl ⟨first.1, first.2, htables.symm, hcolumns first List.mem_cons_self, rfl⟩)
    | cons second rest =>
      refine .inr (.inr ⟨?_, ?_⟩)
      · rw [← htables]
        simp
      · rw [← htables, List.map_map]
        rfl

/-- A reference with a table. -/
theorem resolve_qualified (s : Scope) (name key : String) :
    (∃ t c, s.IsFirst name t ∧ t.HasColumn key c ∧ s.resolve ⟨some name, key⟩ = .ok (t, c)) ∨
    ((¬ ∃ t c, s.IsFirst name t ∧ t.HasColumn key c) ∧
      s.resolve ⟨some name, key⟩ = .error (.unknownColumn (some name) key)) := by
  unfold resolve
  cases hfirst : s.tables.find? fun t => t.name == name with
  | none =>
    refine .inr ⟨?_, by simp [hfirst]⟩
    rintro ⟨t, c, ht, -⟩
    cases hfirst.symm.trans (isFirst_iff.1 ht)
  | some t =>
    cases hcolumn : t.column? key with
    | none =>
      refine .inr ⟨?_, by simp [hfirst, hcolumn]⟩
      rintro ⟨u, c, hu, hc⟩
      obtain rfl := Option.some.inj (hfirst.symm.trans (isFirst_iff.1 hu))
      cases hcolumn.symm.trans (Table.column?_eq_some_iff.2 hc)
    | some c =>
      exact .inl ⟨t, c, isFirst_iff.2 hfirst, Table.column?_eq_some_iff.1 hcolumn, by simp [hfirst, hcolumn]⟩

/-- A name stands for one table. -/
theorem IsFirst.unique {name : String} {u : Table} (ht : s.IsFirst name t) (hu : s.IsFirst name u) : t = u :=
  Option.some.inj ((isFirst_iff.1 ht).symm.trans (isFirst_iff.1 hu))

/-- References are resolved exactly in every scope. -/
theorem resolves (s : Scope) : s.Resolves where
  found key t c := by
    rcases s.resolve_unqualified key with ⟨hnil, hresolve⟩ | ⟨u, d, hone, hcolumn, hresolve⟩ | ⟨hmany, hresolve⟩ <;>
      rw [hresolve]
    · simp [hnil]
    · constructor
      · intro h
        obtain ⟨rfl, rfl⟩ := Prod.mk.inj (Except.ok.inj h)
        exact ⟨hone, hcolumn⟩
      · rintro ⟨hother, hc⟩
        obtain rfl := List.singleton_injective (hone.symm.trans hother)
        rw [hcolumn.unique hc]
    · constructor
      · intro h
        cases h
      · rintro ⟨hone, -⟩
        rw [hone] at hmany
        simp at hmany
  ambiguous key column names := by
    rcases s.resolve_unqualified key with ⟨hnil, hresolve⟩ | ⟨u, d, hone, -, hresolve⟩ | ⟨hmany, hresolve⟩ <;>
      rw [hresolve]
    · simp [hnil]
    · simp [hone]
    · simp only [Except.error.injEq, Error.ambiguousColumn.injEq, hmany, true_and]
      exact ⟨fun h => ⟨h.1.symm, h.2.symm⟩, fun h => ⟨h.1.symm, h.2.symm⟩⟩
  unknown key table column := by
    rcases s.resolve_unqualified key with ⟨hnil, hresolve⟩ | ⟨u, d, hone, -, hresolve⟩ | ⟨hmany, hresolve⟩ <;>
      rw [hresolve]
    · simp [hnil, eq_comm]
    · simp [hone]
    · simp [List.ne_nil_of_length_pos (Nat.lt_of_lt_of_le Nat.two_pos hmany)]
  fails key e he := by
    rcases s.resolve_unqualified key with ⟨-, hresolve⟩ | ⟨u, d, -, -, hresolve⟩ | ⟨-, hresolve⟩ <;>
      rw [hresolve] at he <;>
      cases he
    · exact .inr rfl
    · exact .inl rfl
  foundIn name key t c := by
    rcases s.resolve_qualified name key with ⟨u, d, hu, hd, hresolve⟩ | ⟨hnone, hresolve⟩ <;> rw [hresolve]
    · constructor
      · intro h
        obtain ⟨rfl, rfl⟩ := Prod.mk.inj (Except.ok.inj h)
        exact ⟨hu, hd⟩
      · rintro ⟨ht, hc⟩
        obtain rfl := hu.unique ht
        rw [hd.unique hc]
    · constructor
      · intro h
        cases h
      · intro h
        exact absurd ⟨t, c, h⟩ hnone
  unknownIn name key e := by
    rcases s.resolve_qualified name key with ⟨u, d, hu, hd, hresolve⟩ | ⟨hnone, hresolve⟩ <;> rw [hresolve]
    · constructor
      · intro h
        cases h
      · rintro ⟨-, hnone⟩
        exact absurd ⟨u, d, hu, hd⟩ hnone
    · rw [Except.error.injEq]
      exact ⟨fun h => ⟨h.symm, hnone⟩, fun h => h.1.symm⟩

/-- A reference is resolved to a column that its key stands for, in a table in scope: the one it names, if it names
one. -/
theorem hasColumn_of_resolve {ref : ColumnRef} (h : s.resolve ref = .ok (t, c)) :
    t ∈ s.tables ∧ t.HasColumn ref.column c ∧ ∀ name, ref.table = some name → t.name = name := by
  obtain ⟨table, key⟩ := ref
  cases table with
  | none =>
    obtain ⟨hone, hcolumn⟩ := (s.resolves.found key t c).1 h
    have hmem : t ∈ s.declaring key := hone ▸ List.mem_singleton_self t
    exact ⟨(List.mem_filter.1 hmem).1, hcolumn, nofun⟩
  | some name =>
    obtain ⟨⟨before, after, htables, hname, -⟩, hcolumn⟩ := (s.resolves.foundIn name key t c).1 h
    refine ⟨htables ▸ List.mem_append_right _ List.mem_cons_self, hcolumn, fun name' hname' => ?_⟩
    rw [hname, Option.some.inj hname']

/-- A column that is resolved is one of a table in scope. -/
theorem mem_of_resolve {ref : ColumnRef} (h : s.resolve ref = .ok (t, c)) : t ∈ s.tables ∧ c ∈ t.columns := by
  obtain ⟨htable, hcolumn, -⟩ := hasColumn_of_resolve h
  exact ⟨htable, hcolumn.1⟩

end Scope

/-! ## Columns that are written -/

/-- The columns in a term, each with its table where it is written with one. -/
def Sql.Term.columns : Sql.Term → List (Option String × String)
  | .constant _ => []
  | .column table name => [(table, name)]
  | .word name => [(none, name)]
  | .truth _ => []
  | .not x => x.columns
  | .sign _ x => x.columns
  | .binary _ l r => l.columns ++ r.columns
  | .member item _ => item.columns
  | .apply _ x => x.columns
  | .replace x old new => x.columns ++ old.columns ++ new.columns
  | .castText x => x.columns
  | .paren x => x.columns

/-- A column is written as one of a table in scope. -/
def Scope.Writes (s : Scope) (column : Option String × String) : Prop :=
  ∃ t ∈ s.tables, ∃ c ∈ t.columns, column = (if s.qualified then some t.name else none, c.name)

/-- All columns in a term are written as columns of tables in scope. -/
def Sql.Term.StaysIn (s : Scope) (t : Sql.Term) : Prop := ∀ column ∈ t.columns, s.Writes column

theorem Sql.Term.columns_operate (op : Sql.BinaryOp) (l r : Sql.Term) :
    (Sql.Term.operate op l r).columns = l.columns ++ r.columns := by
  unfold Sql.Term.operate
  split
  · split <;> rfl
  · split <;> rfl
  · rfl

/-- A method writes no columns but those of its operands. -/
theorem Method.columns_term? {m : Method} {operands : List Sql.Term} {t : Sql.Term} (h : m.term? operands = some t)
    {column : Option String × String} (hcolumn : column ∈ t.columns) : ∃ u ∈ operands, column ∈ u.columns := by
  unfold Method.term? at h
  split at h <;> cases h <;> simp_all [Sql.Term.columns, Sql.Term.string, Sql.Term.null]

namespace Compiler

variable {c : Compiler}

/-- A call on operands that stay in scope does so. -/
theorem columns_invoke {name : String} {set : Option (List Scalar)} {operands : List (Except Error (Bound Sql.Term))}
    {b : Bound Sql.Term} (h : c.invoke name set operands = .ok b)
    (hoperands : ∀ d, .ok d ∈ operands → d.sql.StaysIn c.scope) :
    b.sql.StaysIn c.scope := by
  unfold invoke at h
  split at h
  · cases h
  · split at h
    · obtain ⟨item, hitem, h⟩ := bind_eq_ok h
      obtain ⟨set, -, h⟩ := bind_eq_ok h
      obtain rfl := Except.ok.inj h
      exact hoperands item (hitem ▸ List.mem_cons_of_mem _ List.mem_cons_self)
    · split at h
      · obtain ⟨terms, hterms, h⟩ := bind_eq_ok h
        unfold Method.apply at h
        split at h
        · rename_i t ht
          obtain rfl := Except.ok.inj h
          intro column hcolumn
          obtain ⟨u, hu, hcolumn⟩ := Method.columns_term? ht hcolumn
          obtain ⟨x, hx, d, rfl, rfl⟩ := exists_of_forall₂ (forall₂_collect hterms) hu
          exact hoperands d hx column hcolumn
        · cases h
      · cases h

mutual

/-- The columns that are written for an expression are columns of tables in scope. -/
theorem columns_compile : ∀ (x : Expr) (b : Bound Sql.Term), c.compile x = .ok b → b.sql.StaysIn c.scope
  | .constant s, b, h => by
    rw [compile] at h
    obtain ⟨k, -, h⟩ := bind_eq_ok h
    obtain rfl := Except.ok.inj h
    exact fun _ hcolumn => absurd hcolumn List.not_mem_nil
  | .list _, b, h => by
    rw [compile] at h
    cases h
  | .parameter name, b, h => by
    rw [compile] at h
    split at h
    · obtain rfl := Except.ok.inj h
      exact fun _ hcolumn => absurd hcolumn List.not_mem_nil
    · cases h
  | .column ref, b, h => by
    rw [compile] at h
    obtain ⟨⟨t, col⟩, howner, h⟩ := bind_eq_ok h
    obtain rfl := Except.ok.inj h
    intro column hcolumn
    obtain ⟨ht, hcol⟩ := Scope.mem_of_resolve howner
    exact ⟨t, ht, col, hcol, List.mem_singleton.1 hcolumn⟩
  | .binary op left right, b, h => by
    rw [compile] at h
    split at h
    · cases h
    · obtain ⟨l, hl, h⟩ := bind_eq_ok h
      obtain ⟨r, hr, h⟩ := bind_eq_ok h
      obtain rfl := Except.ok.inj h
      intro column hcolumn
      rw [Sql.Term.columns_operate, List.mem_append] at hcolumn
      rcases hcolumn with hcolumn | hcolumn
      · exact columns_compile left l hl column hcolumn
      · exact columns_compile right r hr column hcolumn
  | .not x, b, h => by
    rw [compile] at h
    obtain ⟨t, ht, h⟩ := bind_eq_ok h
    obtain rfl := Except.ok.inj h
    exact columns_compile x t ht
  | .method name receiver args, b, h => by
    rw [compile] at h
    refine columns_invoke h fun d hd => ?_
    rcases List.mem_cons.1 hd with hd | hd
    · exact columns_compile receiver d hd.symm
    · exact columns_compileEach args d hd
  | .call name args, b, h => by
    rw [compile] at h
    exact columns_invoke h fun d hd => columns_compileEach args d hd
  | .convert x _, b, h => by
    rw [compile] at h
    exact columns_compile x b h

/-- So are those that are written for each of several expressions. -/
theorem columns_compileEach : ∀ (xs : List Expr) (d : Bound Sql.Term), .ok d ∈ c.compileEach xs → d.sql.StaysIn c.scope
  | [], d, h => absurd h List.not_mem_nil
  | x :: rest, d, h => by
    rcases List.mem_cons.1 h with h | h
    · exact columns_compile x d h.symm
    · exact columns_compileEach rest d h

end

end Compiler

end SqlMapper
