import Mathlib.Data.List.Nodup
import SqlMapper.Schema.Table

/-!
# Validation of tables

A description of a table is accepted if and only if it is well formed (`Table.WellFormed`), and otherwise the fault
that is reported is the first violation in the order of declaration (`Table.FirstViolation`). The loop over the
columns carries the keys and the primary key of the columns before; both halves follow from what it finds at each
position (`Column.firstFault?_eq_some_iff`). In a table that was accepted a key stands for at most one column, so
that looking it up finds exactly the column that has it.
-/

namespace SqlMapper

/-! ## Keys -/

namespace Column

theorem mem_keys {c : Column} {key : String} : key ∈ c.keys ↔ c.name = key ∨ c.property = key := by
  unfold keys
  split
  · rename_i heq
    simp [heq, eq_comm]
  · simp [eq_comm]

theorem answersTo_iff {c : Column} {key : String} : c.answersTo key = true ↔ c.name = key ∨ c.property = key := by
  simp [answersTo]

theorem nodup_keys (c : Column) : c.keys.Nodup := by
  unfold keys
  split
  · exact List.nodup_singleton _
  · rename_i hne
    simp [Ne.symm hne]

end Column

/-! ## Violations -/

/-- What is wrong with a column that stands after others. -/
inductive Column.Violates (before : List Column) (c : Column) : SchemaFault → Prop
  | blank (h : isBlank c.name = true) : c.Violates before (.blankColumn before.length)
  | name (h : c.name ∈ before.flatMap Column.keys) : c.Violates before (.duplicateColumn c.name)
  | property (hne : c.property ≠ c.name) (h : c.property ∈ before.flatMap Column.keys) :
      c.Violates before (.duplicateProperty c.property)
  | primaryKey (h : c.primaryKey = true) (hbefore : ∃ b ∈ before, b.primaryKey = true) :
    c.Violates before .secondPrimaryKey
  | autoIncrement (h : c.autoIncrement = true) (hkey : ¬(c.primaryKey = true ∧ c.kind.isInteger = true)) :
      c.Violates before (.autoIncrementNotKey c.name)

/-- The order in which the faults of one column are looked for: its name, its keys, its being the primary key, its
being assigned. -/
def SchemaFault.rank : SchemaFault → Nat
  | .blankTable => 0
  | .noColumns => 1
  | .blankColumn _ => 2
  | .duplicateColumn _ => 3
  | .duplicateProperty _ => 4
  | .secondPrimaryKey => 5
  | .autoIncrementNotKey _ => 6

/-- The first violation of a description in the order of declaration: that of the name of the table, that there is
no column, or the first violation of the first column that has one. -/
inductive Table.FirstViolation (name : String) (columns : List Column) : SchemaFault → Prop
  | blankTable (h : isBlank name = true) : FirstViolation name columns .blankTable
  | noColumns (hname : isBlank name = false) (h : columns = []) : FirstViolation name columns .noColumns
  | column {i : Nat} {c : Column} {fault : SchemaFault} (hname : isBlank name = false) (hc : columns[i]? = some c)
      (hbefore : ∀ (j : Nat) (d : Column), j < i → columns[j]? = some d → ∀ other, ¬ d.Violates (columns.take j) other)
      (h : c.Violates (columns.take i) fault) (hleast : ∀ other, c.Violates (columns.take i) other →
        fault.rank ≤ other.rank) :
      FirstViolation name columns fault

/-- A well-formed description of a table: names that are not blank, at least one column, keys that are pairwise
distinct, at most one primary key, and no column that is assigned but an integer primary key. -/
structure Table.WellFormed (name : String) (columns : List Column) : Prop where
  named : isBlank name = false
  nonempty : columns ≠ []
  columnsNamed : ∀ c ∈ columns, isBlank c.name = false
  distinct : (columns.flatMap Column.keys).Nodup
  onePrimaryKey : columns.countP Column.primaryKey ≤ 1
  assigned : ∀ c ∈ columns, c.autoIncrement = true → c.primaryKey = true ∧ c.kind.isInteger = true

namespace Column

/-- The fault of a column after others, as the loop that has passed over these finds it. -/
def faultAfter? (before : List Column) (c : Column) : Option SchemaFault :=
  c.fault? before.length (before.flatMap keys) (before.any primaryKey)

variable {c : Column} {before : List Column} {fault : SchemaFault}

/-- The fault that is found is a violation, and none of the column has a lower rank. -/
theorem least_of_faultAfter? (h : c.faultAfter? before = some fault) :
    c.Violates before fault ∧ ∀ other, c.Violates before other → fault.rank ≤ other.rank := by
  unfold faultAfter? fault? at h
  split at h
  · rename_i hblank
    cases h
    exact ⟨.blank hblank, fun other hother => by cases hother <;> simp [SchemaFault.rank]⟩
  rename_i hblank
  split at h
  · rename_i hname
    cases h
    exact ⟨.name hname, fun other hother => by cases hother <;> simp_all [SchemaFault.rank]⟩
  rename_i hname
  split at h
  · rename_i hproperty
    cases h
    exact ⟨.property hproperty.1 hproperty.2, fun other hother => by cases hother <;> simp_all [SchemaFault.rank]⟩
  rename_i hproperty
  split at h
  · rename_i hkey
    cases h
    refine ⟨.primaryKey hkey.1 (List.any_eq_true.1 hkey.2), fun other hother => ?_⟩
    cases hother <;> simp_all [SchemaFault.rank]
  rename_i hkey
  split at h
  · rename_i hauto
    cases h
    refine ⟨.autoIncrement hauto.1 hauto.2, fun other hother => ?_⟩
    cases hother with
    | blank h => exact absurd h hblank
    | name h => exact absurd h hname
    | property hne h => exact absurd ⟨hne, h⟩ hproperty
    | primaryKey h hbefore => exact absurd ⟨h, List.any_eq_true.2 hbefore⟩ hkey
    | autoIncrement => exact Nat.le_refl _
  · cases h

/-- A column has no fault where its name is not blank, its keys are fresh, it is no second primary key, and it is
assigned only as a primary key of integers. -/
theorem fault?_eq_none_iff {index : Nat} {seen : List String} {hasKey : Bool} :
    c.fault? index seen hasKey = none ↔
      isBlank c.name = false ∧ (∀ key ∈ c.keys, key ∉ seen) ∧ ¬(c.primaryKey = true ∧ hasKey = true) ∧
        (c.autoIncrement = true → c.primaryKey = true ∧ c.kind.isInteger = true) := by
  have hkeys : (∀ key ∈ c.keys, key ∉ seen) ↔ c.name ∉ seen ∧ ¬(c.property ≠ c.name ∧ c.property ∈ seen) := by
    simp only [mem_keys]
    constructor
    · exact fun h => ⟨h _ (.inl rfl), fun hproperty => h _ (.inr rfl) hproperty.2⟩
    · rintro ⟨hname, hproperty⟩ key (rfl | rfl)
      · exact hname
      · intro hmem
        by_cases heq : c.property = c.name
        · exact hname (heq ▸ hmem)
        · exact hproperty ⟨heq, hmem⟩
  have hassigned : (c.autoIncrement = true → c.primaryKey = true ∧ c.kind.isInteger = true) ↔
      ¬(c.autoIncrement = true ∧ ¬(c.primaryKey = true ∧ c.kind.isInteger = true)) := by
    rw [not_and, not_not]
  rw [hkeys, hassigned]
  unfold fault?
  split_ifs <;> simp_all

/-- A column that violates something has a fault. -/
theorem faultAfter?_ne_none (h : c.Violates before fault) : c.faultAfter? before ≠ none := by
  rw [faultAfter?, ne_eq, fault?_eq_none_iff]
  rintro ⟨hnamed, hfresh, hone, hassigned⟩
  cases h with
  | blank h => exact Bool.false_ne_true (hnamed.symm.trans h)
  | name h => exact hfresh _ (mem_keys.2 (.inl rfl)) h
  | property _ h => exact hfresh _ (mem_keys.2 (.inr rfl)) h
  | primaryKey h hbefore => exact hone ⟨h, List.any_eq_true.2 hbefore⟩
  | autoIncrement h hkey => exact hkey (hassigned h)

/-- Two violations of one column with the same rank are the same. -/
theorem Violates.eq_of_rank {other : SchemaFault} (h : c.Violates before fault) (hother : c.Violates before other)
    (hrank : fault.rank = other.rank) : fault = other := by
  cases h <;> cases hother <;> first | rfl | cases hrank

/-- The fault of a column after others is the first of its violations. -/
theorem faultAfter?_eq_some_iff :
    c.faultAfter? before = some fault ↔
      c.Violates before fault ∧ ∀ other, c.Violates before other → fault.rank ≤ other.rank := by
  refine ⟨least_of_faultAfter?, ?_⟩
  rintro ⟨h, hleast⟩
  obtain ⟨found, hfound⟩ := Option.ne_none_iff_exists'.1 (faultAfter?_ne_none h)
  obtain ⟨hviolates, hbelow⟩ := least_of_faultAfter? hfound
  rw [hfound, h.eq_of_rank hviolates (Nat.le_antisymm (hleast _ hviolates) (hbelow _ h))]

/-- A column has no fault after others if and only if it violates nothing. -/
theorem faultAfter?_eq_none_iff : c.faultAfter? before = none ↔ ∀ other, ¬ c.Violates before other := by
  constructor
  · intro h other hother
    exact faultAfter?_ne_none hother h
  · intro h
    rw [Option.eq_none_iff_forall_ne_some]
    intro fault hfault
    exact h fault (least_of_faultAfter? hfault).1

/-! ## The loop over the columns -/

/-- The first fault of further columns, as the loop that has passed over others finds it. -/
def firstFaultAfter? (before rest : List Column) : Option SchemaFault :=
  firstFault? before.length (before.flatMap keys) (before.any primaryKey) rest

/-- One step of the loop: the fault of a column, or what is found after it. -/
theorem firstFaultAfter?_cons {rest : List Column} :
    firstFaultAfter? before (c :: rest) = (c.faultAfter? before).or (firstFaultAfter? (before ++ [c]) rest) := by
  rw [firstFaultAfter?, firstFault?, faultAfter?]
  cases c.fault? before.length (before.flatMap keys) (before.any primaryKey) with
  | some fault => rfl
  | none => simp [firstFaultAfter?]

/-- The loop reports the fault of the first column that has one after the columns before it. -/
theorem firstFaultAfter?_eq_some_iff {rest : List Column} :
    firstFaultAfter? before rest = some fault ↔
      ∃ (i : Nat) (c : Column), rest[i]? = some c ∧ c.faultAfter? (before ++ rest.take i) = some fault ∧
        ∀ (j : Nat) (d : Column), j < i → rest[j]? = some d → d.faultAfter? (before ++ rest.take j) = none := by
  induction rest generalizing before with
  | nil => simp [firstFaultAfter?, firstFault?]
  | cons first rest ih =>
    rw [firstFaultAfter?_cons, Option.or_eq_some_iff, ih]
    constructor
    · rintro (hfirst | ⟨hfirst, i, c, hc, hfault, hbefore⟩)
      · exact ⟨0, first, rfl, by simpa using hfirst, fun j d hj => absurd hj (Nat.not_lt_zero j)⟩
      · refine ⟨i + 1, c, hc, by simpa using hfault, fun j d hj hd => ?_⟩
        cases j with
        | zero =>
          obtain rfl := Option.some.inj hd
          simpa using hfirst
        | succ j => simpa using hbefore j d (Nat.lt_of_succ_lt_succ hj) hd
    · rintro ⟨i, c, hc, hfault, hbefore⟩
      cases i with
      | zero =>
        obtain rfl := Option.some.inj hc
        exact .inl (by simpa using hfault)
      | succ i =>
        have hfirst := hbefore 0 first (Nat.succ_pos i) rfl
        refine .inr ⟨by simpa using hfirst, i, c, hc, by simpa using hfault, fun j d hj hd => ?_⟩
        simpa using hbefore (j + 1) d (Nat.succ_lt_succ hj) hd

/-- The loop finds no fault where no name is blank, the keys are distinct and not among those seen, there is at most
one primary key, and only primary keys of integers are assigned. -/
theorem firstFault?_eq_none_iff {index : Nat} {seen : List String} {hasKey : Bool} {rest : List Column} :
    firstFault? index seen hasKey rest = none ↔
      (∀ c ∈ rest, isBlank c.name = false) ∧ ((rest.flatMap keys).Nodup ∧ ∀ key ∈ rest.flatMap keys, key ∉ seen) ∧
        rest.countP primaryKey + hasKey.toNat ≤ 1 ∧
        ∀ c ∈ rest, c.autoIncrement = true → c.primaryKey = true ∧ c.kind.isInteger = true := by
  induction rest generalizing index seen hasKey with
  | nil => cases hasKey <;> simp [firstFault?]
  | cons first rest ih =>
    have hstep : firstFault? index seen hasKey (first :: rest) = none ↔
        first.fault? index seen hasKey = none ∧
          firstFault? (index + 1) (seen ++ first.keys) (hasKey || first.primaryKey) rest = none := by
      rw [firstFault?]
      cases first.fault? index seen hasKey <;> simp
    have hcount : ¬(first.primaryKey = true ∧ hasKey = true) ∧
          rest.countP primaryKey + (hasKey || first.primaryKey).toNat ≤ 1 ↔
        (first :: rest).countP primaryKey + hasKey.toNat ≤ 1 := by
      rw [List.countP_cons]
      cases hasKey <;> cases first.primaryKey <;> simp
    have hdistinct : ((first :: rest).flatMap keys).Nodup ∧ (∀ key ∈ (first :: rest).flatMap keys, key ∉ seen) ↔
        (∀ key ∈ first.keys, key ∉ seen) ∧
          (rest.flatMap keys).Nodup ∧ ∀ key ∈ rest.flatMap keys, key ∉ seen ++ first.keys := by
      rw [List.flatMap_cons, List.nodup_append]
      simp only [List.mem_append, not_or]
      constructor
      · rintro ⟨⟨-, hrest, hapart⟩, hfresh⟩
        exact ⟨fun key hkey => hfresh key (.inl hkey), hrest, fun key hkey =>
          ⟨hfresh key (.inr hkey), fun hfirst => hapart key hfirst key hkey rfl⟩⟩
      · rintro ⟨hfirst, hrest, hfresh⟩
        refine ⟨⟨first.nodup_keys, hrest, fun a ha b hb heq => (hfresh b hb).2 (heq ▸ ha)⟩, fun key hkey => ?_⟩
        rcases hkey with hkey | hkey
        · exact hfirst key hkey
        · exact (hfresh key hkey).1
    rw [hstep, fault?_eq_none_iff, ih, hdistinct, ← hcount, List.forall_mem_cons, List.forall_mem_cons]
    constructor
    · rintro ⟨⟨hnamed, hfresh, hone, hassigned⟩, hnamedRest, hfreshRest, hcountRest, hassignedRest⟩
      exact ⟨⟨hnamed, hnamedRest⟩, ⟨hfresh, hfreshRest⟩, ⟨hone, hcountRest⟩, hassigned, hassignedRest⟩
    · rintro ⟨⟨hnamed, hnamedRest⟩, ⟨hfresh, hfreshRest⟩, ⟨hone, hcountRest⟩, hassigned, hassignedRest⟩
      exact ⟨⟨hnamed, hfresh, hone, hassigned⟩, hnamedRest, hfreshRest, hcountRest, hassignedRest⟩

end Column

/-! ## What is accepted, and what is reported -/

namespace Table

variable {name : String} {columns : List Column}

/-- There is no fault exactly in a well-formed description. -/
theorem firstFault?_eq_none_iff : firstFault? name columns = none ↔ WellFormed name columns := by
  have hloop : Column.firstFault? 0 [] false columns = none ↔ _ := Column.firstFault?_eq_none_iff
  unfold firstFault?
  constructor
  · intro h
    split_ifs at h with hname hempty
    obtain ⟨hnamed, ⟨hdistinct, -⟩, hone, hassigned⟩ := hloop.1 h
    exact ⟨eq_false_of_ne_true hname, fun hnil => hempty (List.isEmpty_iff.2 hnil), hnamed, hdistinct, hone, hassigned⟩
  · intro h
    rw [if_neg (ne_true_of_eq_false h.named), if_neg fun hempty => h.nonempty (List.isEmpty_iff.1 hempty)]
    exact hloop.2 ⟨h.columnsNamed, ⟨h.distinct, fun key _ => List.not_mem_nil⟩, h.onePrimaryKey, h.assigned⟩

/-- The fault that is reported is the first violation. -/
theorem firstFault?_eq_some_iff {fault : SchemaFault} :
    firstFault? name columns = some fault ↔ FirstViolation name columns fault := by
  have hloop : Column.firstFaultAfter? [] columns = some fault ↔ _ := Column.firstFaultAfter?_eq_some_iff
  simp only [List.nil_append, Column.faultAfter?_eq_some_iff, Column.faultAfter?_eq_none_iff] at hloop
  unfold firstFault?
  split_ifs with hname hempty
  · constructor
    · intro h
      obtain rfl := Option.some.inj h
      exact .blankTable hname
    · intro h
      cases h with
      | blankTable => rfl
      | noColumns hnamed => exact absurd hname (ne_true_of_eq_false hnamed)
      | column hnamed => exact absurd hname (ne_true_of_eq_false hnamed)
  · obtain rfl := List.isEmpty_iff.1 hempty
    constructor
    · intro h
      obtain rfl := Option.some.inj h
      exact .noColumns (eq_false_of_ne_true hname) rfl
    · intro h
      cases h with
      | blankTable h => exact absurd h hname
      | noColumns => rfl
      | column _ hc => cases hc
  · refine hloop.trans ⟨?_, fun h => ?_⟩
    · rintro ⟨i, c, hc, ⟨h, hleast⟩, hbefore⟩
      exact .column (eq_false_of_ne_true hname) hc hbefore h hleast
    · cases h with
      | blankTable h => exact absurd h hname
      | noColumns _ hnil => exact absurd (List.isEmpty_iff.2 hnil) hempty
      | column _ hc hbefore h hleast => exact ⟨_, _, hc, ⟨h, hleast⟩, hbefore⟩

theorem build_eq_ok_iff {t : Table} : build name columns = .ok t ↔ t.name = name ∧ t.columns = columns := by
  unfold build
  split
  · rename_i h
    constructor
    · intro heq
      obtain rfl := Except.ok.inj heq
      exact ⟨rfl, rfl⟩
    · rintro ⟨rfl, rfl⟩
      rfl
  · rename_i fault h
    constructor
    · intro heq
      cases heq
    · rintro ⟨rfl, rfl⟩
      cases h.symm.trans t.valid

theorem build_eq_error_iff {fault : SchemaFault} :
    build name columns = .error fault ↔ firstFault? name columns = some fault := by
  unfold build
  split <;> rename_i h <;> simp [h]

theorem wellFormed (t : Table) : WellFormed t.name t.columns := firstFault?_eq_none_iff.1 t.valid

/-! ## Looking up a column -/

/-- A key stands for one position. -/
theorem index_unique (t : Table) {key : String} {i j : Nat} {c d : Column} (hi : t.columns[i]? = some c)
    (hj : t.columns[j]? = some d) (hc : key ∈ c.keys) (hd : key ∈ d.keys) : i = j := by
  have hapart := (List.nodup_flatMap.1 t.wellFormed.distinct).2
  rw [List.pairwise_iff_getElem] at hapart
  obtain ⟨hilt, rfl⟩ := List.getElem?_eq_some_iff.1 hi
  obtain ⟨hjlt, rfl⟩ := List.getElem?_eq_some_iff.1 hj
  rcases Nat.lt_trichotomy i j with hlt | heq | hlt
  · exact absurd hd (hapart i j hilt hjlt hlt hc)
  · exact heq
  · exact absurd hc (hapart j i hjlt hilt hlt hd)

/-- The position that a key is looked up at is that of the column that has it as its name or its property. -/
theorem columnIndex?_eq_some_iff {t : Table} {key : String} {i : Nat} :
    t.columnIndex? key = some i ↔ ∃ c, t.columns[i]? = some c ∧ (c.name = key ∨ c.property = key) := by
  unfold columnIndex?
  rw [List.findIdx?_eq_some_iff_getElem]
  constructor
  · rintro ⟨hi, hanswers, -⟩
    exact ⟨t.columns[i], List.getElem?_eq_getElem hi, Column.answersTo_iff.1 hanswers⟩
  · rintro ⟨c, hc, hkey⟩
    obtain ⟨hi, rfl⟩ := List.getElem?_eq_some_iff.1 hc
    refine ⟨hi, Column.answersTo_iff.2 hkey, fun j hj hother => ?_⟩
    have hlookup := List.getElem?_eq_getElem (Nat.lt_trans hj hi)
    have heq := t.index_unique hlookup hc (Column.mem_keys.2 (Column.answersTo_iff.1 hother)) (Column.mem_keys.2 hkey)
    exact Nat.ne_of_lt hj heq

/-- The column that a key stands for has it as its name or its property. -/
theorem column?_eq_some_iff {t : Table} {key : String} {c : Column} :
    t.column? key = some c ↔ c ∈ t.columns ∧ (c.name = key ∨ c.property = key) := by
  have hbind : t.column? key = (t.columnIndex? key).bind (t.columns[·]?) := List.find?_eq_bind_findIdx?_getElem?
  rw [hbind, Option.bind_eq_some_iff]
  constructor
  · rintro ⟨i, hi, hc⟩
    obtain ⟨d, hd, hkey⟩ := columnIndex?_eq_some_iff.1 hi
    obtain rfl := Option.some.inj (hc.symm.trans hd)
    exact ⟨List.mem_of_getElem? hc, hkey⟩
  · rintro ⟨hc, hkey⟩
    obtain ⟨i, hi⟩ := List.getElem?_of_mem hc
    exact ⟨i, columnIndex?_eq_some_iff.2 ⟨c, hi, hkey⟩, hi⟩

/-- One position at most is that of a primary key. -/
theorem primaryKey_unique (t : Table) {i j : Nat} {c d : Column} (hi : t.columns[i]? = some c)
    (hj : t.columns[j]? = some d) (hc : c.primaryKey = true) (hd : d.primaryKey = true) : i = j := by
  have hone := t.wellFormed.onePrimaryKey
  rw [List.countP_eq_length_filter] at hone
  have hmem : c ∈ t.columns.filter Column.primaryKey ∧ d ∈ t.columns.filter Column.primaryKey :=
    ⟨List.mem_filter.2 ⟨List.mem_of_getElem? hi, hc⟩, List.mem_filter.2 ⟨List.mem_of_getElem? hj, hd⟩⟩
  obtain rfl : c = d := by
    cases hfilter : t.columns.filter Column.primaryKey with
    | nil => simp [hfilter] at hmem
    | cons first rest =>
      rw [hfilter, List.length_cons] at hone
      obtain rfl := List.eq_nil_of_length_eq_zero (Nat.le_zero.1 (Nat.le_of_succ_le_succ hone))
      rw [hfilter] at hmem
      exact (List.mem_singleton.1 hmem.1).trans (List.mem_singleton.1 hmem.2).symm
  exact t.index_unique hi hj (Column.mem_keys.2 (.inl rfl)) (Column.mem_keys.2 (.inl rfl))

/-- The primary key is the column that is declared as one. -/
theorem primaryKey?_eq_some_iff {t : Table} {c : Column} : t.primaryKey? = some c ↔ c ∈ t.columns ∧
    c.primaryKey = true := by
  unfold primaryKey?
  constructor
  · intro h
    exact ⟨List.mem_of_find?_eq_some h, List.find?_some h⟩
  · rintro ⟨hc, hkey⟩
    obtain ⟨d, hd⟩ := Option.isSome_iff_exists.1 (List.find?_isSome.2 ⟨c, hc, hkey⟩)
    obtain ⟨i, hi⟩ := List.getElem?_of_mem hc
    obtain ⟨j, hj⟩ := List.getElem?_of_mem (List.mem_of_find?_eq_some hd)
    obtain rfl := t.primaryKey_unique hi hj hkey (List.find?_some hd)
    rw [hd, ← hi, hj]

/-! ## The columns that are written -/

/-- The columns that are written are those that the store does not assign, each with its position. -/
theorem mem_insertColumns {t : Table} {p : Nat × Column} :
    p ∈ t.insertColumns ↔ t.columns[p.1]? = some p.2 ∧ p.2.isAssigned = false := by
  obtain ⟨i, c⟩ := p
  simp [insertColumns, List.mem_zipIdx_iff_getElem?]

/-- The columns are written in their order. -/
theorem sorted_insertColumns (t : Table) : (t.insertColumns.map Prod.fst).Pairwise (· < ·) := by
  have hall : ((t.columns.zipIdx.map fun p => (p.2, p.1)).map Prod.fst).Pairwise (· < ·) := by
    rw [List.map_map]
    have hsnd : (Prod.fst ∘ fun p : Column × Nat => (p.2, p.1)) = Prod.snd := rfl
    rw [hsnd, List.zipIdx_map_snd]
    exact List.pairwise_lt_range'
  exact hall.sublist (List.filter_sublist.map _)

/-- No position is written twice. -/
theorem nodup_insertColumns (t : Table) : (t.insertColumns.map Prod.fst).Nodup :=
  t.sorted_insertColumns.imp Nat.ne_of_lt

/-- A description is accepted if and only if it is well formed, and otherwise its first violation is reported. In a
table that was accepted a key is looked up at the one column that has it as its name or its property, the primary
key is the one column declared as it, and the columns that are written are, in their order and each with its
position, those that the store does not assign. -/
theorem build_exact (name : String) (columns : List Column) :
    ((∃ t, build name columns = .ok t) ↔ WellFormed name columns) ∧
    (∀ fault, build name columns = .error fault ↔ FirstViolation name columns fault) ∧
    ∀ t, build name columns = .ok t →
      t.name = name ∧ t.columns = columns ∧
      (∀ key i, t.columnIndex? key = some i ↔ ∃ c, columns[i]? = some c ∧ (c.name = key ∨ c.property = key)) ∧
      (∀ (key : String) (i j : Nat) (c d : Column), columns[i]? = some c → columns[j]? = some d →
        (c.name = key ∨ c.property = key) → (d.name = key ∨ d.property = key) → i = j) ∧
      (∀ key c, t.column? key = some c ↔ c ∈ columns ∧ (c.name = key ∨ c.property = key)) ∧
      (∀ c, t.primaryKey? = some c ↔ c ∈ columns ∧ c.primaryKey = true) ∧
      (∀ (i j : Nat) (c d : Column), columns[i]? = some c → columns[j]? = some d → c.primaryKey = true →
        d.primaryKey = true → i = j) ∧
      (∀ i c, (i, c) ∈ t.insertColumns ↔ columns[i]? = some c ∧ ¬(c.primaryKey = true ∧ c.autoIncrement = true)) ∧
      (t.insertColumns.map Prod.fst).Pairwise (· < ·) := by
  refine ⟨?_, fun fault => build_eq_error_iff.trans firstFault?_eq_some_iff, ?_⟩
  · constructor
    · rintro ⟨t, h⟩
      obtain ⟨rfl, rfl⟩ := build_eq_ok_iff.1 h
      exact t.wellFormed
    · intro h
      exact ⟨⟨name, columns, firstFault?_eq_none_iff.2 h⟩, build_eq_ok_iff.2 ⟨rfl, rfl⟩⟩
  · intro t h
    obtain ⟨rfl, rfl⟩ := build_eq_ok_iff.1 h
    refine ⟨rfl, rfl, fun key i => columnIndex?_eq_some_iff, ?_, fun key c => column?_eq_some_iff,
      fun c => primaryKey?_eq_some_iff, fun i j c d => t.primaryKey_unique, ?_, t.sorted_insertColumns⟩
    · intro key i j c d hi hj hc hd
      exact t.index_unique hi hj (Column.mem_keys.2 hc) (Column.mem_keys.2 hd)
    · intro i c
      rw [mem_insertColumns, Column.isAssigned, ← Bool.not_eq_true, Bool.and_eq_true]

/-- A table of an assigned key and a column with a property of its own: the property is looked up at the column, and
the key is not written. -/
theorem build_exact_person :
    let columns : List Column :=
      [{ name := "Id", property := "Id", kind := .integer .i64, primaryKey := true, autoIncrement := true },
        { name := "Name", property := "name", kind := .text }]
    ∃ t, Table.build "Person" columns = .ok t ∧ t.columnIndex? "name" = some 1 ∧ t.primaryKey? = columns[0]? ∧
      (1, columns[1]) ∈ t.insertColumns := by
  intro columns
  have hbuild : ∃ t, Table.build "Person" columns = .ok t := ⟨⟨"Person", columns, by decide⟩, by decide⟩
  obtain ⟨t, ht⟩ := hbuild
  obtain ⟨-, -, hindex, -, -, hkey, -, hinsert, -⟩ := (build_exact "Person" columns).2.2 t ht
  exact ⟨t, ht, (hindex "name" 1).2 ⟨columns[1], rfl, .inr rfl⟩, (hkey columns[0]).2 ⟨List.mem_cons_self, rfl⟩,
    (hinsert 1 columns[1]).2 ⟨rfl, by decide⟩⟩

end Table

end SqlMapper
