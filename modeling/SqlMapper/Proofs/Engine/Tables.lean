import SqlMapper.Engine.Database
import SqlMapper.Proofs.Compiler.Compile

/-!
# Tables as they are stored

A stored table has columns whose names differ in more than the case of their letters (`Sql.Distinct`), so a name
means one position, whether a row is written or read (`Frame.find_of_distinct`, `Sql.Distinct.positions_filter`). An
insertion puts one row between the rows that are there (`StoredTable.insert_ok`), a deletion takes out those for
which a condition holds (`Tables.delete_eq`), and both leave every other table alone (`Tables.find_replace_of_ne`).
-/

namespace SqlMapper

/-! ## Names up to case -/

namespace Sql

theorem sameWord_iff {a b : String} : sameWord a b = true ↔ a.toList.map Char.toLower = b.toList.map Char.toLower := by
  rw [sameWord, beq_iff_eq]

@[simp] theorem sameWord_self (a : String) : sameWord a a = true := sameWord_iff.2 rfl

/-- Names that are the same are the same as the same names. -/
theorem sameWord_congr {a b : String} (h : sameWord a b = true) (name : String) :
    sameWord a name = sameWord b name := by
  rw [Bool.eq_iff_iff, sameWord_iff, sameWord_iff, sameWord_iff.1 h]

/-- Names that differ in more than the case of their letters. -/
def Distinct (names : List String) : Prop := names.Pairwise fun a b => sameWord a b = false

namespace Distinct

variable {names : List String}

/-- Two positions of one name are one. -/
theorem index_unique (h : Distinct names) {i j : Nat} {a b : String} (hi : names[i]? = some a) (hj : names[j]? = some b)
    (hab : sameWord a b = true) : i = j := by
  obtain ⟨hi', rfl⟩ := List.getElem?_eq_some_iff.1 hi
  obtain ⟨hj', rfl⟩ := List.getElem?_eq_some_iff.1 hj
  have hlt := List.pairwise_iff_getElem.1 h
  rcases Nat.lt_trichotomy i j with hij | hij | hij
  · rw [hlt i j hi' hj' hij] at hab
    cases hab
  · exact hij
  · have hba := sameWord_iff.2 (sameWord_iff.1 hab).symm
    rw [hlt j i hj' hi' hij] at hba
    cases hba

/-- The position of a name among things that have it. -/
theorem findIdx? {α : Type} {name : α → String} {xs : List α} (h : Distinct (xs.map name)) {i : Nat} {x : α}
    (hx : xs[i]? = some x) {p : α → Bool} (hp : ∀ y, p y = true → sameWord (name y) (name x) = true)
    (hself : p x = true) : xs.findIdx? p = some i := by
  obtain ⟨hi, rfl⟩ := List.getElem?_eq_some_iff.1 hx
  refine List.findIdx?_eq_some_iff_getElem.2 ⟨hi, hself, fun j hj hpj => ?_⟩
  have hij := h.index_unique (i := j) (j := i) (a := name xs[j]) (b := name xs[i])
    (by simp [Nat.lt_trans hj hi]) (by simp [hi])
    (hp _ hpj)
  omega

/-- The positions of the things that have a name are one. -/
theorem positions_filter {α : Type} {name : α → String} {xs : List α} (h : Distinct (xs.map name)) {i : Nat} {x : α}
    (hx : xs[i]? = some x) {p : α → Bool} (hp : ∀ y, p y = true → sameWord (name y) (name x) = true)
    (hself : p x = true) (k : Nat) :
    ((xs.zipIdx k).filter fun q => p q.1).map Prod.snd = [k + i] := by
  induction xs generalizing i k with
  | nil => cases hx
  | cons y ys ih =>
    obtain ⟨hfirst, hrest⟩ := List.pairwise_cons.1 h
    rw [List.zipIdx_cons, List.filter_cons]
    cases i with
    | zero =>
      obtain rfl := Option.some.inj hx
      have hnone : (ys.zipIdx (k + 1)).filter (fun q => p q.1) = [] := by
        refine List.filter_eq_nil_iff.2 fun q hq hpq => ?_
        have hmem : q.1 ∈ ys := List.fst_mem_of_mem_zipIdx hq
        have hsame := sameWord_iff.2 (sameWord_iff.1 (hp _ hpq)).symm
        rw [hfirst _ (List.mem_map_of_mem hmem)] at hsame
        cases hsame
      rw [if_pos hself, hnone]
      rfl
    | succ i =>
      have hmem : x ∈ ys := List.mem_of_getElem? hx
      have hy : ¬ p y = true := by
        intro hpy
        have hsame := hp y hpy
        rw [hfirst _ (List.mem_map_of_mem hmem)] at hsame
        cases hsame
      rw [if_neg hy, ih hrest hx (k + 1)]
      congr 1
      omega

end Distinct

end Sql

/-- A name means the position of its column. -/
theorem Frame.find_of_distinct {f : Frame} (h : Sql.Distinct (f.map Slot.name)) {i : Nat} {s : Slot}
    (hs : f[i]? = some s) :
    f.find none s.name = .at i := by
  have hpositions : f.positions none s.name = [i] := by
    have hone := h.positions_filter hs (p := Slot.answersTo none s.name)
      (fun y hy => by simpa [Slot.answersTo] using hy)
      (by simp [Slot.answersTo]) 0
    rwa [Nat.zero_add] at hone
  unfold Frame.find
  rw [hpositions]

/-! ## Insertion -/

/-- A row goes between the rows that are there. -/
theorem insertByNumber_between (row : StoredRow) (rows : List StoredRow) :
    ∃ before after, rows = before ++ after ∧ insertByNumber row rows = before ++ row :: after := by
  induction rows with
  | nil => exact ⟨[], [], rfl, rfl⟩
  | cons r rest ih =>
    unfold insertByNumber
    split
    · exact ⟨[], r :: rest, rfl, rfl⟩
    · obtain ⟨before, after, hrest, hinserted⟩ := ih
      exact ⟨r :: before, after, by rw [hrest]; rfl, by rw [hinserted]; rfl⟩

/-- A table with a row more, somewhere between the others. -/
structure StoredTable.HasOneMore (t : StoredTable) (row : StoredRow) (t' : StoredTable) : Prop where
  name : t'.name = t.name
  columns : t'.columns = t.columns
  rows : ∃ before after, t.rows = before ++ after ∧ t'.rows = before ++ row :: after

theorem StoredTable.add_ok {t t' : StoredTable} {row : StoredRow} (h : t.add row = .ok t') : t.HasOneMore row t' := by
  unfold StoredTable.add at h
  split at h
  · cases h
  · split at h
    · cases h
    · obtain rfl := Except.ok.inj h
      exact ⟨rfl, rfl, insertByNumber_between row t.rows⟩

/-- An insertion that is accepted adds a row with the number that it gives. -/
theorem StoredTable.insert_ok {t t' : StoredTable} {values : List Native} {n : Int64}
    (h : t.insert values = .ok (t', n)) :
    t.HasOneMore ⟨n, t.numbered n values⟩ t' := by
  obtain ⟨given, -, h⟩ := bind_eq_ok h
  have hadded : ∀ {number},
      (t.add ⟨number, t.numbered number values⟩ >>= fun table => pure (table, number)) = .ok (t', n) →
      t.HasOneMore ⟨n, t.numbered n values⟩ t' := by
    intro number h
    obtain ⟨table, hadd, h⟩ := bind_eq_ok h
    obtain ⟨rfl, rfl⟩ := Prod.mk.inj (Except.ok.inj h)
    exact add_ok hadd
  cases given with
  | some m =>
    obtain ⟨number, -, h⟩ := bind_eq_ok h
    exact hadded h
  | none =>
    obtain ⟨number, -, h⟩ := bind_eq_ok h
    exact hadded h

/-- What is found is a table of the name. -/
theorem Tables.find_ok {ts : Tables} {t : StoredTable} {name : String} (h : ts.find name = .ok t) :
    List.find? (fun u : StoredTable => Sql.sameWord u.name name) ts = some t := by
  unfold Tables.find at h
  split at h
  · rename_i u hu
    rw [hu, Except.ok.inj h]
  · cases h

/-- What is found by a name is found by it in any case. -/
theorem Tables.find_of_sameWord {ts : Tables} {t : StoredTable} {a b : String} (h : ts.find a = .ok t)
    (hab : Sql.sameWord a b = true) :
    ts.find b = .ok t := by
  have hsame : (fun u : StoredTable => Sql.sameWord u.name b) = fun u => Sql.sameWord u.name a := by
    funext u
    rw [Bool.eq_iff_iff, Sql.sameWord_iff, Sql.sameWord_iff, Sql.sameWord_iff.1 hab]
  unfold Tables.find
  rw [hsame, Tables.find_ok h]

/-- A table that takes the place of one of the same name is found by it. -/
theorem Tables.find_replace {ts : Tables} {t t' : StoredTable} {name : String} (h : ts.find name = .ok t)
    (hname : t'.name = t.name) :
    (ts.replace t').find name = .ok t' := by
  have hfound := Tables.find_ok h
  have hsame : Sql.sameWord t.name name = true :=
    List.find?_some (p := fun u : StoredTable => Sql.sameWord u.name name) hfound
  have hreplaced : List.find? (fun u : StoredTable => Sql.sameWord u.name name) (ts.replace t') = some t' := by
    clear h
    unfold Tables.replace
    induction ts with
    | nil => cases hfound
    | cons u rest ih =>
      rw [List.find?_cons] at hfound
      rw [List.map_cons, List.find?_cons]
      by_cases hu : Sql.sameWord u.name name = true
      · rw [hu] at hfound
        obtain rfl := Option.some.inj hfound
        rw [if_pos (by rw [hname, Sql.sameWord_self]), hname, hu]
      · have hother : ¬ Sql.sameWord u.name t'.name = true := by
          rw [hname, Sql.sameWord_iff]
          rw [Sql.sameWord_iff] at hu hsame
          exact fun heq => hu (heq.trans hsame)
        rw [Bool.not_eq_true] at hu
        rw [hu] at hfound
        rw [if_neg hother, hu]
        exact ih hfound
  unfold Tables.find
  rw [hreplaced]

/-- A table in the place of another leaves those of other names as they are. -/
theorem Tables.find_replace_of_ne (ts : Tables) {t : StoredTable} {name : String}
    (h : Sql.sameWord t.name name = false) :
    (ts.replace t).find name = ts.find name := by
  have hsame : List.find? (fun u : StoredTable => Sql.sameWord u.name name) (ts.replace t) =
      List.find? (fun u : StoredTable => Sql.sameWord u.name name) ts := by
    unfold Tables.replace
    induction ts with
    | nil => rfl
    | cons u rest ih =>
      rw [List.map_cons, List.find?_cons, List.find?_cons, ih]
      by_cases hu : Sql.sameWord u.name t.name = true
      · rw [if_pos hu, Sql.sameWord_congr hu, h]
      · rw [if_neg hu]
  unfold Tables.find
  rw [hsame]

/-- Putting a table where it is changes nothing. -/
theorem Tables.replace_replace (ts : Tables) (t : StoredTable) : (ts.replace t).replace t = ts.replace t := by
  simp only [Tables.replace, List.map_map]
  refine List.map_congr_left fun u _ => ?_
  by_cases hu : Sql.sameWord u.name t.name = true
  · simp [hu]
  · simp [hu]

/-- A deletion whose table is there and whose condition has no fault removes the rows for which it holds. -/
theorem Tables.delete_eq {ts : Tables} {t : StoredTable} {name : String} (h : ts.find name = .ok t)
    {condition : Sql.Term} (hfault : condition.fault? t.frame = none) :
    ts.delete name (some condition) =
      .ok (ts.replace { t with rows := t.rows.filter fun r => !condition.holds t.frame r.values },
        (t.rows.filter fun r => condition.holds t.frame r.values).length) := by
  have hchecked : checkTerms t.frame [condition] = .ok () := by simp [checkTerms, hfault]
  simp only [Tables.delete, h, Option.toList_some, hchecked, StoredTable.remove, StoredTable.test, bind,
    Except.bind, pure, Except.pure]

end SqlMapper
