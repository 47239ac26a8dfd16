import SqlMapper.Proofs.Engine.Outline
import SqlMapper.Sql.Place

/-!
# Filling the places of a statement

A statement without places is filled with nothing (`Statement.fill_of_places_eq_nil`), and a term takes as many
values as it has places (`Term.fill_rest`). Filling puts constants where places were, so it keeps the outline of a
statement (`Statement.outline_fill`), and it leaves titles alone (`Statement.fill_untitled`).
-/

namespace SqlMapper

namespace Sql

/-! ## Lists -/

/-- Items that are each filled with nothing. -/
theorem fillEach_self {α : Type} (fill : α → Filling α) {xs : List α} (h : ∀ x ∈ xs, ∀ vs, fill x vs = (x, vs))
    (vs : List Native) :
    fillEach fill xs vs = (xs, vs) := by
  induction xs with
  | nil => rfl
  | cons x xs ih => rw [fillEach, h x List.mem_cons_self, ih fun y hy => h y (List.mem_cons_of_mem _ hy)]

/-- What filling keeps of each item it keeps of all. -/
theorem map_fillEach {α β : Type} (fill : α → Filling α) (f : α → β) (h : ∀ x vs, f (fill x vs).1 = f x) (xs : List α)
    (vs : List Native) : (fillEach fill xs vs).1.map f = xs.map f := by
  induction xs generalizing vs with
  | nil => rfl
  | cons x xs ih => rw [fillEach, List.map_cons, List.map_cons, h, ih]

/-- Items that are first changed and then filled, where filling leaves alone what is changed. -/
theorem fillEach_map {α β : Type} {fill : α → Filling α} {fill' : β → Filling β} {f : α → β}
    (h : ∀ x vs, fill' (f x) vs = (f (fill x vs).1, (fill x vs).2)) (xs : List α) (vs : List Native) :
    fillEach fill' (xs.map f) vs = ((fillEach fill xs vs).1.map f, (fillEach fill xs vs).2) := by
  induction xs generalizing vs with
  | nil => rfl
  | cons x xs ih => rw [List.map_cons, fillEach, h, ih, fillEach, List.map_cons]

/-! ## Statements without places -/

/-- Without places nothing is filled in, and no value is taken. -/
theorem Constant.fill_of_places_eq_nil {c : Constant} (h : c.places = []) (vs : List Native) : c.fill vs = (c, vs) := by
  cases c with
  | literal v => rfl
  | place p => cases h

theorem Term.fill_of_places_eq_nil {t : Term} (h : t.places = []) (vs : List Native) : t.fill vs = (t, vs) := by
  induction t with
  | constant c => rw [fill, Constant.fill_of_places_eq_nil h]
  | member item set ih =>
    obtain ⟨hitem, hset⟩ := List.append_eq_nil_iff.1 h
    have heach := fillEach_self Constant.fill
      (fun c hc => c.fill_of_places_eq_nil (List.flatMap_eq_nil_iff.1 hset c hc)) vs
    simp only [fill, ih hitem, heach]
  | _ => simp_all [fill, places]

theorem fillOptional_of_places_eq_nil {condition : Option Term} (h : optionalPlaces condition = []) (vs : List Native) :
    fillOptional condition vs = (condition, vs) := by
  cases condition with
  | none => rfl
  | some t => rw [fillOptional, Term.fill_of_places_eq_nil h]

theorem Source.fill_of_places_eq_nil {s : Source} (h : s.places = []) (vs : List Native) : s.fill vs = (s, vs) := by
  have hjoin : ∀ j ∈ s.joins, ∀ vs, j.fill vs = (j, vs) := by
    intro j hj vs
    rw [Join.fill, Term.fill_of_places_eq_nil (List.flatMap_eq_nil_iff.1 h j hj)]
  rw [Source.fill, fillEach_self Join.fill hjoin]

theorem Select.fill_of_places_eq_nil {q : Select} (h : q.places = []) (vs : List Native) : q.fill vs = (q, vs) := by
  simp only [Select.places, List.append_eq_nil_iff] at h
  obtain ⟨⟨⟨hcolumns, hsource⟩, hcondition⟩, horder⟩ := h
  have hcolumn : ∀ c ∈ q.columns, ∀ vs, c.fill vs = (c, vs) := by
    intro c hc vs
    cases c with
    | all => rfl
    | term t title => rw [ResultColumn.fill, Term.fill_of_places_eq_nil (List.flatMap_eq_nil_iff.1 hcolumns _ hc)]
  have hsource : ∀ vs, fillSource q.source vs = (q.source, vs) := by
    intro vs
    cases hs : q.source with
    | none => rfl
    | some s =>
      rw [hs] at hsource
      rw [fillSource, Source.fill_of_places_eq_nil hsource]
  have hkey : ∀ k ∈ q.order, ∀ vs, k.fill vs = (k, vs) := by
    intro k hk vs
    rw [SortKey.fill, Term.fill_of_places_eq_nil (List.flatMap_eq_nil_iff.1 horder k hk)]
  simp only [Select.fill, fillEach_self ResultColumn.fill hcolumn, hsource, fillOptional_of_places_eq_nil hcondition,
    fillEach_self SortKey.fill hkey]

/-- A statement without places is filled with nothing. -/
theorem Statement.fill_of_places_eq_nil {s : Statement} (h : s.places = []) (vs : List Native) : s.fill vs = s := by
  cases s with
  | select q => rw [fill, Select.fill_of_places_eq_nil h]
  | countOf q => rw [fill, Select.fill_of_places_eq_nil h]
  | countRows source condition =>
    obtain ⟨hsource, hcondition⟩ := List.append_eq_nil_iff.1 h
    rw [fill, Source.fill_of_places_eq_nil hsource, fillOptional_of_places_eq_nil hcondition]
  | delete table condition => rw [fill, fillOptional_of_places_eq_nil h]
  | insert table columns values =>
    rw [fill, fillEach_self Constant.fill fun c hc => c.fill_of_places_eq_nil (List.flatMap_eq_nil_iff.1 h c hc)]
  | update table column value condition =>
    obtain ⟨hvalue, hcondition⟩ := List.append_eq_nil_iff.1 h
    rw [fill, Constant.fill_of_places_eq_nil hvalue, fillOptional_of_places_eq_nil hcondition]
  | _ => rfl

/-! ## Values that are left -/

/-- Items that each take as many values as they have places. -/
theorem fillEach_rest {α : Type} {fill : α → Filling α} {places : α → List Place}
    (h : ∀ x vs, (fill x vs).2 = vs.drop (places x).length) (xs : List α) (vs : List Native) :
    (fillEach fill xs vs).2 = vs.drop (xs.flatMap places).length := by
  induction xs generalizing vs with
  | nil => rfl
  | cons x xs ih => simp [fillEach, h, ih]

/-- A constant takes as many values as it has places. -/
theorem Constant.fill_rest (c : Constant) (vs : List Native) : (c.fill vs).2 = vs.drop c.places.length := by
  cases c with
  | literal v => rfl
  | place p => exact (List.drop_one (l := vs)).symm

/-- A term takes as many values as it has places. -/
theorem Term.fill_rest (t : Term) (vs : List Native) : (t.fill vs).2 = vs.drop t.places.length := by
  induction t generalizing vs with
  | constant c => exact c.fill_rest vs
  | column table name => rfl
  | word name => rfl
  | truth b => rfl
  | not x ih => exact ih vs
  | sign negative x ih => exact ih vs
  | binary op l r ihl ihr => simp [fill, places, ihl, ihr]
  | member item set ih => simp [fill, places, ih, fillEach_rest Constant.fill_rest]
  | apply f x ih => exact ih vs
  | replace x old new ih ihold ihnew => simp [fill, places, ih, ihold, ihnew, Nat.add_assoc]
  | castText x ih => exact ih vs
  | paren x ih => exact ih vs

theorem ResultColumn.fill_rest (c : ResultColumn) (vs : List Native) : (c.fill vs).2 = vs.drop c.places.length := by
  cases c with
  | all => rfl
  | term t title => exact t.fill_rest vs

/-- The source and the condition of a query take the values that its columns leave, as they do where its rows are
counted. -/
theorem Select.fill_countRows {q : Select} {s : Source} (hs : q.source = some s) (vs : List Native) :
    ∃ s', (q.fill vs).1.source = some s' ∧
      (Statement.countRows s q.condition).fill (vs.drop (q.columns.flatMap ResultColumn.places).length) =
        .countRows s' (q.fill vs).1.condition := by
  simp [Select.fill, Statement.fill, hs, fillSource, fillEach_rest ResultColumn.fill_rest]

/-! ## Outlines -/

/-- Filling a term leaves its names and operators as they are. -/
@[simp] theorem Term.outline_fill (t : Term) (vs : List Native) : (t.fill vs).1.outline = t.outline := by
  induction t generalizing vs <;> simp_all [fill, outline]

/-- Filling a term neither adds nor mends a fault. -/
@[simp] theorem Term.fault?_fill (t : Term) (vs : List Native) (f : Frame) : (t.fill vs).1.fault? f = t.fault? f := by
  rw [← Term.fault?_outline, Term.outline_fill, Term.fault?_outline]

theorem outline_fillOptional (condition : Option Term) (vs : List Native) :
    (fillOptional condition vs).1.map Term.outline = condition.map Term.outline := by
  cases condition <;> simp [fillOptional]

/-- So it does with the tables and the conditions of a source. -/
theorem Source.outline_fill (s : Source) (vs : List Native) : (s.fill vs).1.outline = s.outline := by
  have hjoins := map_fillEach Join.fill Join.outline (fun j vs => by simp [Join.fill, Join.outline]) s.joins vs
  simp only [Source.fill, Source.outline, hjoins]

theorem Select.outline_fill (q : Select) (vs : List Native) : (q.fill vs).1.outline = q.outline := by
  have hcolumn : ∀ (c : ResultColumn) (vs : List Native), (c.fill vs).1.outline = c.outline := by
    intro c vs
    cases c with
    | all => rfl
    | term t title => simp [ResultColumn.fill, ResultColumn.outline]
  have hsource : ∀ vs, (fillSource q.source vs).1.map Source.outline = q.source.map Source.outline := by
    intro vs
    cases q.source with
    | none => rfl
    | some s => simp [fillSource, s.outline_fill]
  have hkey : ∀ (k : SortKey) (vs : List Native), (k.fill vs).1.outline = k.outline := by
    intro k vs
    simp [SortKey.fill, SortKey.outline]
  simp only [Select.fill, Select.outline, map_fillEach ResultColumn.fill ResultColumn.outline hcolumn, hsource,
    outline_fillOptional, map_fillEach SortKey.fill SortKey.outline hkey]

/-- Filling keeps the outline of a statement. -/
theorem Statement.outline_fill (s : Statement) (vs : List Native) : (s.fill vs).outline = s.outline := by
  have hnull := map_fillEach Constant.fill (fun _ => Constant.literal .null) (fun _ _ => rfl)
  cases s <;> simp [fill, outline, Select.outline_fill, Source.outline_fill, outline_fillOptional, hnull]

/-! ## Titles -/

/-- A title takes no part in filling. -/
theorem ResultColumn.fill_untitled (c : ResultColumn) (vs : List Native) :
    c.untitled.fill vs = ((c.fill vs).1.untitled, (c.fill vs).2) := by
  cases c <;> rfl

theorem Select.fill_untitled (q : Select) (vs : List Native) :
    q.untitled.fill vs = ((q.fill vs).1.untitled, (q.fill vs).2) := by
  simp only [Select.fill, Select.untitled, fillEach_map ResultColumn.fill_untitled]

/-- Titles are not filled. -/
theorem Statement.fill_untitled (s : Statement) (vs : List Native) : s.untitled.fill vs = (s.fill vs).untitled := by
  cases s <;> simp [Statement.untitled, Statement.fill, Select.fill_untitled]

end Sql

end SqlMapper
