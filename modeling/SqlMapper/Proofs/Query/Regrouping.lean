import SqlMapper.Proofs.Query.Filling
import SqlMapper.Proofs.Sql.Filling

/-!
# Filling what is read

Grouping and filling do not get into each other's way: what a statement with places is read as is filled to become
what the statement with its constants written out is read as (`Sql.Statement.Fills.fill_grouped`). Two things have
to be asked for. Every constant has to be read back from its literal as the same value, and no key of an order may
be read as the number of a result column.
-/

namespace SqlMapper

/-- A value that is read back from its literal as it is. -/
def Native.ReadsBack (v : Native) : Prop := (Sql.Constant.literal v).reread = .literal v

namespace Sql

/-- Something is filled with values to become something else, whatever values are left for what comes after it. -/
def FillsTo {α : Type} (fill : α → Filling α) (a : α) (vs : List Native) (filled : α) : Prop :=
  ∀ more, fill a (vs ++ more) = (filled, more)

/-- Items that are each filled with their own values. -/
theorem FillsTo.each {α β : Type} {fill : β → Filling β} {f : α → β} {R : α → List Native → α → Prop}
    {ps is : List α} {vs : List Native} (h : Each R ps vs is) (hR : ∀ p ∈ ps, ∀ i ∈ is, ∀ ws, ws ⊆ vs → R p ws i →
      FillsTo fill (f p) ws (f i)) :
    FillsTo (fillEach fill) (ps.map f) vs (is.map f) := by
  induction h with
  | nil => exact fun _ => rfl
  | cons first rest ih =>
    intro more
    have hfirst := hR _ List.mem_cons_self _ List.mem_cons_self _ (List.subset_append_left _ _) first
    have hrest := ih fun p hp i hi ws hws =>
      hR p (List.mem_cons_of_mem _ hp) i (List.mem_cons_of_mem _ hi) ws
        (List.Subset.trans hws (List.subset_append_right _ _))
    simp only [List.map_cons, fillEach, List.append_assoc, hfirst _, hrest more]

/-! ## Terms -/

/-- A term is filled to become another. -/
abbrev Term.FillsTo (t : Term) (vs : List Native) (t' : Term) : Prop := Sql.FillsTo Term.fill t vs t'

namespace Term.FillsTo

variable {t t' l l' r r' item item' : Term} {vs ws us : List Native}

/-- A literal text and a literal null take no values. -/
theorem string (s : String) : (Term.string s).FillsTo [] (Term.string s) := fun _ => rfl

theorem null : Term.null.FillsTo [] Term.null := fun _ => rfl

/-- A term with one operand takes the values of the operand. -/
theorem not (h : t.FillsTo vs t') : (Term.not t).FillsTo vs (.not t') := by
  intro more
  simp only [fill, h more]

theorem paren (h : t.FillsTo vs t') : (Term.paren t).FillsTo vs (.paren t') := by
  intro more
  simp only [fill, h more]

theorem apply (f : TextFunction) (h : t.FillsTo vs t') : (Term.apply f t).FillsTo vs (.apply f t') := by
  intro more
  simp only [fill, h more]

/-- Operands take their values from left to right. -/
theorem binary (op : BinaryOp) (hl : l.FillsTo vs l') (hr : r.FillsTo ws r') :
    (Term.binary op l r).FillsTo (vs ++ ws) (.binary op l' r') := by
  intro more
  simp only [fill, List.append_assoc, hl _, hr more]

theorem replace (h : t.FillsTo vs t') (hl : l.FillsTo ws l') (hr : r.FillsTo us r') :
    (Term.replace t l r).FillsTo (vs ++ ws ++ us) (.replace t' l' r') := by
  intro more
  simp only [fill, List.append_assoc, h _, hl _, hr more]

/-- In a membership the item takes values before the set. -/
theorem member {set set' : List Constant} (h : item.FillsTo vs item')
    (hs : Sql.FillsTo (fillEach Constant.fill) set ws set') :
    (Term.member item set).FillsTo (vs ++ ws) (.member item' set') := by
  intro more
  simp only [fill, List.append_assoc, h _, hs more]

/-- A negation is filled to become a negation, and nothing else is. -/
theorem cases_not (h : t.FillsTo vs t') :
    (∃ x x', t = .not x ∧ t' = .not x' ∧ x.FillsTo vs x') ∨ (∀ x, t ≠ .not x) ∧ ∀ x, t' ≠ .not x := by
  have hfilled := congrArg Prod.fst (h [])
  cases t with
  | not x =>
    refine .inl ⟨x, _, rfl, hfilled.symm, fun more => Prod.ext ?_ (Prod.mk.inj (h more)).2⟩
    exact Term.not.inj ((Prod.mk.inj (h more)).1.trans hfilled.symm)
  | _ =>
    refine .inr ⟨fun _ => nofun, ?_⟩
    rintro x rfl
    cases hfilled

/-- What an operator is put after is filled first, also where the operator goes inside a negation. -/
theorem followedBy (level : Nat) {make make' : Term → Term}
    (hmake : ∀ {u us u'}, FillsTo u us u' → (make u).FillsTo (us ++ ws) (make' u')) (h : t.FillsTo vs t') :
    (t.followedBy level make).FillsTo (vs ++ ws) (t'.followedBy level make') := by
  rcases h.cases_not with ⟨x, x', rfl, rfl, hx⟩ | ⟨hne, hne'⟩
  · simp only [Term.followedBy]
    split
    · exact (hmake hx).not
    · exact hmake h
  · rw [followedBy_of_ne_not hne, followedBy_of_ne_not hne']
    exact hmake h

/-- Regrouping with a negation on the right keeps the order in which operands take values. -/
theorem between (op : BinaryOp) (hr : r.FillsTo ws r') (hl : l.FillsTo vs l') :
    (op.between r l).FillsTo (vs ++ ws) (op.between r' l') := by
  rcases hr.cases_not with ⟨x, x', rfl, rfl, hx⟩ | ⟨hne, hne'⟩
  · cases op with
    | is => exact .binary .isNot hl hx
    | _ => exact .binary _ hl hr
  · rw [BinaryOp.between_of_ne_not op hne, BinaryOp.between_of_ne_not op hne']
    exact .binary op hl hr

/-- Percent signs around a term take none. -/
theorem surrounded (h : t.FillsTo vs t') : t.surrounded.FillsTo vs t'.surrounded := by
  rcases h.cases_not with ⟨x, x', rfl, rfl, hx⟩ | ⟨hne, hne'⟩
  · have hinner := (binary .concat hx (string "%")).not
    simpa [Term.surrounded] using binary .concat (string "%") hinner
  · rw [surrounded_of_ne_not hne, surrounded_of_ne_not hne']
    simpa using binary .concat (binary .concat (string "%") h) (string "%")

end Term.FillsTo

end Sql

/-! ## Emitted terms -/

/-- A value that has a literal is bound as it is. -/
theorem Native.boundValue_of_checkLiteral {v : Native} (h : v.checkLiteral = .ok v) : Sql.boundValue v = v := by
  cases v with
  | real x =>
    have hfinite : x.isFinite = true := by
      by_contra hnot
      simp [Native.checkLiteral, hnot] at h
    have hnan : x.isNaN = false := by
      simp only [Binary64.isFinite, Binary64.isNaN, decide_eq_true_eq, decide_eq_false_iff_not] at hfinite ⊢
      omega
    simp [Sql.boundValue, Native.ofReal, hnan]
  | _ => rfl

/-- A constant that is read is filled to become the literal that is read. -/
theorem Sql.WritableConstant.FilledBy.reread_fillsTo {c d : Sql.WritableConstant} {vs : List Native}
    (h : c.FilledBy vs d) (hplaces : ∀ p ∈ c.1.places, p = .anonymous) (hvalues : ∀ v ∈ vs, v.ReadsBack) :
    Sql.FillsTo Sql.Constant.fill c.1.reread vs d.1.reread := by
  cases h with
  | null => exact fun _ => rfl
  | pattern s => exact fun _ => rfl
  | named name hname => cases hplaces _ List.mem_cons_self
  | @place v hv hn =>
    have hbound : Sql.boundValue v = v := Native.boundValue_of_checkLiteral hv
    have hread : (Sql.Constant.literal v).reread = .literal v := hvalues v List.mem_cons_self
    intro more
    rw [hread]
    simp [WritableConstant.placeholder, Constant.placeholder, Constant.reread, Constant.fill, nextValue, hbound]

/-- A term that is read is filled to become the term with its constants written out that is read. -/
theorem Emitted.FilledBy.read_fillsTo {m m' : Emitted} {vs : List Native} (h : m.FilledBy vs m')
    (hplaces : ∀ p ∈ m.written.places, p = .anonymous) (hvalues : ∀ v ∈ vs, v.ReadsBack) :
    m.read.FillsTo vs m'.read := by
  induction h with
  | constant h =>
    have hconstant := h.reread_fillsTo hplaces hvalues
    intro more
    simp only [read, Sql.Term.fill, hconstant more]
  | column table name => exact fun _ => rfl
  | not _ ih => exact (ih hplaces hvalues).paren.not
  | binary op _ _ ihl ihr =>
    obtain ⟨hl, hr⟩ := List.forall_mem_append.1 hplaces
    obtain ⟨hvs, hws⟩ := List.forall_mem_append.1 hvalues
    exact ((ihl hl hvs).followedBy op.level (.between op (ihr hr hws))).paren
  | @member x x' set set' vs ws _ hs ih =>
    obtain ⟨hitem, hset⟩ := List.forall_mem_append.1 hplaces
    obtain ⟨hvs, hws⟩ := List.forall_mem_append.1 hvalues
    have heach : Sql.FillsTo (Sql.fillEach Sql.Constant.fill) (set.map fun c => c.1.reread) ws
        (set'.map fun c => c.1.reread) := by
      refine .each hs fun c hc d _ us hus hcd => hcd.reread_fillsTo (fun p hp => hset p ?_) fun v hv => hws v (hus hv)
      exact List.mem_flatMap.2 ⟨c.1, List.mem_map_of_mem hc, hp⟩
    exact ((ih hitem hvs).followedBy Sql.memberLevel fun hu => .member hu heach).paren
  | apply f _ ih => exact (ih hplaces hvalues).apply f
  | replace _ _ _ ih ihold ihnew =>
    obtain ⟨hfirst, hnew⟩ := List.forall_mem_append.1 hplaces
    obtain ⟨hx, hold⟩ := List.forall_mem_append.1 hfirst
    obtain ⟨hvalues, hus⟩ := List.forall_mem_append.1 hvalues
    obtain ⟨hvs, hws⟩ := List.forall_mem_append.1 hvalues
    exact (ih hx hvs).replace (ihold hold hws) (ihnew hnew hus)
  | @contains x x' needle needle' vs ws _ _ ih ihneedle =>
    have hparts : x.written.places ++ needle.written.places = (Emitted.contains x needle).written.places := by
      simp [written, Sql.Term.places, Sql.Term.string, Sql.Constant.places]
    rw [← hparts] at hplaces
    obtain ⟨hx, hneedle⟩ := List.forall_mem_append.1 hplaces
    obtain ⟨hvs, hws⟩ := List.forall_mem_append.1 hvalues
    exact ((ih hx hvs).followedBy _ (.between .like (ihneedle hneedle hws).surrounded.paren)).paren
  | @nullOrEmpty x x' vs _ ih =>
    have hparts : x.written.places ++ x.written.places = (Emitted.nullOrEmpty x).written.places := by
      simp [written, Sql.Term.places, Sql.Term.string, Sql.Term.null, Sql.Constant.places]
    rw [← hparts] at hplaces
    have hx := ih (List.forall_mem_append.1 hplaces).1 (List.forall_mem_append.1 hvalues).1
    have hnull := hx.followedBy Sql.BinaryOp.is.level (.between .is .null)
    have hempty := hx.followedBy Sql.BinaryOp.eq.level (.between .eq (.string ""))
    rw [List.append_nil] at hnull hempty
    exact (Sql.Term.FillsTo.binary .or hnull hempty).paren

/-! ## Numbers of result columns -/

/-- A term with an operator after it is no number. -/
theorem Sql.Term.number?_followedBy (level : Nat) {make : Sql.Term → Sql.Term} (h : ∀ t, (make t).number? = none)
    (t : Sql.Term) :
    (t.followedBy level make).number? = none := by
  unfold followedBy
  split
  · split
    · rfl
    · exact h _
  · exact h _

/-- What an operator is read as is no number. -/
theorem Sql.BinaryOp.number?_between (op : Sql.BinaryOp) (r l : Sql.Term) : (op.between r l).number? = none := by
  unfold between
  split <;> rfl

/-- Only a constant may be read as the number of a result column. -/
theorem Emitted.number?_read {m : Emitted} (h : ∀ c, m ≠ .constant c) : m.read.number? = none := by
  cases m with
  | constant c => exact absurd rfl (h c)
  | binary op l r => exact Sql.Term.number?_followedBy _ (op.number?_between _) _
  | member item set => exact Sql.Term.number?_followedBy _ (fun _ => rfl) _
  | contains x needle => exact Sql.Term.number?_followedBy _ (Sql.BinaryOp.number?_between _ _) _
  | _ => rfl

/-- A term whose constants are bound is never read as one. -/
theorem Emitted.FilledBy.number?_read {m m' : Emitted} {vs : List Native} (h : m.FilledBy vs m') :
    m.read.number? = none := by
  cases h with
  | constant h => cases h <;> rfl
  | _ => exact Emitted.number?_read fun _ h => by cases h

/-! ## Statements -/

namespace Sql

variable {vs : List Native}

/-- A term whose places are question marks is read as one that is filled to the reading of the filled term. -/
theorem Term.Fills.fillsTo {t t' : Term} (h : t.Fills vs t') (hplaces : ∀ p ∈ t.places, p = .anonymous)
    (hvalues : ∀ v ∈ vs, v.ReadsBack) : t.grouped.FillsTo vs t'.grouped := by
  obtain ⟨m, m', rfl, rfl, h⟩ := h
  rw [m.grouped_written, m'.grouped_written]
  exact h.read_fillsTo hplaces hvalues

theorem Source.Fills.fillsTo {s s' : Source} (h : s.Fills vs s') (hplaces : ∀ p ∈ s.places, p = .anonymous)
    (hvalues : ∀ v ∈ vs, v.ReadsBack) : FillsTo Source.fill s.grouped vs s'.grouped := by
  have hjoins : FillsTo (fillEach Join.fill) s.grouped.joins vs s'.grouped.joins := by
    refine .each h.joins fun j hj i _ ws hws hji => ?_
    have hcondition := hji.condition.fillsTo (fun p hp => hplaces p (List.mem_flatMap.2 ⟨j, hj, hp⟩)) fun v hv =>
      hvalues v (hws hv)
    intro more
    simp only [Join.fill, hcondition more, hji.kind, hji.table]
  intro more
  have htable : s'.grouped.table = s.grouped.table := h.table
  simp only [Source.fill, hjoins more, ← htable]

theorem ConditionFills.fillsTo {c c' : Option Term} (h : ConditionFills c vs c')
    (hplaces : ∀ p ∈ optionalPlaces c, p = .anonymous) (hvalues : ∀ v ∈ vs, v.ReadsBack) :
    FillsTo fillOptional (c.map Term.grouped) vs (c'.map Term.grouped) := by
  cases h with
  | none => exact fun _ => rfl
  | some h =>
    intro more
    simp only [Option.map_some, fillOptional, h.fillsTo hplaces hvalues more]

/-- A key that is read is filled to become the key with its constants written out, unless that is the number of a
result column. -/
theorem SortKey.Fills.fillsTo {k k' : SortKey} (h : k.Fills vs k') (hplaces : ∀ p ∈ k.term.places, p = .anonymous)
    (hvalues : ∀ v ∈ vs, v.ReadsBack) (hnumber : k'.term.grouped.number? = none) :
    FillsTo SortKey.fill (.ofTerm k.term.grouped k.descending) vs (.ofTerm k'.term.grouped k'.descending) := by
  have hfilled := h.term.fillsTo hplaces hvalues
  have hbound : k.term.grouped.number? = none := by
    obtain ⟨m, m', hm, -, hf⟩ := h.term
    rw [hm, m.grouped_written, hf.number?_read]
  intro more
  simp only [SortKey.ofTerm, SortKey.fill, hfilled more, hnumber, hbound, h.descending]

/-- The keys that a statement orders rows by. -/
def Statement.order : Statement → List SortKey
  | .select q | .countOf q => q.order
  | _ => []

/-- So it is for a query, as long as no key of its order is read as the number of a column. -/
theorem Select.Fills.fillsTo {q q' : Select} (h : q.Fills vs q') (hplaces : ∀ p ∈ q.places, p = .anonymous)
    (hvalues : ∀ v ∈ vs, v.ReadsBack) (hnumbers : ∀ k ∈ q'.order, k.term.grouped.number? = none) :
    FillsTo Select.fill q.grouped.untitled vs q'.grouped.untitled := by
  cases h with
  | @ofTerms columns columns' source source' condition condition' order order' cs ss ws os distinct limit offset
    hcolumns hsource
      hcondition horder =>
    have hparts : columns.flatMap Term.places ++ source.places ++ optionalPlaces condition ++
        order.flatMap (fun k => k.term.places) =
        (Select.ofTerms distinct columns source condition order limit offset).places := by
      simp [Select.ofTerms, Select.places, List.flatMap_map, ResultColumn.places]
    rw [← hparts] at hplaces
    simp only [List.forall_mem_append] at hplaces hvalues
    obtain ⟨⟨⟨hpcolumns, hpsource⟩, hpcondition⟩, hporder⟩ := hplaces
    obtain ⟨⟨⟨hcs, hss⟩, hws⟩, hos⟩ := hvalues
    have hfillColumns : FillsTo (fillEach ResultColumn.fill) (columns.map fun t => .term t.grouped none) cs
        (columns'.map fun t => .term t.grouped none) := by
      refine .each hcolumns fun t ht u _ us hus htu => ?_
      have hfilled := htu.fillsTo (fun p hp => hpcolumns p (List.mem_flatMap.2 ⟨t, ht, hp⟩)) fun v hv => hcs v (hus hv)
      intro more
      simp only [ResultColumn.fill, hfilled more]
    have hfillSource := hsource.fillsTo hpsource hss
    have hfillCondition := hcondition.fillsTo hpcondition hws
    have hfillOrder : FillsTo (fillEach SortKey.fill) (order.map fun k => .ofTerm k.term.grouped k.descending) os
        (order'.map fun k => .ofTerm k.term.grouped k.descending) := by
      refine .each horder fun k hk i hi us hus hki => ?_
      exact hki.fillsTo (fun p hp => hporder p (List.mem_flatMap.2 ⟨k, hk, hp⟩)) (fun v hv => hos v (hus hv))
        (hnumbers i hi)
    intro more
    simp only [Select.ofTerms, Select.grouped, Select.untitled, Select.fill, List.map_map, Function.comp_def,
      ResultColumn.grouped, ResultColumn.untitled, Option.map_some, fillSource, List.append_assoc, hfillColumns _,
      hfillSource _, hfillCondition _,
      hfillOrder more]

/-- What a statement is read as is filled to become what the statement with its constants written out is read as. -/
theorem Statement.Fills.fill_grouped {s s' : Statement} (h : s.Fills vs s') (hplaces : ∀ p ∈ s.places, p = .anonymous)
    (hvalues : ∀ v ∈ vs, v.ReadsBack) (hnumbers : ∀ k ∈ s'.order, k.term.grouped.number? = none) :
    s.grouped.untitled.fill vs = s'.grouped.untitled := by
  cases h with
  | select h =>
    have hfilled := h.fillsTo hplaces hvalues hnumbers []
    rw [List.append_nil] at hfilled
    simp only [Statement.grouped, Statement.untitled, Statement.fill, hfilled]
  | countOf h =>
    have hfilled := h.fillsTo hplaces hvalues hnumbers []
    rw [List.append_nil] at hfilled
    simp only [Statement.grouped, Statement.untitled, Statement.fill, hfilled]
  | countRows hs hc =>
    simp only [Statement.places, List.forall_mem_append] at hplaces hvalues
    have hcondition := hc.fillsTo hplaces.2 hvalues.2 []
    rw [List.append_nil] at hcondition
    simp only [Statement.grouped, Statement.untitled, Statement.fill, hs.fillsTo hplaces.1 hvalues.1 _, hcondition]
  | delete table h =>
    have hcondition := (ConditionFills.some h).fillsTo hplaces hvalues []
    rw [List.append_nil] at hcondition
    simp only [Statement.grouped, Statement.untitled, Statement.fill, hcondition]

end Sql

end SqlMapper
