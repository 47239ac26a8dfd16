import SqlMapper.Proofs.Engine.Outline
import SqlMapper.Proofs.Query.Emitted
import SqlMapper.Proofs.Savepoint.Names

/-!
# Texts without null characters

A text ends at a null character when it is sent (`isSendable`). What an emitted term is read as has one exactly if
the term has (`Emitted.isSendable_read`), since reading regroups a term and leaves its names and texts alone.
-/

namespace SqlMapper

/-- A text put together of two can be sent if both can. -/
theorem isSendable_append_eq (a b : String) : isSendable (a ++ b) = (isSendable a && isSendable b) := by
  simp only [isSendable, String.toList_append, List.all_append]

/-- Items that can be sent can be sent together, and only those. -/
theorem isSendable_intercalate {separator : String} (hseparator : isSendable separator = true) (items : List String) :
    isSendable (separator.intercalate items) = items.all isSendable := by
  induction items with
  | nil => rfl
  | cons first rest ih =>
    cases rest with
    | nil => simp
    | cons second rest =>
      rw [String.intercalate_cons_cons, isSendable_append_eq, isSendable_append_eq, ih, hseparator, Bool.and_true]
      rfl

/-- Tests that agree on the items of a list agree on the list. -/
theorem all_eq_of_mem {α : Type} {l : List α} {f g : α → Bool} (h : ∀ a ∈ l, f a = g a) : l.all f = l.all g := by
  rw [Bool.eq_iff_iff, List.all_eq_true, List.all_eq_true]
  exact forall₂_congr fun a ha => by rw [h a ha]

/-! ## Literals -/

theorem Sql.IsDigits.toNat_ne_zero {ds : List Char} (h : Sql.IsDigits ds) : ∀ c ∈ ds, c.toNat ≠ 0 :=
  fun c hc => toNat_ne_zero_of_isDigit (h.2 c hc)

/-- There is no null character in the text of a number. -/
theorem Sql.IsNumberText.toNat_ne_zero {cs : List Char} (h : Sql.IsNumberText cs) : ∀ c ∈ cs, c.toNat ≠ 0 := by
  obtain ⟨whole, fraction, exponent, rfl, hwhole, hfraction, hexponent⟩ := h
  intro c hc
  rcases List.mem_append.1 hc with hc | hc
  · rcases List.mem_append.1 hc with hc | hc
    · exact hwhole.toNat_ne_zero c hc
    · cases hfraction with
      | none => cases hc
      | point hd =>
        rcases List.mem_cons.1 hc with rfl | hc
        · decide
        · exact hd.toNat_ne_zero c hc
  · cases hexponent with
    | none => cases hc
    | positive hd =>
      rcases List.mem_cons.1 hc with rfl | hc
      · decide
      · exact hd.toNat_ne_zero c hc
    | negative hd =>
      rcases List.mem_cons.1 hc with rfl | hc
      · decide
      · rcases List.mem_cons.1 hc with rfl | hc
        · decide
        · exact hd.toNat_ne_zero c hc

/-- An integer can be sent. -/
theorem isSendable_int (n : Int) : isSendable (toString n) = true := by
  have hdigits : ∀ m : Nat, ∀ c ∈ Nat.toDigits 10 m, c.toNat ≠ 0 := by
    intro m
    exact (Sql.isDigits_toDigits m).toNat_ne_zero
  cases n with
  | ofNat m => simpa [isSendable, toString, Int.repr] using hdigits m
  | negSucc m => simpa [isSendable, toString, Int.repr] using hdigits (m + 1)

/-- So can a real that is written out. -/
theorem isSendable_real (x : Binary64) : isSendable x.literal = true := by
  have hsigned : ∀ (negative : Bool) (cs : List Char), (∀ c ∈ cs, c.toNat ≠ 0) →
      isSendable (String.ofList (if negative then '-' :: cs else cs)) = true := by
    intro negative cs hcs
    cases negative <;> simpa [isSendable] using hcs
  unfold Binary64.literal RealLayout.write
  split
  · decide
  · refine hsigned _ _ ?_
    split
    · simp
    · split
      · simp [RealLayout.literal]
      · exact (Sql.isNumberText_magnitude _).toNat_ne_zero

/-- Only texts hold null characters. -/
theorem Sql.isSendable_literalText {v : Native} (h : ∀ s, v ≠ .text s) : isSendable (Sql.literalText v) = true := by
  cases v with
  | null => decide
  | text s => exact absurd rfl (h s)
  | integer n => exact isSendable_int _
  | real x => exact isSendable_real x
  | blob b =>
    have hdigits : ∀ c ∈ Hex.upper b, c.toNat ≠ 0 := by
      intro c hc h0
      have hdigit := Lexed.isSome_digit?_of_mem_upper hc
      rw [← Char.ofNat_toNat c, h0] at hdigit
      cases hdigit
    simpa [isSendable, literalText] using hdigits

/-- A constant that is read back has the same names and texts. -/
theorem Sql.Constant.isSendable_reread (c : Sql.Constant) : isSendable c.reread.text = isSendable c.text := by
  cases c with
  | place p => rfl
  | literal v =>
    cases v with
    | real x =>
      have hreread : isSendable (Sql.literalText (Sql.numberValue x.negative (Sql.realDigits x))) = true := by
        refine Sql.isSendable_literalText ?_
        intro s hs
        unfold Sql.numberValue NumberText.value at hs
        generalize NumberText.read _ = number at hs
        split at hs <;> cases hs
      exact hreread.trans (Sql.isSendable_literalText (v := .real x) (fun _ => nofun)).symm
    | _ => rfl

/-! ## Terms -/

namespace Sql.Term

theorem isSendable_not (x : Term) : isSendable (not x).text = isSendable x.text := by
  simp [text, isSendable]

theorem isSendable_paren (x : Term) : isSendable (paren x).text = isSendable x.text := by
  simp [text, isSendable]

/-- An operator is written with nothing but its spelling between its operands. -/
theorem isSendable_binary (op : BinaryOp) (l r : Term) :
    isSendable (binary op l r).text = (isSendable l.text && isSendable r.text) := by
  have hop : isSendable op.text = true := by cases op <;> decide
  have hspace : isSendable " " = true := by decide
  simp [text, isSendable_append_eq, hop, hspace]

theorem isSendable_apply (f : TextFunction) (x : Term) : isSendable (apply f x).text = isSendable x.text := by
  have hf : isSendable f.text = true := by cases f <;> decide
  have hopen : isSendable "(" = true := by decide
  have hclose : isSendable ")" = true := by decide
  simp [text, isSendable_append_eq, hf, hopen, hclose]

/-- The arguments of a function decide about it. -/
theorem isSendable_replace (x old new : Term) :
    isSendable (replace x old new).text = (isSendable x.text && isSendable old.text && isSendable new.text) := by
  simp [text, isSendable, Bool.and_assoc]

/-- A membership can be sent if its item and the constants of its set can. -/
theorem isSendable_member (item : Term) (set : List Constant) :
    isSendable (member item set).text = (isSendable item.text && set.all fun c => isSendable c.text) := by
  have hset : isSendable (", ".intercalate (set.map Constant.text)) = set.all fun c => isSendable c.text := by
    rw [isSendable_intercalate (by decide), List.all_map]
    rfl
  have hopen : isSendable " IN (" = true := by decide
  have hclose : isSendable ")" = true := by decide
  simp only [text, isSendable_append_eq, hset, hopen, hclose, Bool.and_true]

/-- An operator after a term, also where it goes inside a negation. -/
theorem isSendable_followedBy (level : Nat) {make : Term → Term} {other : Bool}
    (h : ∀ t, isSendable (make t).text = (isSendable t.text && other)) (t : Term) :
    isSendable (t.followedBy level make).text = (isSendable t.text && other) := by
  unfold followedBy
  split
  · split
    · rw [isSendable_not, isSendable_not, h]
    · rw [h]
  · rw [h]

/-- Where an operator regroups with a negation on its right, nothing is lost and nothing added. -/
theorem isSendable_between (op : BinaryOp) (r l : Term) :
    isSendable (op.between r l).text = (isSendable l.text && isSendable r.text) := by
  unfold BinaryOp.between
  split
  · rw [isSendable_binary, isSendable_not]
  · rw [isSendable_binary]

/-- The same holds between two texts of percent signs. -/
theorem isSendable_surrounded (t : Term) : isSendable t.surrounded.text = isSendable t.text := by
  have hpercent : isSendable (string "%").text = true := by decide
  unfold surrounded
  split <;> simp [isSendable_binary, isSendable_not, hpercent]

end Sql.Term

namespace Emitted

open Sql (Term)

/-- Reading a term neither adds nor drops a null character. -/
theorem isSendable_read (m : Emitted) : isSendable m.read.text = isSendable m.written.text := by
  have hpercent : isSendable (Term.string "%").text = true := by decide
  have hnull : isSendable Term.null.text = true := by decide
  have hempty : isSendable (Term.string "").text = true := by decide
  induction m with
  | constant c => exact c.1.isSendable_reread
  | column table name => rfl
  | not x ih => simp only [read, written, Term.isSendable_not, Term.isSendable_paren, ih]
  | binary op l r ihl ihr =>
    simp only [read, written, Term.isSendable_paren, Term.isSendable_binary]
    rw [Term.isSendable_followedBy _ (Term.isSendable_between op r.read), ihl, ihr]
  | member item set ih =>
    have hset : ((set.map fun c => c.1.reread).all fun c => isSendable c.text) =
        (set.map (·.1)).all fun c => isSendable c.text := by
      simp [List.all_map, Function.comp_def, Sql.Constant.isSendable_reread]
    simp only [read, written, Term.isSendable_paren, Term.isSendable_member]
    rw [Term.isSendable_followedBy _ (fun t => Term.isSendable_member t _), ih, hset]
  | apply f x ih => simp only [read, written, Term.isSendable_apply, ih]
  | replace x old new ih ihold ihnew => simp only [read, written, Term.isSendable_replace, ih, ihold, ihnew]
  | contains x needle ih ihneedle =>
    simp only [read, written, Term.isSendable_paren, Term.isSendable_binary]
    rw [Term.isSendable_followedBy _ (Term.isSendable_between .like _)]
    simp [Term.isSendable_paren, Term.isSendable_surrounded, ih, ihneedle, hpercent]
  | nullOrEmpty x ih =>
    simp only [read, written, Term.isSendable_paren, Term.isSendable_binary]
    rw [Term.isSendable_followedBy _ (Term.isSendable_between .is _),
      Term.isSendable_followedBy _ (Term.isSendable_between .eq _), ih]

end Emitted

/-! ## Statements -/

namespace Sql

/-- Clauses on lines of their own can be sent if each can. -/
theorem isSendable_lines (clauses : List String) : isSendable (lines clauses) = clauses.all isSendable :=
  isSendable_intercalate (by decide) clauses

/-- So it is for items with commas between them. -/
theorem isSendable_commas (items : List String) : isSendable (commas items) = items.all isSendable :=
  isSendable_intercalate (by decide) items

/-- What an emitted term is read as can be sent if the term can. -/
theorem Term.IsEmitted.isSendable_grouped {t : Term} (h : t.IsEmitted) :
    isSendable t.grouped.text = isSendable t.text := by
  obtain ⟨m, rfl⟩ := h
  rw [m.grouped_written, m.isSendable_read]

/-- A join can be sent if the name of its table and its condition can. -/
theorem Join.isSendable_text (j : Join) :
    isSendable j.text = (isSendable (quoteIdentifier j.table) && isSendable j.condition.text) := by
  have hkind : isSendable j.kind.text = true := by cases j.kind <;> decide
  have hspace : isSendable " " = true := by decide
  have hon : isSendable " ON " = true := by decide
  simp [Join.text, isSendable_append_eq, hkind, hspace, hon]

/-- Conditions of joins are read as other terms, which can be sent if the written ones can. -/
theorem Source.IsEmitted.isSendable_grouped {s : Source} (h : s.IsEmitted) :
    s.grouped.clauses.all isSendable = s.clauses.all isSendable := by
  have hjoins : (s.joins.all fun j => isSendable ({ j with condition := j.condition.grouped } : Join).text) =
      s.joins.all fun j => isSendable j.text := by
    refine all_eq_of_mem fun j hj => ?_
    rw [Join.isSendable_text, Join.isSendable_text, (h j hj).isSendable_grouped]
  simp only [Source.clauses, Source.grouped, List.all_cons, List.all_map, List.map_map]
  exact congrArg _ hjoins

theorem isSendable_conditionClause (condition : Option Term) :
    (conditionClause condition).all isSendable = condition.all fun t => isSendable t.text := by
  have hwhere : isSendable "WHERE " = true := by decide
  cases condition <;> simp [conditionClause, isSendable_append_eq, hwhere]

/-- So it is for the condition of a query. -/
theorem isSendable_groupedCondition {condition : Option Term} (h : ∀ t ∈ condition, t.IsEmitted) :
    (conditionClause (condition.map Term.grouped)).all isSendable = (conditionClause condition).all isSendable := by
  rw [isSendable_conditionClause, isSendable_conditionClause]
  cases condition with
  | none => rfl
  | some t => exact (h t rfl).isSendable_grouped

theorem SortKey.isSendable_text (k : SortKey) : isSendable k.text = isSendable k.term.text := by
  have hdesc : isSendable " DESC" = true := by decide
  unfold SortKey.text
  split <;> simp [isSendable_append_eq, hdesc]

/-- Null characters of a query stand in its columns, its source, its condition or its order. -/
theorem Select.isSendable_clauses (q : Select) :
    q.clauses.all isSendable = (q.columns.all (fun c => isSendable c.text) &&
      q.source.all (fun s => s.clauses.all isSendable) && (conditionClause q.condition).all isSendable &&
        q.order.all fun k => isSendable k.term.text) := by
  have hselect : isSendable (if q.distinct then "SELECT DISTINCT " else "SELECT ") = true := by
    cases q.distinct <;> decide
  have hcolumns : isSendable (commas (q.columns.map ResultColumn.text)) = q.columns.all fun c => isSendable c.text := by
    rw [isSendable_commas, List.all_map]
    rfl
  have horder : (if q.order.isEmpty then [] else ["ORDER BY " ++ commas (q.order.map SortKey.text)]).all isSendable =
      q.order.all fun k => isSendable k.term.text := by
    have hby : isSendable "ORDER BY " = true := by decide
    cases q.order with
    | nil => rfl
    | cons k keys =>
      have hkeys : isSendable (commas ((k :: keys).map SortKey.text)) = (k :: keys).all fun k => isSendable k.text := by
        rw [isSendable_commas, List.all_map]
        rfl
      simp only [List.isEmpty_cons, Bool.false_eq_true, if_false, List.all_cons, List.all_nil,
        isSendable_append_eq, hby, hkeys, SortKey.isSendable_text, Bool.true_and, Bool.and_true]
  have hlimit : isSendable "LIMIT " = true := by decide
  have hoffset : isSendable "OFFSET " = true := by decide
  cases hs : q.source <;> cases hl : q.limit <;> cases ho : q.offset <;>
    simp only [Select.clauses, hs, hl, ho, List.all_append, List.all_cons, List.all_nil, isSendable_append_eq,
      isSendable_int, hselect, hcolumns, horder, hlimit, hoffset, Option.all_some, Option.all_none,
      Bool.and_true, Bool.true_and]

/-- Titles apart, a query that is grouped has null characters where it has them itself. -/
theorem Select.IsEmitted.isSendable_grouped {q : Select} (h : q.IsEmitted) :
    q.grouped.untitled.clauses.all isSendable = q.clauses.all isSendable := by
  obtain ⟨terms, -, hterms, hcolumns⟩ := h.columns
  obtain ⟨s, hs, hsource⟩ := h.source
  have hcolumnsText : (q.grouped.untitled.columns.all fun c => isSendable c.text) =
      q.columns.all fun c => isSendable c.text := by
    simp only [Select.untitled, Select.grouped, hcolumns, List.map_map, List.all_map]
    exact all_eq_of_mem fun t ht => (hterms t ht).isSendable_grouped
  have horder : (q.grouped.untitled.order.all fun k => isSendable k.term.text) =
      q.order.all fun k => isSendable k.term.text := by
    simp only [Select.untitled, Select.grouped, List.all_map]
    exact all_eq_of_mem fun k hk => (h.order k hk).isSendable_grouped
  have hgrouped : q.grouped.untitled.source = some s.grouped := by
    rw [Select.untitled, Select.grouped, hs, Option.map_some]
  rw [Select.isSendable_clauses, Select.isSendable_clauses, hcolumnsText, horder, hgrouped, hs, Option.all_some,
    Option.all_some, hsource.isSendable_grouped]
  congr 2
  exact isSendable_groupedCondition h.condition

/-- Nor do titles without null characters add one. -/
theorem Select.isSendable_titled {q : Select} (h : q.untitled.clauses.all isSendable = true)
    (htitles : ∀ c ∈ q.columns, ∀ t title, c = .term t (some title) → isSendable title = true) :
    q.clauses.all isSendable = true := by
  rw [Select.isSendable_clauses] at h ⊢
  simp only [Bool.and_eq_true] at h ⊢
  obtain ⟨⟨⟨hcolumns, hsource⟩, hcondition⟩, horder⟩ := h
  refine ⟨⟨⟨List.all_eq_true.2 fun c hc => ?_, hsource⟩, hcondition⟩, horder⟩
  have huntitled := List.all_eq_true.1 hcolumns _ (List.mem_map_of_mem hc)
  cases c with
  | all => exact huntitled
  | term t title =>
    cases title with
    | none => exact huntitled
    | some title =>
      have htitle := isSendable_quoteIdentifier (htitles _ hc t title rfl)
      exact isSendable_append (isSendable_append huntitled (by decide)) htitle

end Sql

end SqlMapper
