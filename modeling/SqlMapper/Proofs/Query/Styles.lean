import SqlMapper.Proofs.Query.Filling
import SqlMapper.Proofs.Query.Substitution

/-!
# Texts written out and texts bound

A statement with its places filled has the text of the statement with the literals of the values in the place of its
question marks. This is said of every emitted term by induction on how it is filled (`Emitted.FilledBy.text`), and
of statements line by line (`Sql.Statement.Fills.text`). Since the statements of a chain in the two styles are such
a pair, so are their texts.
-/

namespace SqlMapper

/-! ## Terms -/

namespace FilledBy

variable {p q r i j k : Sql.Term} {vs ws us : List Native}

/-- The text of a column is quoted, so it has no place. -/
theorem column (table : Option String) (name : String) :
    FilledBy (Sql.Term.column table name).text [] (Sql.Term.column table name).text := by
  cases table with
  | none => exact .identifier name
  | some t => exact ((FilledBy.identifier t).postpend rfl).append (.identifier name)

/-- So is a literal text, question marks in it included. -/
theorem string (s : String) : FilledBy (Sql.Term.string s).text [] (Sql.Term.string s).text := .quoted (.inr rfl) s

/-- The name of a parameter has no places and no quotation marks in it. -/
theorem parameter {name : String} (h : isParameterName name = true) :
    FilledBy (Sql.Term.parameter name).text [] (Sql.Term.parameter name).text := by
  refine FilledBy.plain ?_
  simp only [isParameterName, Bool.and_eq_true, List.all_eq_true] at h
  have hplain : ∀ c ∈ name.toList, isPlain c = true := by
    intro c hc
    have hword := h.2 c hc
    simp only [isPlain, Bool.and_eq_true, bne_iff_ne]
    refine ⟨⟨?_, ?_⟩, ?_⟩ <;> (rintro rfl; exact absurd hword (by decide))
  have htext : Sql.Term.text (.parameter name) = ":" ++ name := rfl
  rw [htext, isPlainText, String.toList_append, List.all_append, List.all_eq_true.2 hplain]
  rfl

/-- Parentheses have no place. -/
theorem paren (h : FilledBy p.text vs i.text) : FilledBy (Sql.Term.paren p).text vs (Sql.Term.paren i).text :=
  (h.prepend rfl).postpend rfl

/-- The places of the left operand come before those of the right one. -/
theorem binary (op : Sql.BinaryOp) (h : FilledBy p.text vs i.text) (h' : FilledBy q.text ws j.text) :
    FilledBy (Sql.Term.binary op p q).text (vs ++ ws) (Sql.Term.binary op i j).text := by
  have hop : isPlainText op.text = true := by cases op <;> rfl
  exact (((h.postpend rfl).postpend hop).postpend rfl).append h'

/-- Those of the item come before those of the set. -/
theorem member {c d : List Sql.Constant} (h : FilledBy p.text vs i.text)
    (hs : Each FilledBy (c.map Sql.Constant.text) ws (d.map Sql.Constant.text)) :
    FilledBy (Sql.Term.member p c).text (vs ++ ws) (Sql.Term.member i d).text :=
  ((h.postpend rfl).append (hs.intercalate (rfl : isPlainText ", " = true))).postpend rfl

theorem apply (f : Sql.TextFunction) (h : FilledBy p.text vs i.text) :
    FilledBy (Sql.Term.apply f p).text vs (Sql.Term.apply f i).text := by
  have hf : isPlainText (f.text ++ "(") = true := by cases f <;> rfl
  exact (h.prepend hf).postpend rfl

/-- Those of arguments come in the order of the arguments. -/
theorem replace (h : FilledBy p.text vs i.text) (h' : FilledBy q.text ws j.text) (h'' : FilledBy r.text us k.text) :
    FilledBy (Sql.Term.replace p q r).text (vs ++ ws ++ us) (Sql.Term.replace i j k).text :=
  (((((h.prepend rfl).postpend rfl).append h').postpend rfl).append h'').postpend rfl

end FilledBy

/-- A place is filled with the literal of its value, and the text of any other constant stays as it is. -/
theorem Sql.WritableConstant.FilledBy.text {c d : Sql.WritableConstant} {vs : List Native} (h : c.FilledBy vs d) :
    SqlMapper.FilledBy c.1.text vs d.1.text := by
  cases h with
  | null => exact .plain rfl
  | pattern s => exact .string s
  | named name h => exact .parameter h
  | place hv hn => exact .place hv

/-- A term with its places filled has its text filled. -/
theorem Emitted.FilledBy.text {m m' : Emitted} {vs : List Native} (h : m.FilledBy vs m') :
    SqlMapper.FilledBy m.written.text vs m'.written.text := by
  have hpercent := SqlMapper.FilledBy.string "%"
  induction h with
  | constant h => exact h.text
  | column table name => exact .column table name
  | not _ ih => exact ih.paren.prepend (rfl : isPlainText "NOT" = true)
  | binary op _ _ ihl ihr => exact .paren (.binary op ihl ihr)
  | member _ hs ih =>
    have hset := hs.map (fun c => c.1.text) fun _ _ _ h => h.text
    exact .paren (.member ih (by simpa only [List.map_map, Function.comp_def] using hset))
  | apply f _ ih => exact .apply f ih
  | replace _ _ _ ih ihold ihnew => exact .replace ih ihold ihnew
  | contains _ _ ih ihneedle =>
    have hneedle := SqlMapper.FilledBy.binary .concat (.binary .concat hpercent ihneedle) hpercent
    rw [List.append_nil] at hneedle
    exact .paren (.binary .like ih (.paren hneedle))
  | nullOrEmpty _ ih =>
    have hnull := SqlMapper.FilledBy.binary (q := .null) (j := .null) .is ih (.plain rfl)
    have hempty := SqlMapper.FilledBy.binary .eq ih (.string "")
    rw [List.append_nil] at hnull hempty
    exact .paren (.binary .or hnull hempty)

/-- The text of a filled term is the text of the term with its places filled. -/
theorem Sql.Term.Fills.text {t u : Sql.Term} {vs : List Native} (h : t.Fills vs u) : FilledBy t.text vs u.text := by
  obtain ⟨m, m', rfl, rfl, h⟩ := h
  exact h.text

/-! ## Clauses -/

/-- Lines are filled one after another. -/
theorem lines_filledBy {ps is : List String} {vs : List Native} (h : Each FilledBy ps vs is) :
    FilledBy (Sql.lines ps) vs (Sql.lines is) := h.intercalate rfl

theorem Sql.Join.Fills.text {j j' : Sql.Join} {vs : List Native} (h : j.Fills vs j') : FilledBy j.text vs j'.text := by
  have hkind : isPlainText (j.kind.text ++ " ") = true := by cases j.kind <;> rfl
  unfold Sql.Join.text
  rw [h.kind, h.table]
  exact (((FilledBy.identifier j.table).prepend hkind).postpend rfl).append h.condition.text

/-- A source fills the conditions of its joins in their order. -/
theorem Sql.Source.Fills.text {s s' : Sql.Source} {vs : List Native} (h : s.Fills vs s') :
    Each FilledBy s.clauses vs s'.clauses := by
  have hfrom : FilledBy ("FROM " ++ quoteIdentifier s.table) [] ("FROM " ++ quoteIdentifier s.table) :=
    (FilledBy.identifier s.table).prepend rfl
  unfold Sql.Source.clauses
  rw [h.table]
  exact Each.cons hfrom (h.joins.map Sql.Join.text fun _ _ _ h => h.text)

theorem Sql.ConditionFills.text {c c' : Option Sql.Term} {vs : List Native} (h : Sql.ConditionFills c vs c') :
    Each FilledBy (Sql.conditionClause c) vs (Sql.conditionClause c') := by
  cases h with
  | none => exact Each.nil
  | some h => exact Each.singleton (h.text.prepend rfl)

theorem Sql.SortKey.Fills.text {k k' : Sql.SortKey} {vs : List Native} (h : k.Fills vs k') :
    FilledBy k.text vs k'.text := by
  unfold Sql.SortKey.text
  rw [h.descending]
  cases k.descending with
  | true => exact h.term.text.postpend rfl
  | false => exact h.term.text

/-- The keys of an order stand in one clause, if there are any. -/
theorem order_filledBy {ps is : List Sql.SortKey} {vs : List Native} (h : Each Sql.SortKey.Fills ps vs is) :
    Each FilledBy (if ps.isEmpty then [] else ["ORDER BY " ++ Sql.commas (ps.map Sql.SortKey.text)]) vs
      (if is.isEmpty then [] else ["ORDER BY " ++ Sql.commas (is.map Sql.SortKey.text)]) := by
  have hcommas := (h.map Sql.SortKey.text fun _ _ _ h => h.text).intercalate (rfl : isPlainText ", " = true)
  cases h with
  | nil => exact Each.nil
  | cons first rest => exact Each.singleton (hcommas.prepend rfl)

/-- A clause with a number, if there is one, has no places. -/
theorem count_filledBy {keyword : String} (h : isPlainText keyword = true) (n : Option Int) :
    Each FilledBy (match n with | some n => [keyword ++ toString n] | none => []) []
      (match n with | some n => [keyword ++ toString n] | none => []) := by
  cases n with
  | none => exact Each.nil
  | some n => exact Each.singleton ((FilledBy.plain (isPlainText_int n)).prepend h)

/-- A query fills projection, source, condition and order in the order of its lines. -/
theorem Sql.Select.Fills.text {q q' : Sql.Select} {vs : List Native} (h : q.Fills vs q') :
    Each FilledBy q.clauses vs q'.clauses := by
  cases h with
  | ofTerms distinct limit offset hcolumns hsource hcondition horder =>
    have hitems := (hcolumns.map (fun t => Sql.ResultColumn.text (.term t none)) fun _ _ _ h => h.text).intercalate
      (rfl : isPlainText ", " = true)
    have hselect : isPlainText (if distinct then "SELECT DISTINCT " else "SELECT ") = true := by cases distinct <;> rfl
    have hlines := ((((Each.singleton (hitems.prepend hselect)).append hsource.text).append hcondition.text).append
      (order_filledBy horder)).append (count_filledBy (rfl : isPlainText "LIMIT " = true) limit)
    have hall := hlines.append (count_filledBy (rfl : isPlainText "OFFSET " = true) offset)
    rw [List.append_nil, List.append_nil] at hall
    unfold Sql.Select.ofTerms Sql.Select.clauses Sql.commas
    rw [List.map_map, List.map_map]
    exact hall

/-! ## Statements -/

/-- A statement with its places filled has its text filled. -/
theorem Sql.Statement.Fills.text {s s' : Sql.Statement} {vs : List Native} (h : s.Fills vs s') :
    FilledBy s.text vs s'.text := by
  cases h with
  | select h => exact lines_filledBy h.text
  | countOf h =>
    have hhead : Each FilledBy ["SELECT count(*)", "FROM ("] [] ["SELECT count(*)", "FROM ("] :=
      Each.cons (FilledBy.plain rfl) (.singleton (FilledBy.plain rfl))
    have hall := (hhead.append h.text).append (Each.singleton (FilledBy.plain (rfl : isPlainText ")" = true)))
    rw [List.append_nil] at hall
    exact lines_filledBy hall
  | countRows hs hc =>
    have hhead : Each FilledBy ["SELECT count(*)"] [] ["SELECT count(*)"] := .singleton (FilledBy.plain rfl)
    exact lines_filledBy ((hhead.append hs.text).append hc.text)
  | delete table h =>
    have hhead : Each FilledBy ["DELETE FROM " ++ quoteIdentifier table] [] ["DELETE FROM " ++ quoteIdentifier table] :=
      .singleton ((FilledBy.identifier table).prepend rfl)
    exact lines_filledBy (hhead.append (.singleton (h.text.prepend rfl)))

/-- A text with values for its places, and one that is the same with the literals of the values in the places: as
many as there are, and none left over. -/
def CompiledSql.FillsTo (inline positional : CompiledSql) : Prop :=
  inline.params = [] ∧ ∃ literals, positional.params.mapM Native.literal = .ok literals ∧
    substitute none positional.text.toList (literals.map String.toList) = some inline.text.toList

/-- Values that all have a literal are written one by one. -/
theorem mapM_literal {values : List Native} (h : ∀ v ∈ values, v.checkLiteral = .ok v) :
    values.mapM Native.literal = .ok (values.map Sql.literalText) := by
  induction values with
  | nil => rfl
  | cons v values ih =>
    have hv : v.literal = .ok (Sql.literalText v) := by
      unfold Native.literal
      rw [h v List.mem_cons_self]
      rfl
    rw [List.mapM_cons, hv, ih fun w hw => h w (List.mem_cons_of_mem _ hw)]
    rfl

/-- Statements that are alike have texts that are. -/
theorem toText_alike {i p : Except Error (Bound Sql.Statement)} (h : Alike (Bound.Agrees Sql.Statement.Fills) i p) :
    Alike CompiledSql.FillsTo (i.map Bound.toText) (p.map Bound.toText) := by
  cases h with
  | error e => exact Alike.error e
  | ok h =>
    obtain ⟨hparams, hfilled⟩ := h
    obtain ⟨hliteral, hfills⟩ := hfilled.text
    refine Alike.ok ⟨hparams, _, mapM_literal hliteral, ?_⟩
    have heq := hfills.substitute_eq
    rwa [literalChars, ← Function.comp_def, ← List.map_map] at heq

/-- Whatever a chain of clauses stands for, with constants written out and with constants bound it is rendered,
counted and deleted alike: with the same error, or with texts of which the bound one becomes the other when the
literals of its values are put in its places from left to right. -/
theorem inline_fills_positional (c : Clause) (coercion : Coercion) :
    let texts (style : Style) := c.query?.map fun q => q.render ⟨style, coercion⟩
    let counts (style : Style) := (c.count? ⟨style, coercion⟩).map (Except.map Bound.toText)
    let deletions (style : Style) := (c.delete? ⟨style, coercion⟩).map (Except.map Bound.toText)
    Option.Rel (Alike CompiledSql.FillsTo) (texts .inline) (texts .positional) ∧
      Option.Rel (Alike CompiledSql.FillsTo) (counts .inline) (counts .positional) ∧
      Option.Rel (Alike CompiledSql.FillsTo) (deletions .inline) (deletions .positional) := by
  intro texts counts deletions
  refine ⟨?_, ?_, ?_⟩
  · simp only [texts]
    cases c.query? with
    | none => exact .none
    | some q => exact .some (toText_alike (statement_alike coercion q))
  · simp only [counts]
    cases c with
    | selection s => exact .some (toText_alike (countWhere_alike coercion s none))
    | filter f => exact .some (toText_alike (countWhere_alike coercion f.selection (some f.predicate)))
    | _ => exact .none
  · simp only [deletions]
    cases c with
    | filter f => exact .some (toText_alike (deleteStatement_alike coercion f))
    | _ => exact .none

end SqlMapper
