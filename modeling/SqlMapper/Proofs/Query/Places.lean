import SqlMapper.Proofs.Query.Emitted
import SqlMapper.Proofs.Sql.Places
import SqlMapper.Sql.StatementReader

/-!
# The places of a query

The places of a rendered statement, three times the same: those that its text shows to a reader, where a mark inside
a quoted name or text is none (`textPlaces_eq`); those of its terms; and those of its terms as the text groups them
(`Sql.Statement.IsEmitted.grouped_places`). They are question marks and names after colons, with as many question
marks as there are rendered values (`Sql.Statement.Fills.fits`).
-/

namespace SqlMapper

open Sql (Token Keyword Place parenTokens commaTokens tokensFrom)

/-! ## Places among tokens -/

/-- The place that a token is. -/
def Sql.Token.place? : Token → Option Place
  | .place p => some p
  | _ => none

/-- The places among tokens. -/
def Sql.placesOf (ts : List Token) : List Place := ts.filterMap Sql.Token.place?

/-- The places that a text shows. -/
def Sql.textPlaces (text : String) : List Place := Sql.placesOf (tokensFrom text.toList)

namespace Sql

@[simp] theorem placesOf_nil : placesOf [] = [] := rfl

@[simp] theorem placesOf_cons (t : Token) (ts : List Token) : placesOf (t :: ts) = t.place?.toList ++ placesOf ts := by
  unfold placesOf
  rw [List.filterMap_cons]
  cases t.place? <;> rfl

/-- The places of tokens come in the order of the tokens. -/
@[simp] theorem placesOf_append (ts us : List Token) : placesOf (ts ++ us) = placesOf ts ++ placesOf us :=
  List.filterMap_append

@[simp] theorem placesOf_flatten (tss : List (List Token)) : placesOf tss.flatten = tss.flatMap placesOf := by
  induction tss with
  | nil => rfl
  | cons ts tss ih => simp [ih]

/-- Keywords, symbols, words and names are no places. -/
@[simp] theorem place?_token (k : Keyword) : k.token.place? = none := rfl

@[simp] theorem place?_symbol (x : Symbol) : (Token.symbol x).place? = none := rfl

@[simp] theorem place?_word (name : String) : (Token.word name).place? = none := rfl

@[simp] theorem place?_quoted (name : String) : (Token.quoted name).place? = none := rfl

/-- Parentheses and commas are no places. -/
@[simp] theorem placesOf_parenTokens (ts : List Token) : placesOf (parenTokens ts) = placesOf ts := by
  simp [parenTokens]

@[simp] theorem placesOf_commaTokens (tss : List (List Token)) : placesOf (commaTokens tss) = tss.flatMap placesOf := by
  induction tss with
  | nil => rfl
  | cons ts tss ih =>
    cases tss with
    | nil => simp [commaTokens]
    | cons us tss => simp [commaTokens, ih]

/-- A number has no places. -/
theorem placesOf_numberTokens (negative : Bool) (digits : List Char) :
    placesOf (numberTokens negative digits) = [] := by
  cases negative <;> rfl

/-- The places among the tokens of a constant are those of the constant. -/
theorem placesOf_constant (c : Constant) : placesOf c.tokens = c.places := by
  cases c with
  | place p => rfl
  | literal v => cases v <;> first | rfl | exact placesOf_numberTokens _ _

@[simp] theorem placesOf_columnTokens (table : Option String) (name : String) :
    placesOf (columnTokens table name) = [] := by
  cases table <;> rfl

@[simp] theorem placesOf_operator (op : BinaryOp) : placesOf op.tokens = [] := by cases op <;> rfl

/-- The tokens of a term show its places. -/
theorem placesOf_tokens (t : Term) : placesOf t.tokens = t.places := by
  induction t with
  | constant c => exact placesOf_constant c
  | column table name => simp [Term.tokens, Term.places]
  | word name => rfl
  | truth b => rfl
  | not x ih => simp [Term.tokens, Term.places, ih]
  | sign negative x ih => simp [Term.tokens, Term.places, ih]
  | binary op l r ihl ihr => simp [Term.tokens, Term.places, ihl, ihr]
  | member item set ih => simp [Term.tokens, Term.places, ih, List.flatMap_map, placesOf_constant]
  | apply f x ih => simp [Term.tokens, Term.places, ih]
  | replace x old new ih ihold ihnew => simp [Term.tokens, Term.places, ih, ihold, ihnew]
  | castText x ih => simp [Term.tokens, Term.places, ih]
  | paren x ih => simp [Term.tokens, Term.places, ih]

end Sql

/-! ## Places of clauses -/

namespace Sql

/-- The tokens of a source show the places of its joins. -/
theorem placesOf_source (s : Source) : s.clauseTokens.flatMap placesOf = s.places := by
  have hjoin : ∀ j : Join, placesOf j.tokens = j.condition.places := by
    intro j
    cases hkind : j.kind <;> simp [Join.tokens, hkind, JoinKind.tokens, placesOf_tokens]
  simp [Source.clauseTokens, Source.places, List.flatMap_map, hjoin]

/-- The places of a condition are those of its term, if there is one. -/
theorem placesOf_condition (condition : Option Term) :
    (conditionTokens condition).flatMap placesOf = optionalPlaces condition := by
  cases condition with
  | none => rfl
  | some t => simp [conditionTokens, optionalPlaces, placesOf_tokens]

/-- The page of a query has no places. -/
theorem placesOf_page (k : Keyword) (n : Option Int) : (pageTokens k n).flatMap placesOf = [] := by
  cases n with
  | none => rfl
  | some n => simp [pageTokens, integerTokens, placesOf_numberTokens]

/-- Those of an order are the places of its keys, one after another. -/
theorem placesOf_order (keys : List SortKey) : (orderTokens keys).flatMap placesOf =
    keys.flatMap fun k => k.term.places := by
  have hkey : ∀ k : SortKey, placesOf k.tokens = k.term.places := by
    intro k
    cases hdescending : k.descending <;> simp [SortKey.tokens, hdescending, placesOf_tokens]
  cases keys with
  | nil => rfl
  | cons k keys => simp [orderTokens, List.flatMap_map, hkey]

/-- The places among the tokens of a query are those of the query, clause by clause. -/
theorem placesOf_select (q : Select) : q.clauseTokens.flatMap placesOf = q.places := by
  have hcolumn : ∀ c : ResultColumn, placesOf c.tokens = c.places := by
    intro c
    cases c with
    | all => rfl
    | term t title => cases title <;> simp [ResultColumn.tokens, ResultColumn.places, placesOf_tokens]
  have hhead : placesOf q.headTokens = q.columns.flatMap ResultColumn.places := by
    cases hdistinct : q.distinct <;> simp [Select.headTokens, hdistinct, List.flatMap_map, hcolumn]
  simp only [Select.clauseTokens, List.flatMap_append, List.flatMap_singleton, hhead, placesOf_condition,
    placesOf_order, placesOf_page, List.append_nil, Select.places]
  cases q.source with
  | none => rfl
  | some s => simp only [Option.map_some, Option.getD_some, placesOf_source]

/-- The tokens of a statement show its places. -/
theorem placesOf_statement {s : Statement} {ts : List Token} (h : s.tokens? = some ts) : placesOf ts = s.places := by
  have hcount : placesOf countTokens = [] := rfl
  cases s with
  | select q =>
    obtain rfl := Option.some.inj h
    rw [placesOf_flatten, placesOf_select]
    rfl
  | countOf q =>
    obtain rfl := Option.some.inj h
    simp [hcount, placesOf_select, Statement.places]
  | countRows source condition =>
    obtain rfl := Option.some.inj h
    simp [hcount, placesOf_source, placesOf_condition, Statement.places]
  | delete table condition =>
    obtain rfl := Option.some.inj h
    simp [placesOf_condition, Statement.places]
  | _ => cases h

end Sql

/-- The text of a rendered statement shows the places of its terms. -/
theorem textPlaces_eq {k : Clause} {r : Rendering} {p : Clause.Purpose} {b : Bound Sql.Statement}
    (h : k.statement? r p = some (.ok b)) : Sql.textPlaces b.sql.text = b.sql.places :=
  Sql.placesOf_statement (Clause.statement?_tokens h)

/-! ## Places and values -/

/-- Places that are question marks and names after colons, with as many question marks as there are values; the
names are what is left when the values are in. -/
structure Sql.Fits (places : List Place) (values : List Native) (left : List Place) : Prop where
  form : ∀ p ∈ places, p = .anonymous ∨ ∃ name, p = .named ':' name
  count : places.count .anonymous = values.length
  left : left = places.filter fun p => p != .anonymous

namespace Sql.Fits

theorem nil : Fits [] [] [] := ⟨nofun, rfl, rfl⟩

/-- Places that are filled one after another are filled together. -/
theorem append {ps qs ls ks : List Place} {vs ws : List Native} (h : Fits ps vs ls) (h' : Fits qs ws ks) :
    Fits (ps ++ qs) (vs ++ ws) (ls ++ ks) where
  form p hp := (List.mem_append.1 hp).elim (h.form p) (h'.form p)
  count := by rw [List.count_append, List.length_append, h.count, h'.count]
  left := by rw [List.filter_append, h.left, h'.left]

/-- Items one after another, each with its own values. -/
theorem flatMap {α : Type} {R : α → List Native → α → Prop} (places : α → List Place)
    (hR : ∀ p vs i, R p vs i → Fits (places p) vs (places i)) {ps is : List α} {vs : List Native}
    (h : Each R ps vs is) :
    Fits (ps.flatMap places) vs (is.flatMap places) := by
  induction h with
  | nil => exact nil
  | cons first _ ih =>
    rw [List.flatMap_cons, List.flatMap_cons]
    exact (hR _ _ _ first).append ih

end Sql.Fits

/-- A constant that is bound is one place with its value; one that is written out is none. -/
theorem Sql.WritableConstant.FilledBy.fits {c d : Sql.WritableConstant} {vs : List Native} (h : c.FilledBy vs d) :
    Sql.Fits c.1.places vs d.1.places := by
  cases h with
  | null => exact .nil
  | pattern s => exact .nil
  | named name h => exact ⟨by simp [Sql.WritableConstant.named, Sql.Constant.places], rfl, rfl⟩
  | place hv hn =>
    exact ⟨by simp [Sql.WritableConstant.placeholder, Sql.Constant.placeholder, Sql.Constant.places], rfl, rfl⟩

/-- An emitted term has a question mark for each of the values that fill it. -/
theorem Emitted.FilledBy.fits {m m' : Emitted} {vs : List Native} (h : m.FilledBy vs m') :
    Sql.Fits m.written.places vs m'.written.places := by
  induction h with
  | constant h => exact h.fits
  | column table name => exact .nil
  | not _ ih => exact ih
  | binary op _ _ ihl ihr => exact ihl.append ihr
  | member _ hs ih =>
    refine ih.append ?_
    rw [List.flatMap_map, List.flatMap_map]
    exact .flatMap (fun c : Sql.WritableConstant => c.1.places) (fun _ _ _ h => h.fits) hs
  | apply f _ ih => exact ih
  | replace _ _ _ ih ihold ihnew => exact (ih.append ihold).append ihnew
  | contains _ _ ih ihneedle =>
    have hplaces := ih.append ihneedle
    simpa [Emitted.written, Sql.Term.places, Sql.Term.string, Sql.Constant.places] using hplaces
  | nullOrEmpty _ ih =>
    have hplaces := ih.append ih
    simpa [Emitted.written, Sql.Term.places, Sql.Term.string, Sql.Term.null, Sql.Constant.places] using hplaces

/-- The places of a term take as many values as fill it. -/
theorem Sql.Term.Fills.fits {t u : Sql.Term} {vs : List Native} (h : t.Fills vs u) : Sql.Fits t.places vs u.places := by
  obtain ⟨m, m', rfl, rfl, h⟩ := h
  exact h.fits

theorem Sql.Source.Fills.fits {s s' : Sql.Source} {vs : List Native} (h : s.Fills vs s') :
    Sql.Fits s.places vs s'.places :=
  .flatMap (fun j : Sql.Join => j.condition.places) (fun _ _ _ hj => hj.condition.fits) h.joins

/-- So do those of a condition. -/
theorem Sql.ConditionFills.fits {c c' : Option Sql.Term} {vs : List Native} (h : Sql.ConditionFills c vs c') :
    Sql.Fits (Sql.optionalPlaces c) vs (Sql.optionalPlaces c') := by
  cases h with
  | none => exact .nil
  | some h => exact h.fits

/-- So do those of a query, clause by clause. -/
theorem Sql.Select.Fills.fits {q q' : Sql.Select} {vs : List Native} (h : q.Fills vs q') :
    Sql.Fits q.places vs q'.places := by
  cases h with
  | ofTerms distinct limit offset hcolumns hsource hcondition horder =>
    have hterms := Sql.Fits.flatMap Sql.Term.places (fun _ _ _ h => Sql.Term.Fills.fits h) hcolumns
    have hkeys := Sql.Fits.flatMap (fun k : Sql.SortKey => k.term.places) (fun _ _ _ h => h.term.fits) horder
    have hall := ((hterms.append hsource.fits).append hcondition.fits).append hkeys
    simpa [Sql.Select.ofTerms, Sql.Select.places, List.flatMap_map, Sql.ResultColumn.places] using hall

/-- A statement has a question mark for each of the values that fill it. -/
theorem Sql.Statement.Fills.fits {s s' : Sql.Statement} {vs : List Native} (h : s.Fills vs s') :
    Sql.Fits s.places vs s'.places := by
  cases h with
  | select h => exact h.fits
  | countOf h => exact h.fits
  | countRows hs hc => exact hs.fits.append hc.fits
  | delete table h => exact h.fits

/-! ## Places of what is read -/

namespace Emitted

open Sql (Term)

/-- An operator after a term adds its places, also where it goes inside a negation. -/
theorem places_followedBy (level : Nat) {make : Term → Term} {ps : List Place}
    (h : ∀ t, (make t).places = t.places ++ ps) (t : Term) :
    (t.followedBy level make).places = t.places ++ ps := by
  unfold Sql.Term.followedBy
  split
  · split
    · exact h _
    · exact h _
  · exact h t

/-- Regrouping an operator with a negation on its right keeps the places in their order. -/
theorem places_between (op : Sql.BinaryOp) (r l : Term) : (op.between r l).places = l.places ++ r.places := by
  unfold Sql.BinaryOp.between
  split <;> rfl

theorem places_surrounded (t : Term) : t.surrounded.places = t.places := by
  unfold Sql.Term.surrounded
  split <;> simp [Term.places, Term.string, Sql.Constant.places]

/-- A constant is read with the places it was written with. -/
theorem places_reread (c : Sql.Constant) : c.reread.places = c.places := by
  cases c with
  | place p => rfl
  | literal v => cases v <;> rfl

/-- Reading keeps the places of a term in their order. -/
theorem places_read (m : Emitted) : m.read.places = m.written.places := by
  induction m with
  | constant c => exact places_reread c.1
  | column table name => rfl
  | not x ih => exact ih
  | binary op l r ihl ihr =>
    simp only [read, written, Term.places]
    rw [places_followedBy _ (places_between op r.read), ihl, ihr]
  | member item set ih =>
    simp only [read, written, Term.places]
    have hplaces : ∀ t : Term, (Term.member t (set.map fun c => c.1.reread)).places =
        t.places ++ (set.map (·.1)).flatMap Sql.Constant.places := by
      intro t
      simp only [Term.places, List.flatMap_map]
      congr 2
      funext c
      exact places_reread c.1
    rw [← ih]
    exact places_followedBy _ hplaces _
  | apply f x ih => exact ih
  | replace x old new ih ihold ihnew => simp only [read, written, Term.places, ih, ihold, ihnew]
  | contains x needle ih ihneedle =>
    simp only [read, written, Term.places]
    rw [places_followedBy _ (places_between .like _)]
    simp [Term.places, places_surrounded, ih, ihneedle, Term.string, Sql.Constant.places]
  | nullOrEmpty x ih =>
    simp only [read, written, Term.places]
    rw [places_followedBy _ (places_between .is _), places_followedBy _ (places_between .eq _), ih]

end Emitted

/-! ## Places of grouped statements -/

namespace Sql

/-- What an emitted term is read as has the places of the term, in their order. -/
theorem Term.IsEmitted.grouped_places {t : Term} (h : t.IsEmitted) : t.grouped.places = t.places := by
  obtain ⟨m, rfl⟩ := h
  rw [m.grouped_written, m.places_read]

/-- So it is for a source, join by join. -/
theorem Source.IsEmitted.grouped_places {s : Source} (h : s.IsEmitted) : s.grouped.places = s.places := by
  simp only [Source.grouped, Source.places, List.flatMap_map]
  exact List.flatMap_congr fun j hj => (h j hj).grouped_places

theorem grouped_places_condition {condition : Option Term} (h : ∀ t ∈ condition, t.IsEmitted) :
    optionalPlaces (condition.map Term.grouped) = optionalPlaces condition := by
  cases condition with
  | none => rfl
  | some t => exact (h t rfl).grouped_places

/-- The columns of a query are read with the places they were written with. -/
theorem Select.IsEmitted.grouped_places_columns {q : Select} (h : q.IsEmitted) :
    (q.columns.map ResultColumn.grouped).flatMap ResultColumn.places = q.columns.flatMap ResultColumn.places := by
  obtain ⟨terms, -, hterms, hcolumns⟩ := h.columns
  rw [hcolumns, List.map_map, List.flatMap_map, List.flatMap_map]
  exact List.flatMap_congr fun t ht => (hterms t ht).grouped_places

/-- So are all clauses of a query. -/
theorem Select.IsEmitted.grouped_places {q : Select} (h : q.IsEmitted) : q.grouped.places = q.places := by
  obtain ⟨s, hs, hsource⟩ := h.source
  have horder : (q.order.map fun k => SortKey.ofTerm k.term.grouped k.descending).flatMap (fun k => k.term.places) =
      q.order.flatMap fun k => k.term.places := by
    rw [List.flatMap_map]
    exact List.flatMap_congr fun k hk => (h.order k hk).grouped_places
  simp only [Select.grouped, Select.places, hs, Option.map_some, h.grouped_places_columns, hsource.grouped_places,
    grouped_places_condition h.condition, horder]

/-- Grouping the terms of a statement keeps its places. -/
theorem Statement.IsEmitted.grouped_places {s : Statement} (h : s.IsEmitted) : s.grouped.places = s.places := by
  cases h with
  | select h => exact h.grouped_places
  | countOf h => exact h.grouped_places
  | countRows hs hc => simp only [Statement.grouped, Statement.places, hs.grouped_places, grouped_places_condition hc]
  | delete table h => exact h.grouped_places

end Sql

/-! ## Named places in a text -/

namespace Sql

variable {name : String}

/-- A character of an item is one of the items together. -/
theorem mem_intercalate {c : Char} (separator : String) {item : String} {items : List String} (hitem : item ∈ items)
    (hc : c ∈ item.toList) : c ∈ (separator.intercalate items).toList := by
  induction items with
  | nil => cases hitem
  | cons first rest ih =>
    cases rest with
    | nil =>
      rw [String.intercalate_singleton, ← List.mem_singleton.1 hitem]
      exact hc
    | cons second rest =>
      rw [String.intercalate_cons_cons, String.toList_append, String.toList_append, List.mem_append, List.mem_append]
      rcases List.mem_cons.1 hitem with rfl | hitem
      · exact Or.inl (Or.inl hc)
      · exact Or.inr (ih hitem)

/-- The name of a parameter is written with its colon. -/
theorem Constant.colon_mem {c : Constant} (h : Place.named ':' name ∈ c.places) : ':' ∈ c.text.toList := by
  cases c with
  | literal v => cases h
  | place p =>
    obtain rfl := List.mem_singleton.1 h
    simp [Constant.text, Place.text]

/-- A term that names a parameter has a colon in its text. -/
theorem Term.colon_mem {t : Term} (h : Place.named ':' name ∈ t.places) : ':' ∈ t.text.toList := by
  induction t with
  | constant c => exact c.colon_mem h
  | column table name => cases h
  | word name => cases h
  | truth b => cases h
  | not x ih => simp [Term.text, ih h]
  | sign negative x ih => simp [Term.text, ih h]
  | binary op l r ihl ihr =>
    rcases List.mem_append.1 h with h | h
    · simp [Term.text, ihl h]
    · simp [Term.text, ihr h]
  | member item set ih =>
    rcases List.mem_append.1 h with h | h
    · simp [Term.text, ih h]
    · obtain ⟨c, hc, h⟩ := List.mem_flatMap.1 h
      have hset := mem_intercalate ", " (List.mem_map_of_mem hc) (c.colon_mem h)
      simp [Term.text, hset, -String.toList_intercalate]
  | apply f x ih => simp [Term.text, ih h]
  | replace x old new ih ihold ihnew =>
    rcases List.mem_append.1 h with h | h
    · rcases List.mem_append.1 h with h | h
      · simp [Term.text, ih h]
      · simp [Term.text, ihold h]
    · simp [Term.text, ihnew h]
  | castText x ih => simp [Term.text, ih h]
  | paren x ih => simp [Term.text, ih h]

/-- A text of lines has a colon where one of them has. -/
theorem colon_mem_lines {line : String} {clauses : List String} (hline : line ∈ clauses) (h : ':' ∈ line.toList) :
    ':' ∈ (lines clauses).toList := mem_intercalate "\n" hline h

/-- A named place in a source shows a colon in the line of its join. -/
theorem Source.colon_mem {s : Source} (h : Place.named ':' name ∈ s.places) :
    ∃ line ∈ s.clauses, ':' ∈ line.toList := by
  obtain ⟨j, hj, h⟩ := List.mem_flatMap.1 h
  exact ⟨j.text, List.mem_cons_of_mem _ (List.mem_map_of_mem hj), by simp [Join.text, Term.colon_mem h]⟩

theorem colon_mem_condition {c : Option Term} (h : Place.named ':' name ∈ optionalPlaces c) :
    ∃ line ∈ conditionClause c, ':' ∈ line.toList := by
  cases c with
  | none => cases h
  | some t => exact ⟨_, List.mem_singleton_self _, by simp [Term.colon_mem h]⟩

/-- A named place in a query shows a colon in one of its lines. -/
theorem Select.colon_mem {q : Select} (h : Place.named ':' name ∈ q.places) :
    ∃ line ∈ q.clauses, ':' ∈ line.toList := by
  simp only [Select.places, List.mem_append] at h
  simp only [Select.clauses, List.mem_append]
  rcases h with ((h | h) | h) | h
  · obtain ⟨c, hc, h⟩ := List.mem_flatMap.1 h
    have hcolumn : ':' ∈ c.text.toList := by
      cases c with
      | all => cases h
      | term t title => cases title <;> simp [ResultColumn.text, Term.colon_mem h]
    have hcommas := mem_intercalate ", " (List.mem_map_of_mem hc) hcolumn
    exact ⟨_, .inl (.inl (.inl (.inl (.inl (List.mem_singleton_self _))))),
      by simp [commas, hcommas, -String.toList_intercalate]⟩
  · cases hsource : q.source with
    | none => simp [hsource] at h
    | some s =>
      rw [hsource] at h
      obtain ⟨line, hline, h⟩ := Source.colon_mem h
      exact ⟨line, .inl (.inl (.inl (.inl (.inr hline)))), h⟩
  · obtain ⟨line, hline, h⟩ := colon_mem_condition h
    exact ⟨line, .inl (.inl (.inl (.inr hline))), h⟩
  · obtain ⟨k, hk, h⟩ := List.mem_flatMap.1 h
    have hkey : ':' ∈ k.text.toList := by
      unfold SortKey.text
      split <;> simp [Term.colon_mem h]
    have hcommas := mem_intercalate ", " (List.mem_map_of_mem hk) hkey
    have hempty : q.order.isEmpty = false := by cases horder : q.order <;> simp_all
    exact ⟨_, .inl (.inl (.inr (by rw [hempty]; exact List.mem_singleton_self _))),
      by simp [commas, hcommas, -String.toList_intercalate]⟩

/-- A statement with a named place has a colon in its text. -/
theorem Statement.Fills.colon_mem {s s' : Statement} {vs : List Native} (hs : s.Fills vs s')
    (h : Place.named ':' name ∈ s.places) : ':' ∈ s.text.toList := by
  cases hs with
  | select _ =>
    obtain ⟨line, hline, h⟩ := Select.colon_mem h
    exact colon_mem_lines hline h
  | countOf _ =>
    obtain ⟨line, hline, h⟩ := Select.colon_mem h
    exact colon_mem_lines (List.mem_append_left _ (List.mem_append_right _ hline)) h
  | countRows _ _ =>
    rcases List.mem_append.1 h with h | h
    · obtain ⟨line, hline, h⟩ := Source.colon_mem h
      exact colon_mem_lines (List.mem_append_left _ (List.mem_append_right _ hline)) h
    · obtain ⟨line, hline, h⟩ := colon_mem_condition h
      exact colon_mem_lines (List.mem_append_right _ hline) h
  | @delete table t _ _ _ =>
    obtain ⟨line, hline, h⟩ := colon_mem_condition (c := some t) h
    exact colon_mem_lines (List.mem_append_right _ hline) h

end Sql

end SqlMapper
