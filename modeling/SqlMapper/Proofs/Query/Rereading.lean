import SqlMapper.Proofs.Query.Sendable
import SqlMapper.Proofs.Sql.Spelling

/-!
# Rendered statements read back

The text of a rendered statement is read as the statement with its terms grouped, but for the titles of its columns,
which are parts of the text (`Clause.readBatch_text`). The reading goes clause by clause; where a clause ends is
told by the keyword that comes next (`Sql.Follows`).
-/

namespace SqlMapper

namespace Sql

variable {rest next : List Token}

/-! ## Where clauses end -/

/-- What comes after a clause: nothing, a closing parenthesis, or a clause that begins with one of some keywords. -/
inductive Follows (ks : List Keyword) : List Token → Prop where
  | nil : Follows ks []
  | close (ts : List Token) : Follows ks (.symbol .close :: ts)
  | keyword {k : Keyword} (h : k ∈ ks) (ts : List Token) : Follows ks (k.token :: ts)

namespace Follows

variable {ks : List Keyword}

/-- No term goes on. -/
theorem stops (h : Follows ks rest) (hks : ∀ k ∈ ks, k.operates = false) (level : Nat) : Stops level rest := by
  cases h with
  | nil => exact .nil
  | close ts => exact .close ts
  | keyword hk ts => exact .keyword _ ts (hks _ hk)

/-- A clause that may be left out comes before what follows it. -/
theorem clause {k : Keyword} {tss : List (List Token)} (htss : tss = [] ∨ ∃ ts, tss = [k.token :: ts])
    (h : Follows ks rest) :
    Follows (k :: ks) (tss.flatten ++ rest) := by
  rcases htss with rfl | ⟨ts, rfl⟩
  · cases h with
    | nil => exact .nil
    | close ts => exact .close ts
    | keyword hk ts => exact .keyword (List.mem_cons_of_mem _ hk) ts
  · simpa using Follows.keyword List.mem_cons_self (ts ++ rest)

/-- A clause that is not there is not read. -/
theorem readAfter_eq_none {α : Type} (h : Follows ks rest) {k : Keyword} (hk : k ∉ ks)
    (read : List Token → Except SyntaxFault (α × List Token)) : readAfter k read rest = .ok (none, rest) := by
  cases h with
  | nil => rfl
  | close ts => rfl
  | @keyword j hj ts =>
    have hne : j ≠ k := by
      rintro rfl
      exact hk hj
    simp [readAfter, Keyword.token, hne]

end Follows

/-- A clause that is there is read after its keyword. -/
theorem readAfter_token {α : Type} {k : Keyword} {read : List Token → Except SyntaxFault (α × List Token)}
    {ts : List Token} {a : α} (h : read ts = .ok (a, rest)) :
    readAfter k read (k.token :: ts) = .ok (some a, rest) := by
  simp [readAfter, Keyword.token, h, Except.map]

/-! ## Terms -/

/-- An emitted term is read as it is grouped, where nothing goes on with it. -/
theorem Term.IsEmitted.readWholeTerm_tokens {t : Term} (h : t.IsEmitted) (hrest : ∀ level, Stops level rest) :
    readWholeTerm (t.tokens ++ rest) = .ok (t.grouped, rest) := by
  obtain ⟨m, rfl⟩ := h
  rw [m.grouped_written]
  exact (m.readsBack.alone (hrest 0) (hrest _)).readWholeTerm_eq

/-- Tokens that a term may begin with. -/
def Token.leads : Token → Bool
  | .symbol .open | .symbol .minus | .quoted _ | .word _ | .string _ | .blob _ | .number _ | .place _ => true
  | .keyword .not _ | .keyword .null _ => true
  | _ => false

theorem Constant.exists_leading (c : Constant) : ∃ u us, c.tokens = u :: us ∧ u.leads = true ∧
    ∀ name, u ≠ .word name := by
  have hnumber : ∀ minus digits, ∃ u us, numberTokens minus digits = u :: us ∧ u.leads = true ∧
      ∀ name, u ≠ .word name := by
    intro minus digits
    cases minus
    · exact ⟨_, _, rfl, rfl, fun _ => nofun⟩
    · exact ⟨_, _, rfl, rfl, fun _ => nofun⟩
  cases c with
  | place p => exact ⟨_, _, rfl, rfl, fun _ => nofun⟩
  | literal v =>
    cases v with
    | integer n => exact hnumber _ _
    | real x => exact hnumber _ _
    | _ => exact ⟨_, _, rfl, rfl, fun _ => nofun⟩

/-- An emitted term does not begin as a star or as a keyword of a query. -/
theorem Term.IsEmitted.exists_leading {t : Term} (h : t.IsEmitted) : ∃ u us, t.tokens = u :: us ∧ u.leads = true := by
  obtain ⟨m, rfl⟩ := h
  cases m with
  | constant c =>
    obtain ⟨u, us, hc, hu, -⟩ := c.1.exists_leading
    exact ⟨u, us, hc, hu⟩
  | column table name => cases table <;> exact ⟨_, _, rfl, rfl⟩
  | _ => exact ⟨_, _, rfl, rfl⟩

/-- Nor is it a function of a star. -/
theorem Term.IsEmitted.ne_call_star {t : Term} (h : t.IsEmitted) (next : List Token) (name : String) (ts : List Token) :
    t.tokens ++ next ≠ .word name :: .symbol .open :: .symbol .star :: ts := by
  have hstar : ∀ (x : Emitted) (us : List Token), x.written.tokens ++ us ≠ .symbol .star :: ts := by
    intro x us he
    obtain ⟨v, vs, hx, hv⟩ := Term.IsEmitted.exists_leading ⟨x, rfl⟩
    rw [hx] at he
    rw [(List.cons.inj he).1] at hv
    cases hv
  obtain ⟨m, rfl⟩ := h
  intro he
  cases m with
  | constant c =>
    obtain ⟨u, us, hc, -, hword⟩ := c.1.exists_leading
    rw [Emitted.written, Term.tokens, hc] at he
    exact hword name (List.cons.inj he).1
  | column table name => cases table <;> cases (List.cons.inj he).1
  | apply f x =>
    refine hstar x (.symbol .close :: next) ?_
    simpa [Emitted.written, Term.tokens, parenTokens] using (List.cons.inj (List.cons.inj he).2).2
  | replace x old new =>
    refine hstar x (.symbol .comma ::
      (old.written.tokens ++ .symbol .comma :: (new.written.tokens ++ .symbol .close :: next))) ?_
    simpa [Emitted.written, Term.tokens, parenTokens] using (List.cons.inj (List.cons.inj he).2).2
  | _ => cases (List.cons.inj he).1

/-! ## Result columns -/

/-- A result column that is read of a term: if it has a title, then a part of the text. -/
def ResultColumn.IsReadOf (spelling : Spelling) (t : Term) (c : ResultColumn) : Prop :=
  ∃ title, c = .term t.grouped title ∧ ∀ s ∈ title, ∃ first last, s = spelling first last

/-- A result column is read up to the comma or the source that comes next. -/
theorem readResultColumn_tokens (spelling : Spelling) {t : Term} (ht : t.IsEmitted)
    (hnext : (∃ ts, next = .symbol .comma :: ts) ∨ ∃ ts, next = Keyword.token .from :: ts) :
    ∃ c, readResultColumn spelling (t.tokens ++ next) = .ok (c, next) ∧ c.IsReadOf spelling t := by
  have hstops : ∀ level, Stops level next := by
    intro level
    rcases hnext with ⟨ts, rfl⟩ | ⟨ts, rfl⟩
    · exact .comma ts
    · exact .keyword _ ts rfl
  have hread := ht.readWholeTerm_tokens hstops
  obtain ⟨u, us, htokens, hleads⟩ := ht.exists_leading
  have hstar : ∀ ts, t.tokens ++ next ≠ .symbol .star :: ts := by
    intro ts he
    rw [htokens] at he
    rw [(List.cons.inj he).1] at hleads
    cases hleads
  have huntitled : readResultColumn spelling (t.tokens ++ next) =
      .ok (.term t.grouped
      (if t.grouped.isName then none else some (spelling (t.tokens ++ next).length next.length)), next) := by
    unfold readResultColumn
    split
    · exact absurd ‹_› (hstar _)
    · rw [hread]
      rcases hnext with ⟨ts, rfl⟩ | ⟨ts, rfl⟩ <;> rfl
  refine ⟨_, huntitled, _, rfl, ?_⟩
  intro s hs
  split at hs
  · cases hs
  · exact ⟨_, _, (Option.some.inj hs).symm⟩

/-! ## Sources -/

/-- The keywords of the clauses after a source. -/
def Keyword.afterSource : List Keyword := [.where, .order, .limit, .offset]

theorem stops_joins (joins : List Join) (hrest : Follows Keyword.afterSource rest) (level : Nat) :
    Stops level ((joins.map Join.tokens).flatten ++ rest) := by
  cases joins with
  | nil => exact hrest.stops (by decide) level
  | cons j joins =>
    have hjoin : ∀ ts, Stops level (j.kind.tokens ++ ts) := by
      intro ts
      cases j.kind <;> exact .keyword _ _ rfl
    simpa [Join.tokens] using hjoin _

/-- Joins are read up to the clause that comes next. -/
theorem readJoins_tokens {joins : List Join} (h : ∀ j ∈ joins, j.condition.IsEmitted)
    (hrest : Follows Keyword.afterSource rest) {most : Nat} (hmost : joins.length < most) :
    readJoins most ((joins.map Join.tokens).flatten ++ rest) =
      .ok (joins.map fun j => { j with condition := j.condition.grouped }, rest) := by
  induction joins generalizing most with
  | nil =>
    obtain ⟨most, rfl⟩ : ∃ n, most = n + 1 := ⟨most - 1, by simp only [List.length_nil] at hmost; omega⟩
    have hkind : readJoinKind rest = .ok (none, rest) := by
      cases hrest with
      | nil => rfl
      | close ts => rfl
      | @keyword k hk ts =>
        simp only [Keyword.afterSource, List.mem_cons, List.not_mem_nil, or_false] at hk
        rcases hk with rfl | rfl | rfl | rfl <;> rfl
    simp only [List.map_nil, List.flatten_nil, List.nil_append, readJoins, hkind]
    rfl
  | cons j joins ih =>
    obtain ⟨most, rfl⟩ : ∃ n, most = n + 1 := ⟨most - 1, by omega⟩
    have hothers := ih (fun k hk => h k (List.mem_cons_of_mem _ hk)) (Nat.lt_of_succ_lt_succ hmost)
    have hcondition := (h j List.mem_cons_self).readWholeTerm_tokens (stops_joins joins hrest)
    have hkind : ∀ ts, readJoinKind (j.kind.tokens ++ ts) = .ok (some j.kind, ts) := by
      intro ts
      cases j.kind <;> rfl
    have htokens : ((j :: joins).map Join.tokens).flatten ++ rest =
        j.kind.tokens ++ .quoted j.table :: Keyword.token .on ::
        (j.condition.tokens ++ ((joins.map Join.tokens).flatten ++ rest)) := by
      simp [Join.tokens]
    rw [htokens, readJoins, hkind]
    simp only [bind, Except.bind, readName, Token.name?, expectWord, Keyword.token, if_true, hcondition, hothers]
    rfl

theorem readSource_tokens {s : Source} (h : s.IsEmitted) (hrest : Follows Keyword.afterSource rest) :
    readSource (.quoted s.table :: ((s.joins.map Join.tokens).flatten ++ rest)) = .ok (s.grouped, rest) := by
  have hlength : s.joins.length ≤ ((s.joins.map Join.tokens).flatten ++ rest).length := by
    have hjoin : ∀ joins : List Join, joins.length ≤ ((joins.map Join.tokens).flatten).length := by
      intro joins
      induction joins with
      | nil => simp
      | cons j joins ih => simp [Join.tokens] at ih ⊢; omega
    have hle := hjoin s.joins
    rw [List.length_append]
    omega
  have hjoins := readJoins_tokens h hrest (Nat.lt_succ_of_le hlength)
  simp only [readSource, readName, Token.name?, bind, Except.bind, hjoins]
  rfl

/-! ## Conditions, orders and pages -/

theorem conditionTokens_cases (condition : Option Term) :
    conditionTokens condition = [] ∨ ∃ ts, conditionTokens condition = [Keyword.token .where :: ts] := by
  cases condition with
  | none => exact .inl rfl
  | some t => exact .inr ⟨_, rfl⟩

theorem orderTokens_cases (keys : List SortKey) : orderTokens keys = [] ∨
    ∃ ts, orderTokens keys = [Keyword.token .order :: ts] := by
  unfold orderTokens
  split
  · exact .inl rfl
  · exact .inr ⟨_, rfl⟩

theorem pageTokens_cases (k : Keyword) (n : Option Int) : pageTokens k n = [] ∨
    ∃ ts, pageTokens k n = [k.token :: ts] := by
  cases n with
  | none => exact .inl rfl
  | some n => exact .inr ⟨_, rfl⟩

/-- A condition is read if it is there. -/
theorem readAfter_condition {condition : Option Term} (h : ∀ t ∈ condition, t.IsEmitted) {ks : List Keyword}
    (hks : .where ∉ ks) (hoperates : ∀ k ∈ ks, k.operates = false) (hrest : Follows ks rest) :
    readAfter .where readWholeTerm ((conditionTokens condition).flatten ++ rest) =
      .ok (condition.map Term.grouped, rest) := by
  cases condition with
  | none => exact hrest.readAfter_eq_none hks _
  | some t =>
    have hread := (h t rfl).readWholeTerm_tokens (hrest.stops hoperates)
    simpa [conditionTokens] using readAfter_token (k := .where) hread

/-- The keywords of the clauses after an order. -/
def Keyword.afterOrder : List Keyword := [.limit, .offset]

theorem readSortKey_tokens {k : SortKey} (hk : k.term.IsEmitted)
    (hnext : Follows Keyword.afterOrder next ∨ ∃ ts, next = .symbol .comma :: ts) :
    readSortKey (k.tokens ++ next) = .ok (.ofTerm k.term.grouped k.descending, next) := by
  have hstops : ∀ level, Stops level next := by
    intro level
    rcases hnext with h | ⟨ts, rfl⟩
    · exact h.stops (by decide) level
    · exact .comma ts
  cases hdescending : k.descending with
  | true =>
    have hdesc : ∀ level, Stops level (Keyword.token .desc :: next) := fun _ => .keyword _ _ rfl
    have hread := hk.readWholeTerm_tokens hdesc
    simp only [SortKey.tokens, hdescending, if_true, List.append_assoc, List.singleton_append, readSortKey, hread]
    rfl
  | false =>
    have hread := hk.readWholeTerm_tokens hstops
    simp only [SortKey.tokens, hdescending, Bool.false_eq_true, if_false, List.append_nil, readSortKey, hread,
      bind, Except.bind]
    rcases hnext with h | ⟨ts, rfl⟩
    · cases h with
      | nil => rfl
      | close ts => rfl
      | @keyword j hj ts =>
        simp only [Keyword.afterOrder, List.mem_cons, List.not_mem_nil, or_false] at hj
        rcases hj with rfl | rfl <;> rfl
    · rfl

/-- An order is read if there are keys. -/
theorem readAfter_order {keys : List SortKey} (h : ∀ k ∈ keys, k.term.IsEmitted)
    (hrest : Follows Keyword.afterOrder rest) :
    ∃ order, readAfter .order readOrder ((orderTokens keys).flatten ++ rest) = .ok (order, rest) ∧
      order.getD [] = keys.map fun k => .ofTerm k.term.grouped k.descending := by
  cases keys with
  | nil => exact ⟨none, hrest.readAfter_eq_none (by decide) _, rfl⟩
  | cons k keys =>
    have hcomma : ∀ ts, rest ≠ .symbol .comma :: ts := by
      rintro ts rfl
      cases hrest
    have hlength := length_le_commaTokens ((k :: keys).map SortKey.tokens)
    have hkey : ∀ j ∈ k :: keys, ∀ next, next = rest ∨ (∃ ts, next = .symbol .comma :: ts) →
        ∃ i, readSortKey (j.tokens ++ next) = .ok (i, next) ∧ SortKey.ofTerm j.term.grouped j.descending = i := by
      intro j hj next hnext
      refine ⟨_, readSortKey_tokens (h j hj) (hnext.imp_left ?_), rfl⟩
      rintro rfl
      exact hrest
    have hmost : (k :: keys).length ≤
        (Keyword.token .by :: (commaTokens ((k :: keys).map SortKey.tokens) ++ rest)).length + 1 := by
      simp only [List.length_map, List.length_cons, List.length_append] at hlength ⊢
      omega
    obtain ⟨order, horder, hall⟩ := readCommas_each (R := fun k j => SortKey.ofTerm k.term.grouped k.descending = j)
      (List.cons_ne_nil k keys) hcomma hkey hmost
    have hkeys : (k :: keys).map (fun k => SortKey.ofTerm k.term.grouped k.descending) = order := by
      rw [← List.forall₂_eq_eq_eq, List.forall₂_map_left_iff]
      exact hall
    have hread : readOrder (Keyword.token .by :: (commaTokens ((k :: keys).map SortKey.tokens) ++ rest)) =
        .ok (order, rest) := by
      simp only [readOrder, expectWord, Keyword.token, if_true, bind, Except.bind]
      exact horder
    refine ⟨some order, ?_, hkeys.symm⟩
    simpa [orderTokens] using readAfter_token (k := .order) hread

/-- An integer of 64 bits is read off its tokens. -/
theorem readInteger_tokens {n : Int} (h : fitsInt64 n = true) (rest : List Token) :
    readInteger (integerTokens n ++ rest) = .ok (n, rest) := by
  simp only [fitsInt64, Bool.and_eq_true, decide_eq_true_eq] at h
  have hinteger : (Int64.ofInt n).toInt = n := Int64.toInt_ofInt_of_le (by omega) (by omega)
  have hread := readConstant_numberTokens (n < 0) (Nat.toDigits 10 n.natAbs) rest
  have hvalue := numberValue_toDigits (Int64.ofInt n)
  rw [hinteger] at hvalue
  rw [hvalue] at hread
  simp only [readInteger, integerTokens, hread, bind, Except.bind, hinteger]
  rfl

/-- A limit or an offset is read if it is there. -/
theorem readAfter_page (k : Keyword) {n : Option Int} (h : ∀ m ∈ n, fitsInt64 m = true)
    {ks : List Keyword} (hk : k ∉ ks) (hrest : Follows ks rest) :
    readAfter k readInteger ((pageTokens k n).flatten ++ rest) = .ok (n, rest) := by
  cases n with
  | none => exact hrest.readAfter_eq_none hk _
  | some n => simpa [pageTokens] using readAfter_token (k := k) (readInteger_tokens (h n rfl) rest)

/-- A page is read: a limit if it is there, and after a limit an offset. -/
theorem readAfter_pages {limit offset : Option Int} (h : IsPage limit offset) (hrest : Follows [] rest) :
    readAfter .limit readInteger ((pageTokens .limit limit).flatten ++ ((pageTokens .offset offset).flatten ++ rest)) =
        .ok (limit, (pageTokens .offset offset).flatten ++ rest) ∧
      (if limit.isSome then readAfter .offset readInteger ((pageTokens .offset offset).flatten ++ rest)
        else .ok (none, (pageTokens .offset offset).flatten ++ rest)) = .ok (offset, rest) := by
  refine ⟨readAfter_page .limit h.limit (by decide) (hrest.clause (pageTokens_cases .offset offset)), ?_⟩
  cases limit with
  | none =>
    have hnone : offset = none := by
      by_contra hsome
      cases h.limited (Option.isSome_iff_ne_none.2 hsome)
    subst hnone
    rfl
  | some n => exact readAfter_page .offset h.offset (by decide) hrest

/-! ## Queries -/

/-- A query that is read of another: with its terms grouped, and titled by parts of the text. -/
structure Select.IsReadOf (spelling : Spelling) (q q' : Select) : Prop where
  untitled : q'.untitled = q.grouped.untitled
  titles : ∀ c ∈ q'.columns, ∀ t title, c = .term t (some title) → ∃ first last, title = spelling first last

/-- Columns that are read one by one are those of the query. -/
theorem Select.isReadOf_columns {spelling : Spelling} {q : Select} {terms : List Term} {cs : List ResultColumn}
    (hcolumns : q.columns = terms.map fun t => .term t none)
    (h : List.Forall₂ (fun t c => ResultColumn.IsReadOf spelling t c) terms cs) :
    Select.IsReadOf spelling q { q.grouped with columns := cs } := by
  have heach : cs.map ResultColumn.untitled = (q.columns.map ResultColumn.grouped).map ResultColumn.untitled := by
    rw [hcolumns]
    clear hcolumns
    induction h with
    | nil => rfl
    | cons first _ ih =>
      obtain ⟨title, rfl, -⟩ := first
      simp only [List.map_cons, ih]
      rfl
  refine ⟨by simp only [Select.untitled, Select.grouped, heach], fun c hc t title he => ?_⟩
  obtain ⟨u, -, other, rfl, htitle⟩ := exists_of_forall₂ h hc
  exact htitle title (ResultColumn.term.inj he).2

/-- The columns of a query, up to its source. -/
theorem readColumns_tokens (spelling : Spelling) {terms : List Term} (hne : terms ≠ []) (h : ∀ t ∈ terms, t.IsEmitted)
    {ts : List Token} (hrest : rest = Keyword.token .from :: ts) {most : Nat} (hmost : terms.length ≤ most) :
    ∃ cs, readCommas (readResultColumn spelling) most (commaTokens (terms.map Term.tokens) ++ rest) = .ok (cs, rest) ∧
      List.Forall₂ (fun t c => ResultColumn.IsReadOf spelling t c) terms cs := by
  refine readCommas_each hne ?_ ?_ hmost
  · rintro us rfl
    cases hrest
  · intro t ht next hnext
    refine readResultColumn_tokens spelling (h t ht) ?_
    rcases hnext with rfl | hcomma
    · exact .inr ⟨ts, hrest⟩
    · exact .inl hcomma

/-- Tokens with commas between them begin with the first. -/
theorem exists_commaTokens_append (ts : List Token) (tss : List (List Token)) (us : List Token) :
    ∃ next, commaTokens (ts :: tss) ++ us = ts ++ next := by
  cases tss with
  | nil => exact ⟨us, rfl⟩
  | cons vs tss => exact ⟨_, List.append_assoc ..⟩

/-- Tokens that begin as a term are read as after the keyword that keeps all rows. -/
theorem readSelect_leading (spelling : Spelling) {u : Token} (hu : u.leads = true) (us : List Token) :
    readSelect spelling (u :: us) = readSelect spelling (Keyword.token .all :: u :: us) := by
  cases u with
  | keyword k spelled => cases k <;> first | rfl | cases hu
  | _ => rfl

/-- A query is read when its clauses are, one after the other. -/
theorem readSelect_clauses (spelling : Spelling) (distinct : Bool)
    {all afterColumns afterSource afterCondition afterOrder afterLimit : List Token} {columns : List ResultColumn}
    {source : Option Source} {condition : Option Term} {order : Option (List SortKey)} {limit offset : Option Int}
    (hcolumns : readCommas (readResultColumn spelling) (all.length + 1) all = .ok (columns, afterColumns))
    (hsource : readAfter .from readSource afterColumns = .ok (source, afterSource))
    (hcondition : readAfter .where readWholeTerm afterSource = .ok (condition, afterCondition))
    (horder : readAfter .order readOrder afterCondition = .ok (order, afterOrder))
    (hlimit : readAfter .limit readInteger afterOrder = .ok (limit, afterLimit))
    (hoffset : (if limit.isSome then readAfter .offset readInteger afterLimit else .ok (none, afterLimit)) =
      .ok (offset, rest))
    (hends : goesOn rest = false) :
    readSelect spelling (Keyword.token (if distinct then .distinct else .all) :: all) =
      .ok ({ distinct, columns, source, condition, order := order.getD [], limit, offset }, rest) := by
  unfold readSelect
  cases limit with
  | none =>
    obtain ⟨rfl, rfl⟩ : none = offset ∧ afterLimit = rest := by simpa using hoffset
    cases distinct <;> simp [Keyword.token, hcolumns, hsource, hcondition, horder, hlimit, hends, bind, Except.bind,
      pure, Except.pure]
  | some n =>
    have hread : readAfter .offset readInteger afterLimit = .ok (offset, rest) := hoffset
    cases distinct <;>
      simp [Keyword.token, hcolumns, hsource, hcondition, horder, hlimit, hread, hends, bind, Except.bind,
      pure, Except.pure]

/-- A query is read after its first keyword, up to its end or the parenthesis that closes it. -/
theorem readSelect_tokens (spelling : Spelling) {q : Select} (h : q.IsEmitted) (hpage : IsPage q.limit q.offset)
    (hrest : Follows [] rest) :
    ∃ ts q', q.clauseTokens.flatten ++ rest = Keyword.token .select :: ts ∧
      (∀ name us, ts ≠ .word name :: .symbol .open :: .symbol .star :: us) ∧
      readSelect spelling ts = .ok (q', rest) ∧ q.IsReadOf spelling q' := by
  obtain ⟨terms, hne, hterms, hcolumns⟩ := h.columns
  obtain ⟨s, hs, hsource⟩ := h.source
  -- What follows each clause, from the last one back.
  have hlimit : Follows Keyword.afterOrder
      ((pageTokens .limit q.limit).flatten ++ ((pageTokens .offset q.offset).flatten ++ rest)) :=
    (hrest.clause (pageTokens_cases .offset q.offset)).clause (pageTokens_cases .limit q.limit)
  obtain ⟨hreadLimit, hreadOffset⟩ := readAfter_pages hpage hrest
  generalize hafterOrder :
    (pageTokens .limit q.limit).flatten ++ ((pageTokens .offset q.offset).flatten ++ rest) = afterOrder
    at hlimit hreadLimit
  have horder := hlimit.clause (orderTokens_cases q.order)
  obtain ⟨order, hreadOrder, hkeys⟩ := readAfter_order h.order hlimit
  generalize hafterCondition : (orderTokens q.order).flatten ++ afterOrder = afterCondition at horder hreadOrder
  have hcondition : Follows Keyword.afterSource ((conditionTokens q.condition).flatten ++ afterCondition) :=
    horder.clause (conditionTokens_cases q.condition)
  have hreadCondition := readAfter_condition h.condition (by decide) (by decide) horder
  generalize hafterSource :
    (conditionTokens q.condition).flatten ++ afterCondition = afterSource at hcondition hreadCondition
  have hreadSource := readAfter_token (k := .from) (readSource_tokens hsource hcondition)
  generalize hafterColumns :
    Keyword.token .from :: .quoted s.table :: ((s.joins.map Join.tokens).flatten ++ afterSource) =
    afterColumns at hreadSource
  have hlength := length_le_commaTokens (terms.map Term.tokens)
  generalize hall : commaTokens (terms.map Term.tokens) ++ afterColumns = all
  have hmost : terms.length ≤ all.length + 1 := by
    rw [← hall, List.length_append]
    simp only [List.length_map] at hlength
    omega
  obtain ⟨cs, hreadColumns, heach⟩ := readColumns_tokens spelling hne hterms hafterColumns.symm hmost
  rw [hall] at hreadColumns
  obtain ⟨t, others, rfl⟩ := List.exists_cons_of_ne_nil hne
  have ht := hterms t List.mem_cons_self
  obtain ⟨next, hnext⟩ := exists_commaTokens_append t.tokens (others.map Term.tokens) afterColumns
  rw [← List.map_cons, hall] at hnext
  have htokens : q.clauseTokens.flatten ++ rest =
      Keyword.token .select :: ((if q.distinct then [Keyword.token .distinct] else []) ++ all) := by
    have hcolumnTokens : q.columns.map ResultColumn.tokens = (t :: others).map Term.tokens := by
      rw [hcolumns, List.map_map]
      rfl
    simp [Select.clauseTokens, Select.headTokens, Source.clauseTokens, hs, hcolumnTokens, ← hall, ← hafterColumns,
      ← hafterSource, ← hafterCondition, ← hafterOrder]
  have hends : goesOn rest = false := by
    cases hrest with
    | nil => rfl
    | close ts => cases ts <;> rfl
    | keyword hk ts => cases hk
  have hread := readSelect_clauses spelling q.distinct hreadColumns hreadSource hreadCondition hreadOrder hreadLimit
    hreadOffset hends
  refine ⟨_, { q.grouped with columns := cs }, htokens, ?_, ?_, Select.isReadOf_columns hcolumns heach⟩
  · intro name us he
    cases hd : q.distinct with
    | true =>
      rw [hd] at he
      cases (List.cons.inj he).1
    | false =>
      rw [hd, if_neg Bool.false_ne_true, List.nil_append, hnext] at he
      exact ht.ne_call_star next name us he
  · have hfirst : readSelect spelling ((if q.distinct then [Keyword.token .distinct] else []) ++ all) =
        readSelect spelling (Keyword.token (if q.distinct then .distinct else .all) :: all) := by
      cases hd : q.distinct with
      | true => rfl
      | false =>
        obtain ⟨u, us, htokens, hleads⟩ := ht.exists_leading
        have hleading : all = u :: (us ++ next) := by rw [hnext, htokens, List.cons_append]
        simp only [Bool.false_eq_true, if_false, List.nil_append]
        rw [hleading, readSelect_leading spelling hleads]
    rw [hfirst, hread, hkeys]
    simp [Select.grouped, hs]

/-! ## Statements -/

/-- A statement that is read of another: with its terms grouped, and titled by parts of the text. -/
inductive Statement.IsReadOf (spelling : Spelling) : Statement → Statement → Prop where
  | select {q q' : Select} (h : q.IsReadOf spelling q') : IsReadOf spelling (.select q) (.select q')
  | countOf {q q' : Select} (h : q.IsReadOf spelling q') : IsReadOf spelling (.countOf q) (.countOf q')
  | countRows (s : Source) (condition : Option Term) :
    IsReadOf spelling (.countRows s condition) (.countRows s.grouped (condition.map Term.grouped))
  | delete (table : String) (condition : Option Term) :
    IsReadOf spelling (.delete table condition) (.delete table (condition.map Term.grouped))

theorem Statement.IsReadOf.untitled {spelling : Spelling} {s s' : Statement} (h : s.IsReadOf spelling s') :
    s'.untitled = s.grouped.untitled := by
  cases h with
  | select h => exact congrArg Statement.select h.untitled
  | countOf h => exact congrArg Statement.countOf h.untitled
  | countRows s condition => rfl
  | delete table condition => rfl

/-- A statement is read off its tokens, all of which it takes. -/
theorem ofTokens_tokens (spelling : Spelling) {s : Statement} (h : s.IsEmitted) (hpaged : s.IsPaged) {ts : List Token}
    (hts : s.tokens? = some ts) : ∃ s', Statement.ofTokens spelling ts = .ok s' ∧ s.IsReadOf spelling s' := by
  have hofRead : ∀ {s'}, readStatement spelling ts = .ok (s', []) → Statement.ofTokens spelling ts = .ok s' := by
    intro s' hread
    rw [Statement.ofTokens, hread]
    rfl
  cases h with
  | @select q h =>
    obtain rfl := Option.some.inj hts
    cases hpaged with
    | select hpage =>
      obtain ⟨us, q', htokens, hcount, hread, hof⟩ := readSelect_tokens spelling h hpage .nil
      rw [List.append_nil] at htokens
      refine ⟨_, hofRead ?_, .select hof⟩
      rw [htokens]
      simp only [readStatement, Keyword.token, hread]
      rfl
  | @countOf q h =>
    obtain rfl := Option.some.inj hts
    cases hpaged with
    | countOf hpage =>
      obtain ⟨us, q', htokens, -, hread, hof⟩ := readSelect_tokens spelling h hpage (.close [])
      have hparen : parenTokens q.clauseTokens.flatten = .symbol .open :: Keyword.token .select :: us := by
        rw [parenTokens, List.cons_append, htokens]
      refine ⟨_, hofRead ?_, .countOf hof⟩
      have hword : sameWord "count" "count" = true := by decide
      rw [hparen]
      simp only [readStatement, countTokens, Keyword.token, List.cons_append, List.nil_append, expect, expectWord,
        hword, readCount, hread, bind, Except.bind, pure, Except.pure, if_true]
  | @countRows s condition hs hc =>
    obtain rfl := Option.some.inj hts
    refine ⟨_, hofRead ?_, .countRows _ _⟩
    have hword : sameWord "count" "count" = true := by decide
    have hnil : Follows [] ([] : List Token) := .nil
    have hcondition : Follows Keyword.afterSource ((conditionTokens condition).flatten ++ []) :=
      Follows.clause (conditionTokens_cases condition) .nil
    have hreadSource := readSource_tokens hs hcondition
    have hreadCondition := readAfter_condition hc (by decide) (by decide) hnil
    have htokens : ([countTokens] ++ s.clauseTokens ++ conditionTokens condition).flatten =
        countTokens ++ Keyword.token .from :: .quoted s.table ::
          ((s.joins.map Join.tokens).flatten ++ ((conditionTokens condition).flatten ++ [])) := by
      simp [Source.clauseTokens]
    rw [htokens]
    simp only [readStatement, countTokens, Keyword.token, List.cons_append, List.nil_append, hword, if_true,
      expect, expectWord, readCount, hreadSource, hreadCondition, bind, Except.bind]
    rfl
  | @delete table t h =>
    obtain rfl := Option.some.inj hts
    refine ⟨_, hofRead ?_, .delete _ _⟩
    have hend : ∀ level, Stops level [] := fun _ => .nil
    have hread := readAfter_token (k := .where) (h.readWholeTerm_tokens hend)
    rw [List.append_nil] at hread
    have htokens : ([[Keyword.token .delete, Keyword.token .from, .quoted table]] ++ conditionTokens (some t)).flatten =
        Keyword.token .delete :: Keyword.token .from :: .quoted table :: Keyword.token .where :: t.tokens := by
      simp [conditionTokens]
    rw [htokens]
    simp only [Keyword.token] at hread
    simp only [readStatement, readDelete, Keyword.token, expectWord, if_true, readName, Token.name?, bind,
      Except.bind, hread]
    rfl

/-! ## Texts -/

theorem Select.IsReadOf.isSendable_clauses {spelling : Spelling} {q q' : Select} (h : q.IsReadOf spelling q')
    (hq : q.IsEmitted) (hspelling : ∀ first last, isSendable (spelling first last) = true)
    (hsend : q.clauses.all isSendable = true) :
    q'.clauses.all isSendable = true := by
  refine Select.isSendable_titled ?_ ?_
  · rw [h.untitled, hq.isSendable_grouped, hsend]
  · intro c hc t title he
    obtain ⟨first, last, rfl⟩ := h.titles c hc t title he
    exact hspelling first last

/-- A statement that is read of a text without null characters has none in its own text. -/
theorem Statement.IsReadOf.isSendable_text {spelling : Spelling} {s s' : Statement} (h : s.IsReadOf spelling s')
    (hs : s.IsEmitted) (hspelling : ∀ first last, isSendable (spelling first last) = true)
    (hsend : isSendable s.text = true) :
    isSendable s'.text = true := by
  cases h with
  | select h =>
    cases hs with
    | select hq =>
      unfold Statement.text at hsend ⊢
      simp only [isSendable_lines] at hsend ⊢
      exact h.isSendable_clauses hq hspelling hsend
  | countOf h =>
    cases hs with
    | countOf hq =>
      unfold Statement.text at hsend ⊢
      simp only [isSendable_lines, List.all_append, Bool.and_eq_true] at hsend ⊢
      exact ⟨⟨hsend.1.1, h.isSendable_clauses hq hspelling hsend.1.2⟩, hsend.2⟩
  | countRows s condition =>
    cases hs with
    | countRows hs hc =>
      unfold Statement.text at hsend ⊢
      simp only [isSendable_lines, List.all_append, Bool.and_eq_true] at hsend ⊢
      rw [hs.isSendable_grouped, isSendable_groupedCondition hc]
      exact hsend
  | delete table condition =>
    cases hs with
    | delete table ht =>
      unfold Statement.text at hsend ⊢
      simp only [isSendable_lines, List.all_append, Bool.and_eq_true] at hsend ⊢
      rw [isSendable_groupedCondition (fun t he => Option.some.inj he ▸ ht)]
      exact hsend

/-- The text of an emitted statement is read as that statement grouped, but for the titles of its columns. -/
theorem Statement.IsEmitted.readBatch_text {s : Statement} (h : s.IsEmitted) (hpaged : s.IsPaged)
    (htokens : s.tokens? = some (tokensFrom s.text.toList)) (hsend : isSendable s.text = true) :
    ∃ s', readBatch s.text = [.ok s'] ∧ s'.untitled = s.grouped.untitled ∧ isSendable s'.text = true := by
  have hnull : ∀ c ∈ s.text.toList, (c.toNat != 0) = true := List.all_eq_true.1 hsend
  have hsent : sentChars s.text = s.text.toList := by
    rw [sentChars, ← List.append_nil s.text.toList, List.takeWhile_append_of_pos hnull]
    rfl
  have hspelling : ∀ first last,
      isSendable (Spelling.ofStarts ((placedTokens s.text.toList).map Prod.snd) [] first last) = true := by
    intro first last
    refine List.all_eq_true.2 fun c hc => hnull c (mem_of_mem_spelling ?_ List.nil_suffix first last hc)
    intro start hstart
    obtain ⟨p, hp, rfl⟩ := List.mem_map.1 hstart
    exact suffix_of_mem_placedTokens hp
  obtain ⟨s', hread, hof⟩ :=
    ofTokens_tokens (Spelling.ofStarts ((placedTokens s.text.toList).map Prod.snd) []) h hpaged htokens
  refine ⟨s', ?_, hof.untitled, hof.isSendable_text h hspelling hsend⟩
  have hopen := segments_open (s.semicolon_notMem htokens)
  have hne : placedTokens s.text.toList ≠ [] := by
    intro hnil
    rw [tokensFrom, hnil] at hread
    cases hread
  rw [readBatch, hsent, hopen]
  simp [hne, Segment.statement, tokensFrom] at hread ⊢
  rw [hread]

end Sql

/-- The text that a chain is rendered to is read as its statement grouped, but for the titles of its columns. -/
theorem Clause.readBatch_text {k : Clause} {r : Rendering} {p : Purpose} {b : Bound Sql.Statement}
    (h : k.statement? r p = some (.ok b)) (hpaged : k.IsPaged) (hsend : isSendable b.sql.text = true) :
    ∃ s', Sql.readBatch b.sql.text = [.ok s'] ∧ s'.untitled = b.sql.grouped.untitled ∧ isSendable s'.text = true := by
  obtain ⟨hemitted, hpage⟩ := Clause.statement?_emitted h
  exact hemitted.readBatch_text (hpage hpaged) (Clause.statement?_tokens h) hsend

end SqlMapper
