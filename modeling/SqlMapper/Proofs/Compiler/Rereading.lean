import SqlMapper.Proofs.Compiler.Emitted

/-!
# Emitted terms read back

The text of an emitted term falls into the tokens of the term, and reading them gives `Emitted.read`, whatever the
term. The reading is by induction on the term, for the part of it that a `NOT` in front leaves
(`Emitted.ReadsBack`): with the `NOT`, what is read depends on the operator that comes next
(`ReadsBack.followedBy`).
-/

namespace SqlMapper

namespace Emitted

open Sql (Term Token WritableConstant Keyword Lexed Reads ReadsOperand Extends Stops NoDot parenTokens
  commaTokens tokensFrom
  wordToken)

/-! ## Text -/

/-- The text of a term is read as its tokens. -/
def IsLexed (t : Term) : Prop := Lexed t.text.toList t.tokens

theorem IsLexed.paren {t : Term} (h : IsLexed t) : IsLexed (.paren t) := by
  have hlexed := Lexed.paren h
  simpa [IsLexed, Term.text, Term.tokens] using hlexed

theorem IsLexed.binary {l r : Term} (op : Sql.BinaryOp) (hl : IsLexed l) (hr : IsLexed r) :
    IsLexed (.binary op l r) := by
  have hlexed := (Lexed.space hl (.operator op)).space hr
  simpa [IsLexed, Term.text, Term.tokens] using hlexed

/-- Literal texts and nulls are read as their tokens. -/
theorem isLexed_string (s : String) : IsLexed (.string s) := Lexed.string s

theorem isLexed_null : IsLexed .null := Lexed.constant (c := .literal .null) rfl

/-- The text of an emitted term is read as its tokens. -/
theorem isLexed_written (m : Emitted) : IsLexed m.written := by
  induction m with
  | constant c => exact Lexed.constant c.2
  | column table name => exact Lexed.column table name
  | not x ih =>
    have hlexed := Lexed.call ih (rfl : Sql.isPlainWord "NOT" = true)
    have hword : wordToken "NOT" = Keyword.token .not := rfl
    simpa [IsLexed, written, Term.text, Term.tokens, hword] using hlexed
  | binary op l r ihl ihr => exact (ihl.binary op ihr).paren
  | member item set ih =>
    have hset : ∀ c ∈ set.map (·.1), c.Writable := by
      intro c hc
      obtain ⟨d, -, rfl⟩ := List.mem_map.1 hc
      exact d.2
    have hin : Lexed "IN".toList [Keyword.token .in] := .keyword .in
    have hlexed : IsLexed (.member item.written (set.map (·.1))) := by
      have hparts := (Lexed.space ih hin).space (.set hset)
      simpa [IsLexed, Term.text, Term.tokens] using hparts
    exact hlexed.paren
  | apply f x ih =>
    have hplain : Sql.isPlainWord f.text = true := by cases f <;> rfl
    have hword : wordToken f.text = .word f.text := by cases f <;> rfl
    have hlexed := Lexed.call ih hplain
    simpa [IsLexed, written, Term.text, Term.tokens, hword] using hlexed
  | replace x old new ihx ihold ihnew =>
    have hlexed := Lexed.call ((Lexed.comma ihx ihold).comma ihnew) (rfl : Sql.isPlainWord "replace" = true)
    have hword : wordToken "replace" = .word "replace" := rfl
    simpa [IsLexed, written, Term.text, Term.tokens, hword] using hlexed
  | contains x needle ihx ihneedle =>
    have hpattern := (((isLexed_string "%").binary .concat ihneedle).binary .concat (isLexed_string "%")).paren
    exact (ihx.binary .like hpattern).paren
  | nullOrEmpty x ih => exact ((ih.binary .is isLexed_null).binary .or (ih.binary .eq (isLexed_string ""))).paren

/-- The text of an emitted term falls into its tokens. -/
theorem tokensFrom_written (m : Emitted) : tokensFrom m.written.text.toList = m.written.tokens :=
  (isLexed_written m).tokensFrom_eq

/-! ## Tokens -/

/-- The tokens of a term apart from a `NOT` in front. -/
def coreTokens : Emitted → List Token
  | .not x => parenTokens x.written.tokens
  | m => m.written.tokens

/-- A negation begins with `NOT`, in front of what binds like an operand. -/
theorem tokens_of_isNot {m : Emitted} (h : m.isNot = true) : m.written.tokens = Keyword.token .not :: m.coreTokens := by
  cases m with
  | not x => rfl
  | _ => cases h

theorem tokens_of_isNot_eq_false {m : Emitted} (h : m.isNot = false) : m.written.tokens = m.coreTokens := by
  cases m with
  | not x => cases h
  | _ => rfl

/-- No `NOT` is in front of the rest of a term. -/
theorem coreTokens_ne (m : Emitted) (rest : List Token) : ∀ s ts, m.coreTokens ++ rest ≠ .keyword .not s :: ts := by
  intro s ts
  cases m with
  | constant c =>
    obtain ⟨t, us, ht, -, hnot⟩ := c.1.exists_tokens_cons
    have hcore : coreTokens (.constant c) = t :: us := ht
    rw [hcore, List.cons_append]
    intro he
    exact hnot s (List.cons.inj he).1
  | column table name => cases table <;> simp [coreTokens, written, Term.tokens, Sql.columnTokens]
  | _ => simp [coreTokens, written, Term.tokens, parenTokens]

/-! ## Reading -/

/-- The term apart from a `NOT` in front is read off its tokens, whatever comes next. -/
def ReadsBack (m : Emitted) : Prop := ∀ rest, NoDot rest → ReadsOperand (m.coreTokens ++ rest) m.core rest

namespace ReadsBack

variable {m l r : Emitted} {level bound : Nat} {make : Term → Term} {t : Term} {ts rest rest' : List Token}

/-- Reading a term and the operator that comes next, which is looked at no further than that it makes one term of
another. -/
theorem followedBy (hm : m.ReadsBack) (hdot : NoDot ts) (hlevel : level ≤ bound)
    (hstep : ∀ lower ≤ bound, ∀ left t' rest', Extends lower (make left) rest t' rest' → Extends lower left ts t' rest')
    (hinside : Sql.notLevel < bound → Stops (Sql.notLevel + 1) rest)
    (houtside : ¬Sql.notLevel < bound → Stops (Sql.notLevel + 1) ts)
    (hnext : Extends level (m.read.followedBy bound make) rest t rest') :
    Reads level (m.written.tokens ++ ts) t rest' := by
  have hcore := hm ts hdot
  cases hnot : m.isNot with
  | true =>
    rw [tokens_of_isNot hnot, List.cons_append]
    by_cases hbound : Sql.notLevel < bound
    -- The operator is read before the reader is back from the operand of `NOT`.
    · rw [followedBy_of_isNot make hnot hbound] at hnext
      have hoperator := hstep (Sql.notLevel + 1) hbound m.core _ _ (.stop (hinside hbound))
      exact (hcore.extend hoperator).negation.extend hnext
    · rw [followedBy_of_not make (fun h => hbound h.2), read_of_isNot hnot] at hnext
      exact (hcore.stop (houtside hbound)).negation.extend (hstep level hlevel _ _ _ hnext)
  | false =>
    rw [followedBy_of_not make (by simp [hnot]), (read_of_isNot_eq_false hnot).1] at hnext
    rw [tokens_of_isNot_eq_false hnot]
    exact hcore.extend (hstep level hlevel _ _ _ hnext)

/-- Reading a term that no operator goes on with. -/
theorem alone (hm : m.ReadsBack) (hstop : Stops level rest) (hstop' : Stops (Sql.notLevel + 1) rest) :
    Reads level (m.written.tokens ++ rest) m.read rest := by
  have hcore := hm rest hstop.noDot
  cases hnot : m.isNot with
  | true =>
    rw [tokens_of_isNot hnot, read_of_isNot hnot]
    exact (hcore.stop hstop').negation.stop hstop
  | false =>
    rw [tokens_of_isNot_eq_false hnot, (read_of_isNot_eq_false hnot).1]
    exact hcore.stop hstop

/-- An operator and its right operand go on with a term. -/
theorem operator (hr : r.ReadsBack) (op : Sql.BinaryOp) (hlevel : level ≤ op.level) (hstop : Stops (op.level + 1) rest)
    (hstop' : Stops (Sql.notLevel + 1) rest) (left : Term)
    (hnext : Extends level (op.between r.read left) rest t rest') :
    Extends level left (op.tokens ++ (r.written.tokens ++ rest)) t rest' := by
  by_cases h : op = .is ∧ r.isNot = true
  · obtain ⟨rfl, hnot⟩ := h
    have htokens : Sql.BinaryOp.is.tokens ++ (r.written.tokens ++ rest) =
        Sql.BinaryOp.isNot.tokens ++ (r.coreTokens ++ rest) := by
      rw [tokens_of_isNot hnot]
      rfl
    rw [between_of_isNot left hnot] at hnext
    rw [htokens]
    exact .binary .isNot nofun hlevel ((hr rest hstop.noDot).stop hstop) hnext
  · have hhead : op = .is → ∀ s ts', r.written.tokens ++ rest ≠ .keyword .not s :: ts' := by
      intro hop
      have hnot : r.isNot = false := by simpa [hop] using h
      rw [tokens_of_isNot_eq_false hnot]
      exact coreTokens_ne r rest
    rw [between_of_not left h] at hnext
    exact .binary op hhead hlevel (hr.alone hstop hstop') hnext

/-- An operator between two terms, of any level up to its own, where what comes next stops terms. -/
theorem binary (hl : l.ReadsBack) (hr : r.ReadsBack) (op : Sql.BinaryOp) (hlevel : level ≤ op.level)
    (hstop : Stops (op.level + 1) rest) (hstop' : Stops (Sql.notLevel + 1) rest)
    (hnext : Extends level (l.read.followedBy op.level (op.between r.read)) rest t rest') :
    Reads level (l.written.tokens ++ (op.tokens ++ (r.written.tokens ++ rest))) t rest' := by
  refine hl.followedBy (op.noDot_tokens _) hlevel ?_ (fun _ => hstop') ?_ hnext
  · intro lower hlower left t' rest' h
    exact hr.operator op hlower hstop hstop' left h
  · intro hbound
    refine .looser op _ ?_ (by omega)
    rintro rfl
    exact hbound (by decide)

/-- A constant is read off its tokens. -/
theorem constant (c : WritableConstant) : ReadsBack (.constant c) := fun _ hrest => ReadsOperand.constant c.2 hrest

/-- A needle between two percent signs: a negation takes in the second sign. -/
theorem pattern (hm : m.ReadsBack) (rest : List Token) :
    ReadsOperand (parenTokens (((Term.string "%").binary .concat m.written).binary .concat (.string "%")).tokens ++
      rest) (.paren m.read.surrounded) rest := by
  have hclose : ∀ lower, Stops lower (.symbol .close :: rest) := fun _ => .close rest
  have hpercent := ReadsBack.constant (.text "%")
  have hlast : ∀ lower ≤ Sql.BinaryOp.concat.level, ∀ left,
      Extends lower left (Sql.BinaryOp.concat.tokens ++ ([.string "%"] ++ .symbol .close :: rest))
        (.binary .concat left (.string "%")) (.symbol .close :: rest) := by
    intro lower hlower left
    exact hpercent.operator .concat hlower (hclose _) (hclose _) left (.stop (hclose _))
  have hcore := hm (Sql.BinaryOp.concat.tokens ++ ([.string "%"] ++ .symbol .close :: rest))
    (Sql.BinaryOp.noDot_tokens _ _)
  have hfirst := hpercent
    (Sql.BinaryOp.concat.tokens ++
    (m.written.tokens ++ (Sql.BinaryOp.concat.tokens ++ ([.string "%"] ++ .symbol .close :: rest))))
    (Sql.BinaryOp.noDot_tokens _ _)
  have hinside : Reads 0
      ([.string "%"] ++ (Sql.BinaryOp.concat.tokens ++
        (m.written.tokens ++ (Sql.BinaryOp.concat.tokens ++ ([.string "%"] ++ .symbol .close :: rest)))))
      m.read.surrounded (.symbol .close :: rest) := by
    refine hfirst.extend ?_
    cases hnot : m.isNot with
    -- The second `||` is inside the negation, so the first has all that is left for its right operand.
    | true =>
      rw [read_of_isNot hnot, tokens_of_isNot hnot]
      have hneedle := (hcore.extend (hlast (Sql.notLevel + 1) (by decide) m.core)).negation.stop (hclose 9)
      exact .binary .concat nofun (Nat.zero_le _) hneedle (.stop (hclose 0))
    | false =>
      rw [surrounded_of_not hnot, tokens_of_isNot_eq_false hnot, (read_of_isNot_eq_false hnot).1]
      have hneedle := hcore.stop (.looser .concat _ nofun (by decide) : Stops 9 _)
      exact .binary .concat nofun (Nat.zero_le _) hneedle (hlast 0 (Nat.zero_le _) _)
  refine Reads.parens ?_
  simpa [Term.tokens, Sql.Constant.tokens, Sql.literalTokens, Term.string] using hinside

/-- A membership in its parentheses. -/
theorem member (hm : m.ReadsBack) (set : List WritableConstant) : ReadsBack (.member m set) := by
  intro rest _
  have hset : ∀ c ∈ set.map (·.1), c.Writable := by
    intro c hc
    obtain ⟨d, -, rfl⟩ := List.mem_map.1 hc
    exact d.2
  have hread := Sql.readSet_tokens hset (.symbol .close :: rest)
  have hinside : Reads 0
      (m.written.tokens ++ Keyword.token .in :: .symbol .open ::
        (commaTokens ((set.map (·.1)).map Sql.Constant.tokens) ++ .symbol .close :: .symbol .close :: rest))
      (m.read.followedBy Sql.memberLevel fun t => .member t ((set.map (·.1)).map Sql.Constant.reread))
      (.symbol .close :: rest) := by
    refine hm.followedBy nofun (Nat.zero_le _) ?_ (fun _ => .close rest) (fun h => absurd (by decide) h)
      (.stop (.close rest))
    intro lower hlower left t' rest' hnext
    exact .member hlower hread (by simp only [List.length_append, List.length_cons]; omega) hnext
  refine Reads.parens ?_
  simpa [Term.tokens, parenTokens, Function.comp_def] using hinside

/-- A search for a needle in its parentheses. -/
theorem contains (hl : l.ReadsBack) (hr : r.ReadsBack) : ReadsBack (.contains l r) := by
  intro rest _
  have hpattern := (hr.pattern (.symbol .close :: rest)).stop (.close rest : Stops (Sql.BinaryOp.like.level + 1) _)
  have hinside : Reads 0
      (l.written.tokens ++ (Sql.BinaryOp.like.tokens ++ (parenTokens
        (((Term.string "%").binary .concat r.written).binary .concat (.string "%")).tokens ++ .symbol .close :: rest)))
      (l.read.followedBy Sql.BinaryOp.like.level (Sql.BinaryOp.like.between (.paren r.read.surrounded)))
      (.symbol .close :: rest) := by
    refine hl.followedBy (Sql.BinaryOp.noDot_tokens _ _) (Nat.zero_le _) ?_ (fun _ => .close rest)
      (fun h => absurd (by decide) h) (.stop (.close rest))
    intro lower hlower left t' rest' hnext
    exact .binary .like nofun hlower hpattern hnext
  refine Reads.parens ?_
  simpa [Term.tokens, parenTokens] using hinside

/-- A test for null or the empty text in its parentheses: the two comparisons are read one after the other. -/
theorem nullOrEmpty (hm : m.ReadsBack) : ReadsBack (.nullOrEmpty m) := by
  intro rest _
  have hsecond := hm.binary (.constant (.text "")) .eq (by decide : Sql.BinaryOp.or.level + 1 ≤ _)
    (.close rest) (.close rest)
    (.stop (.close rest))
  have hor : ∀ lower ts, Sql.BinaryOp.or.level < lower → Stops lower (Sql.BinaryOp.or.tokens ++ ts) :=
    fun _ ts hlower => .looser .or ts nofun hlower
  have hinside := hm.binary (.constant .null) .is (Nat.zero_le _) (hor _ _ (by decide)) (hor _ _ (by decide))
    (.binary .or nofun (Nat.le_refl _) hsecond (.stop (.close rest)))
  refine Reads.parens ?_
  simpa [written, read, Sql.Constant.reread, Term.tokens, WritableConstant.text, WritableConstant.null, Term.string,
    Term.null] using hinside

end ReadsBack

/-- Every emitted term is read off its tokens. -/
theorem readsBack (m : Emitted) : m.ReadsBack := by
  induction m with
  | constant c => exact .constant c
  | column table name => exact fun _ hrest => .column table name hrest
  | not x ih => exact fun rest _ => (ih.alone (.close rest) (.close rest)).parens
  | binary op l r ihl ihr =>
    intro rest _
    have hinside := ihl.binary ihr op (Nat.zero_le _) (.close rest) (.close rest) (.stop (.close rest))
    refine Reads.parens ?_
    simpa [Term.tokens] using hinside
  | member item set ih => exact ih.member set
  | apply f x ih =>
    intro rest _
    have hname : Sql.applyNamed? f.text [x.read] = some (.apply f x.read) := by cases f <;> rfl
    have hcall := ((ih.alone (.close rest) (.close rest)).lastArg).call hname
    simpa [coreTokens, core, read, written, Term.tokens, parenTokens] using hcall
  | replace x old new ihx ihold ihnew =>
    intro rest _
    have hnew := (ihnew.alone (.close rest) (.close rest)).lastArg
    have hold := (ihold.alone (.comma _) (.comma _)).consArg hnew
    have hcall := ((ihx.alone (.comma _) (.comma _)).consArg hold).call
      (rfl : Sql.applyNamed? "replace" [x.read, old.read, new.read] = some (.replace x.read old.read new.read))
    simpa [coreTokens, core, read, written, Term.tokens, parenTokens] using hcall
  | contains x needle ihx ihneedle => exact ihx.contains ihneedle
  | nullOrEmpty x ih => exact ih.nullOrEmpty

/-- Reading the text of an emitted term. -/
theorem readWholeTerm_written (m : Emitted) :
    Sql.readWholeTerm (tokensFrom m.written.text.toList) = .ok (m.read, []) := by
  have h := m.readsBack.alone (.nil : Stops 0 []) .nil
  rw [List.append_nil] at h
  rw [tokensFrom_written, h.readWholeTerm_eq]

/-- What the text of an emitted term groups is what is read. -/
theorem grouped_written (m : Emitted) : m.written.grouped = m.read := by
  have hread := m.readWholeTerm_written
  rw [tokensFrom_written] at hread
  unfold Sql.Term.grouped
  rw [hread]

end Emitted

end SqlMapper
