import Mathlib.Data.List.Forall2
import SqlMapper.Sql.TermReader

/-!
# How terms are read

The reader without its fuel: that tokens are read as a term with some of them left over, given fuel for every token
that is taken. There is one rule for each production of the grammar, and it asks only how the parts are read; what
comes after a term matters through whether an operator goes on with it (`Stops`).
-/

namespace SqlMapper

namespace Sql

/-- An operand is read off the tokens. -/
structure ReadsOperand (ts : List Token) (t : Term) (rest : List Token) : Prop where
  length_lt : rest.length < ts.length
  read : ∀ fuel, 2 * ts.length ≤ fuel + 2 * rest.length → readOperand fuel ts = .ok (t, rest)

/-- A term of at least a level is read off the tokens. -/
structure Reads (level : Nat) (ts : List Token) (t : Term) (rest : List Token) : Prop where
  length_lt : rest.length < ts.length
  read : ∀ fuel, 2 * ts.length < fuel + 2 * rest.length → readTerm fuel level ts = .ok (t, rest)

/-- The operators after a term are read off the tokens. -/
structure Extends (level : Nat) (left : Term) (ts : List Token) (t : Term) (rest : List Token) : Prop where
  length_le : rest.length ≤ ts.length
  read : ∀ fuel, 2 * ts.length < fuel + 2 * rest.length → extendTerm fuel level left ts = .ok (t, rest)

/-- Arguments and the parenthesis after them are read off the tokens. -/
structure ReadsArgs (ts : List Token) (args : List Term) (rest : List Token) : Prop where
  length_lt : rest.length < ts.length
  read : ∀ fuel, 2 * ts.length < fuel + 2 * rest.length → readArgs fuel ts = .ok (args, rest)

/-- There is fuel enough for a whole term. -/
theorem Reads.readWholeTerm_eq {ts rest : List Token} {t : Term} (h : Reads 0 ts t rest) :
    readWholeTerm ts = .ok (t, rest) := by
  apply h.read
  omega

variable {level : Nat} {left t x : Term} {ts rest rest' : List Token}

/-! ## Operators -/

/-- Keywords that are operators, or begin one. -/
def Keyword.operates : Keyword → Bool
  | .in | .not | .is | .and | .or | .like => true
  | _ => false

/-- No operator of at least the level comes next. -/
inductive Stops (level : Nat) : List Token → Prop where
  | nil : Stops level []
  | close (ts : List Token) : Stops level (.symbol .close :: ts)
  | comma (ts : List Token) : Stops level (.symbol .comma :: ts)
  | keyword {k : Keyword} (spelling : String) (ts : List Token) (h : k.operates = false) :
    Stops level (.keyword k spelling :: ts)
  | looser (op : BinaryOp) (ts : List Token) (his : op ≠ .is) (hlevel : op.level < level) :
    Stops level (op.tokens ++ ts)

/-- An operator is read off its tokens; `IS` in front of a `NOT` is another one. -/
theorem readBinaryOp_tokens (op : BinaryOp) (h : op = .is → ∀ s ts', ts ≠ .keyword .not s :: ts') :
    readBinaryOp (op.tokens ++ ts) = some (op, ts) := by
  by_cases his : op = .is
  · subst his
    rw [BinaryOp.tokens, Keyword.token, List.singleton_append, readBinaryOp]
    exact h rfl
  · cases op <;> first | rfl | exact absurd rfl his

/-- Where an operator is read, the term goes on if the level allows it. -/
theorem extendTerm_operator {op : BinaryOp} {fuel : Nat} (h : readBinaryOp ts = some (op, rest)) :
    extendTerm (fuel + 1) level left ts =
      if level ≤ op.level then (do
        let (right, rest) ← readTerm fuel (op.level + 1) rest
        extendTerm fuel level (.binary op left right) rest)
      else .ok (left, ts) := by
  rw [extendTerm.eq_def]
  dsimp only
  split
  · cases h
  · cases h
  · rw [h]

/-- A term ends where no operator goes on with it. -/
theorem Extends.stop (h : Stops level ts) : Extends level left ts left ts where
  length_le := Nat.le_refl _
  read := by
    intro fuel hfuel
    obtain ⟨fuel, rfl⟩ : ∃ n, fuel = n + 1 := ⟨fuel - 1, by omega⟩
    cases h with
    | nil => rfl
    | close ts => rfl
    | comma ts => rfl
    | @keyword k spelling ts h => cases k <;> first | rfl | cases h
    | looser op ts his hlevel =>
      rw [extendTerm_operator (readBinaryOp_tokens op fun he => absurd he his), if_neg (Nat.not_le.2 hlevel)]

theorem BinaryOp.tokens_length_pos (op : BinaryOp) : 0 < op.tokens.length := by
  cases op <;> decide

/-- An operator takes the right operand that binds tighter, and the term goes on. -/
theorem Extends.binary {right : Term} (op : BinaryOp) (hop : op = .is → ∀ s ts', ts ≠ .keyword .not s :: ts')
    (hlevel : level ≤ op.level) (hright : Reads (op.level + 1) ts right rest)
    (hnext : Extends level (.binary op left right) rest t rest') : Extends level left (op.tokens ++ ts) t rest' := by
  have hpos := op.tokens_length_pos
  have hlt := hright.length_lt
  have hle := hnext.length_le
  refine ⟨by rw [List.length_append]; omega, ?_⟩
  intro fuel hfuel
  rw [List.length_append] at hfuel
  obtain ⟨fuel, rfl⟩ : ∃ n, fuel = n + 1 := ⟨fuel - 1, by omega⟩
  have hread := hright.read fuel (by omega)
  have hrest := hnext.read fuel (by omega)
  rw [extendTerm_operator (readBinaryOp_tokens op hop), if_pos hlevel, hread]
  exact hrest

/-- A membership takes the set, and the term goes on. -/
theorem Extends.member {set : List Constant} (hlevel : level ≤ memberLevel) (hset : readSet ts = .ok (set, rest))
    (hlt : rest.length < ts.length) (hnext : Extends level (.member left set) rest t rest') :
    Extends level left (Keyword.token .in :: .symbol .open :: ts) t rest' := by
  have hle := hnext.length_le
  refine ⟨by simp only [List.length_cons]; omega, ?_⟩
  intro fuel hfuel
  simp only [List.length_cons] at hfuel
  obtain ⟨fuel, rfl⟩ : ∃ n, fuel = n + 1 := ⟨fuel - 1, by omega⟩
  have hrest := hnext.read fuel (by omega)
  rw [Keyword.token, extendTerm, if_pos hlevel]
  simp only [expect, if_true, bind, Except.bind, hset]
  exact hrest

/-! ## Terms -/

/-- A term is an operand and the operators after it. -/
theorem ReadsOperand.extend (hleft : ReadsOperand ts left rest) (hnext : Extends level left rest t rest') :
    Reads level ts t rest' := by
  have hlt := hleft.length_lt
  have hle := hnext.length_le
  refine ⟨by omega, ?_⟩
  intro fuel hfuel
  obtain ⟨fuel, rfl⟩ : ∃ n, fuel = n + 1 := ⟨fuel - 1, by omega⟩
  have hread := hleft.read fuel (by omega)
  have hrest := hnext.read fuel (by omega)
  rw [readTerm, hread]
  exact hrest

/-- A term is an operand where no operator goes on with it. -/
theorem ReadsOperand.stop (hleft : ReadsOperand ts left rest) (h : Stops level rest) : Reads level ts left rest :=
  hleft.extend (.stop h)

/-- A negation reaches over every operator that binds tighter. -/
theorem Reads.negation (hx : Reads (notLevel + 1) ts x rest) :
    ReadsOperand (Keyword.token .not :: ts) (.not x) rest := by
  have hlt := hx.length_lt
  refine ⟨by simp only [List.length_cons]; omega, ?_⟩
  intro fuel hfuel
  simp only [List.length_cons] at hfuel
  obtain ⟨fuel, rfl⟩ : ∃ n, fuel = n + 1 := ⟨fuel - 1, by omega⟩
  have hread := hx.read fuel (by omega)
  rw [Keyword.token, readOperand, hread]
  rfl

/-- Parentheses are an operand. -/
theorem Reads.paren (hx : Reads 0 ts x (.symbol .close :: rest)) :
    ReadsOperand (.symbol .open :: ts) (.paren x) rest := by
  have hlt := hx.length_lt
  simp only [List.length_cons] at hlt
  refine ⟨by simp only [List.length_cons]; omega, ?_⟩
  intro fuel hfuel
  simp only [List.length_cons] at hfuel
  obtain ⟨fuel, rfl⟩ : ∃ n, fuel = n + 1 := ⟨fuel - 1, by omega⟩
  have hread := hx.read fuel (by simp only [List.length_cons]; omega)
  rw [readOperand, hread]
  rfl

/-- What is read of the tokens between parentheses. -/
theorem Reads.parens (hx : Reads 0 (ts ++ .symbol .close :: rest) x (.symbol .close :: rest)) :
    ReadsOperand (parenTokens ts ++ rest) (.paren x) rest := by
  have h := hx.paren
  simpa [parenTokens] using h

/-- The last argument, with the parenthesis after it. -/
theorem Reads.lastArg (hx : Reads 0 ts x (.symbol .close :: rest)) : ReadsArgs ts [x] rest := by
  have hlt := hx.length_lt
  simp only [List.length_cons] at hlt
  refine ⟨by omega, ?_⟩
  intro fuel hfuel
  obtain ⟨fuel, rfl⟩ : ∃ n, fuel = n + 1 := ⟨fuel - 1, by omega⟩
  have hread := hx.read fuel (by simp only [List.length_cons]; omega)
  rw [readArgs, hread]
  rfl

/-- An argument before others, with the comma after it. -/
theorem Reads.consArg {args : List Term} (hx : Reads 0 ts x (.symbol .comma :: rest))
    (hargs : ReadsArgs rest args rest') :
    ReadsArgs ts (x :: args) rest' := by
  have hlt := hx.length_lt
  have hlt' := hargs.length_lt
  simp only [List.length_cons] at hlt
  refine ⟨by omega, ?_⟩
  intro fuel hfuel
  obtain ⟨fuel, rfl⟩ : ∃ n, fuel = n + 1 := ⟨fuel - 1, by omega⟩
  have hread := hx.read fuel (by simp only [List.length_cons]; omega)
  have hrest := hargs.read fuel (by omega)
  rw [readArgs, hread]
  simp only [bind, Except.bind, hrest]
  rfl

/-- A function with its arguments is an operand. -/
theorem ReadsArgs.call {args : List Term} {name : String} (hargs : ReadsArgs ts args rest)
    (hname : applyNamed? name args = some x) : ReadsOperand (.word name :: .symbol .open :: ts) x rest := by
  have hlt := hargs.length_lt
  refine ⟨by simp only [List.length_cons]; omega, ?_⟩
  intro fuel hfuel
  simp only [List.length_cons] at hfuel
  obtain ⟨fuel, rfl⟩ : ∃ n, fuel = n + 1 := ⟨fuel - 1, by omega⟩
  have hread := hargs.read fuel (by omega)
  rw [readOperand, hread]
  simp only [bind, Except.bind, hname]
  rfl

/-! ## Columns -/

/-- What comes next is no point. -/
def NoDot (ts : List Token) : Prop := ts.head? ≠ some (.symbol .dot)

theorem BinaryOp.noDot_tokens (op : BinaryOp) (ts : List Token) : NoDot (op.tokens ++ ts) := by
  cases op <;> simp [NoDot, BinaryOp.tokens, Keyword.token]

theorem Stops.noDot (h : Stops level ts) : NoDot ts := by
  cases h with
  | nil => exact nofun
  | close ts => exact nofun
  | comma ts => exact nofun
  | keyword spelling ts _ => exact nofun
  | looser op ts _ _ => exact op.noDot_tokens ts

/-- A column after its table, or alone where no point comes next. -/
theorem ReadsOperand.column (table : Option String) (name : String) (hrest : NoDot rest) :
    ReadsOperand (columnTokens table name ++ rest) (.column table name) rest := by
  cases table with
  | some u =>
    refine ⟨by simp only [columnTokens, List.length_append, List.length_cons]; omega, ?_⟩
    intro fuel hfuel
    simp only [columnTokens, List.length_append, List.length_cons] at hfuel
    obtain ⟨fuel, rfl⟩ : ∃ n, fuel = n + 1 := ⟨fuel - 1, by omega⟩
    rfl
  | none =>
    refine ⟨by simp [columnTokens], ?_⟩
    intro fuel hfuel
    simp only [columnTokens, List.length_append, List.length_cons] at hfuel
    obtain ⟨fuel, rfl⟩ : ∃ n, fuel = n + 1 := ⟨fuel - 1, by omega⟩
    cases rest with
    | nil => rfl
    | cons s rest =>
      have hs : s ≠ .symbol .dot := by
        rintro rfl
        exact hrest rfl
      simp only [columnTokens, List.singleton_append]
      rw [readOperand, readLeaf]
      · rfl
      all_goals simp_all

/-! ## Items with commas -/

/-- There are no fewer tokens than items with commas between them. -/
theorem length_le_commaTokens (tss : List (List Token)) : tss.length ≤ (commaTokens tss).length + 1 := by
  induction tss with
  | nil => simp
  | cons ts tss ih =>
    cases tss with
    | nil => simp
    | cons us tss =>
      simp only [commaTokens, List.length_append, List.length_cons] at ih ⊢
      omega

/-- Items are read one by one, as far as there are commas between them. -/
theorem readCommas_each {α β : Type} {read : List Token → Except SyntaxFault (β × List Token)} {tokens : α → List Token}
    {R : α → β → Prop} {items : List α} (hne : items ≠ []) (hrest : ∀ ts, rest ≠ .symbol .comma :: ts)
    (hread : ∀ x ∈ items, ∀ next, next = rest ∨ (∃ ts, next = .symbol .comma :: ts) →
      ∃ b, read (tokens x ++ next) = .ok (b, next) ∧ R x b) {most : Nat} (hmost : items.length ≤ most) :
    ∃ bs, readCommas read most (commaTokens (items.map tokens) ++ rest) = .ok (bs, rest) ∧ List.Forall₂ R items bs := by
  induction items generalizing most with
  | nil => exact absurd rfl hne
  | cons x items ih =>
    obtain ⟨most, rfl⟩ : ∃ n, most = n + 1 := ⟨most - 1, by simp only [List.length_cons] at hmost; omega⟩
    cases items with
    | nil =>
      obtain ⟨b, hb, hxb⟩ := hread x List.mem_cons_self rest (.inl rfl)
      refine ⟨[b], ?_, .cons hxb .nil⟩
      simp only [List.map_cons, List.map_nil, commaTokens]
      rw [readCommas, hb]
      simp only [bind, Except.bind]
      rfl
    | cons y items =>
      obtain ⟨bs, hbs, hall⟩ := ih (List.cons_ne_nil _ _) (fun z hz => hread z (List.mem_cons_of_mem _ hz))
        (Nat.le_of_succ_le_succ hmost)
      obtain ⟨b, hb, hxb⟩ := hread x List.mem_cons_self
        (.symbol .comma :: (commaTokens ((y :: items).map tokens) ++ rest)) (.inr ⟨_, rfl⟩)
      refine ⟨b :: bs, ?_, .cons hxb hall⟩
      have htokens : commaTokens ((x :: y :: items).map tokens) ++ rest =
          tokens x ++ .symbol .comma :: (commaTokens ((y :: items).map tokens) ++ rest) := by
        simp [commaTokens]
      rw [htokens, readCommas, hb]
      simp only [bind, Except.bind, hbs]
      rfl

end Sql

end SqlMapper
