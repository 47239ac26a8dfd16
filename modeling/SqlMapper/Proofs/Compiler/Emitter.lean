import SqlMapper.Proofs.Compiler.Grouping

/-!
# Tokens of expressions

The tokens that an expression stands for are said without any text (`Compiler.tokens?`): the keywords, operators and
punctuation of each node, and one token for each name, constant and parameter in it, which carries the name or the
value itself. Only the minus of a negative number is a token of its own. An expression has such tokens exactly when
it is compiled, and the text that it is compiled to falls into them (`Compiler.tokens?_eq`).
-/

namespace SqlMapper

open Sql (Token Keyword Lexed parenTokens commaTokens columnTokens tokensFrom)

/-! ## The tokens of an expression -/

/-- The tokens of an operator, if it has any. Equality and inequality are tests for null where the right operand is
one. -/
def Operator.tokens? (test : Bool) : Operator → Option (List Token)
  | .eq => some (if test then [Keyword.token .is] else [.symbol .eq])
  | .ne => some (if test then [Keyword.token .is, Keyword.token .not] else [.symbol .ne])
  | .gt => some [.symbol .gt]
  | .ge => some [.symbol .ge]
  | .lt => some [.symbol .lt]
  | .le => some [.symbol .le]
  | .bitAnd => some [.symbol .bitAnd]
  | .and => some [Keyword.token .and]
  | .bitOr => some [.symbol .bitOr]
  | .or => some [Keyword.token .or]
  | .add => some [.symbol .plus]
  | .sub => some [.symbol .minus]
  | .mul => some [.symbol .star]
  | .div => some [.symbol .slash]
  | .rem => some [.symbol .percent]
  | .concat => some [.symbol .concat]
  | .xor | .shl | .shr | .power | .coalesce => none

/-- The tokens of an operator on the tokens of its operands. Null is the one token `NULL`. -/
def Operator.emit? (op : Operator) (l r : List Token) : Option (List Token) :=
  (op.tokens? (r = [Keyword.token .null])).map fun ts => parenTokens (l ++ ts ++ r)

/-- The tokens of a method on the tokens of its operands. -/
def Method.tokens? : Method → List (List Token) → Option (List Token)
  | .like, [a, b] => some (parenTokens (a ++ Keyword.token .like :: b))
  | .contains, [a, b] =>
    some (parenTokens (a ++ Keyword.token .like ::
      parenTokens (.string "%" :: .symbol .concat :: b ++ [.symbol .concat, .string "%"])))
  | .startsWith, [a, b] =>
    some (parenTokens (a ++ Keyword.token .like :: parenTokens (b ++ [.symbol .concat, .string "%"])))
  | .endsWith, [a, b] =>
    some (parenTokens (a ++ Keyword.token .like :: parenTokens (.string "%" :: .symbol .concat :: b)))
  | .equals, [a, b] => some (parenTokens (a ++ .symbol .eq :: b))
  | .is, [a, b] => some (parenTokens (a ++ Keyword.token .is :: b))
  | .isNot, [a, b] => some (parenTokens (a ++ Keyword.token .is :: Keyword.token .not :: b))
  | .toLower, [a] => some (.word "lower" :: parenTokens a)
  | .toUpper, [a] => some (.word "upper" :: parenTokens a)
  | .trim, [a] => some (.word "trim" :: parenTokens a)
  | .replace, [a, b, c] =>
    some (.word "replace" :: parenTokens (a ++ .symbol .comma :: b ++ .symbol .comma :: c))
  | .isNullOrEmpty, [a] =>
    some (parenTokens (a ++ [Keyword.token .is, Keyword.token .null, Keyword.token .or] ++ a ++
      [.symbol .eq, .string ""]))
  | _, _ => none

/-- The tokens of a call: a membership, or the method on all its operands. -/
def Compiler.callTokens? (c : Compiler) (name : String) (set : Option (List Scalar))
    (operands : List (Option (List Token))) :
    Option (List Token) := do
  let method ← Method.ofName? name
  match method, set, operands with
  | .contains, some values, [_, item] =>
    let item ← item
    let set ← values.mapM c.leaf?
    return parenTokens (item ++ Keyword.token .in :: parenTokens (commaTokens (set.map Sql.Constant.tokens)))
  | _, _, _ => method.tokens? (← operands.mapM id)

mutual

/-- The tokens of an expression. -/
def Compiler.tokens? (c : Compiler) : Expr → Option (List Token)
  | .constant s => (c.leaf? s).map Sql.Constant.tokens
  | .list _ => none
  | .parameter name => if isParameterName name then some [.place (.named ':' name)] else none
  | .column ref => (c.scope.resolve ref).toOption.map fun owner =>
      columnTokens (if c.scope.qualified then some owner.1.name else none) owner.2.name
  | .binary op left right => do
    let l ← c.tokens? left
    let r ← c.tokens? right
    op.emit? l r
  | .not x => (c.tokens? x).map fun ts => Keyword.token .not :: parenTokens ts
  | .method name receiver args => c.callTokens? name receiver.values? (c.tokens? receiver :: c.tokensEach args)
  | .call name args => c.callTokens? name (args.head?.bind Expr.values?) (c.tokensEach args)
  | .convert x _ => c.tokens? x

/-- The tokens of expressions, one by one. -/
def Compiler.tokensEach (c : Compiler) : List Expr → List (Option (List Token))
  | [] => []
  | x :: rest => c.tokens? x :: c.tokensEach rest

end

/-! ## Operators -/

/-- The tokens of a written operator on the tokens of its operands: a comparison with the one token `NULL` is a test
for null. -/
def Sql.BinaryOp.emit (op : Sql.BinaryOp) (l r : List Token) : List Token :=
  parenTokens (l ++ (if r = [Keyword.token .null] then op.nullTest else op).tokens ++ r)

/-- An operator is emitted as the one that is written for it. -/
theorem Operator.emit?_eq (op : Operator) (l r : List Token) : op.emit? l r = op.toSql?.map fun o => o.emit l r := by
  unfold Operator.emit? Sql.BinaryOp.emit
  cases op <;> by_cases hr : r = [Keyword.token .null] <;>
    simp [Operator.tokens?, Operator.toSql?, Sql.BinaryOp.nullTest, Sql.BinaryOp.tokens, hr]

/-- The tokens of an operator with operands, by the one that is written for it. -/
theorem Compiler.tokens?_binary (c : Compiler) (op : Operator) (left right : Expr) :
    c.tokens? (.binary op left right) = do
      let o ← op.toSql?
      let l ← c.tokens? left
      let r ← c.tokens? right
      return o.emit l r := by
  rw [Compiler.tokens?]
  simp only [Operator.emit?_eq]
  cases op.toSql? with
  | none => cases c.tokens? left <;> cases c.tokens? right <;> rfl
  | some o => rfl

/-! ## Emission -/

/-- What is compiled is in a relation to what is emitted, or there is neither. -/
inductive Emits {α β : Type} (R : α → β → Prop) : Except Error (Bound α) → Option β → Prop where
  | none (e : Error) : Emits R (.error e) none
  | some {b : Bound α} {t : β} (h : R b.sql t) : Emits R (.ok b) (some t)

namespace Emits

variable {α β γ δ : Type} {R : α → β → Prop} {S : γ → δ → Prop} {x : Except Error (Bound α)} {t : Option β}

/-- A step on what is compiled, and one on what is emitted. -/
theorem bind {f : Bound α → Except Error (Bound γ)} {g : β → Option δ} (h : Emits R x t)
    (hfg : ∀ b u, R b.sql u → Emits S (f b) (g u)) : Emits S (x >>= f) (t >>= g) := by
  cases h with
  | none e => exact .none e
  | some h => exact hfg _ _ h

/-- What is made of both. -/
theorem map {f : Bound α → Bound γ} {g : β → δ} (h : Emits R x t) (hfg : ∀ b u, R b.sql u → S (f b).sql (g u)) :
    Emits S (x >>= fun b => .ok (f b)) (t.map g) := by
  cases h with
  | none e => exact .none e
  | some h => exact .some (hfg _ _ h)

/-- A relation that holds of all that is compiled. -/
theorem imp {R' : α → β → Prop} (h : Emits R x t) (himp : ∀ b u, x = .ok b → R b.sql u → R' b.sql u) :
    Emits R' x t := by
  cases h with
  | none e => exact .none e
  | some h => exact .some (himp _ _ rfl h)

/-- Operands are compiled together as they are emitted one by one. -/
theorem collect {xs : List (Except Error (Bound α))} {ts : List (Option β)} (h : List.Forall₂ (Emits R) xs ts) :
    Emits (List.Forall₂ R) (Bound.collect xs) (ts.mapM id) := by
  induction h with
  | nil => exact .some .nil
  | cons hfirst _ ih =>
    rw [Bound.collect, List.mapM_cons]
    refine hfirst.bind fun b u hb => ih.bind fun bs us hbs => ?_
    exact .some (.cons hb hbs)

end Emits

/-- A term has the tokens. -/
def Sql.Term.HasTokens (t : Sql.Term) (ts : List Token) : Prop := t.tokens = ts

/-- Only the constant null has the one token `NULL`. -/
theorem Sql.Term.tokens_eq_null_iff (t : Sql.Term) : t.tokens = [Keyword.token .null] ↔ t = .null := by
  constructor
  · intro h
    -- Every other term has a token that is not `NULL`.
    have hall : ∀ u ∈ t.tokens, u = Keyword.token .null := by simp [h]
    cases t with
    | constant c =>
      cases c with
      | place p => cases hall (.place p) (by simp [tokens, Constant.tokens])
      | literal v =>
        have hnumber : ∀ minus digits, Sql.numberTokens minus digits ≠ [Keyword.token .null] := by
          intro minus digits
          cases minus <;> (intro h; cases h)
        cases v with
        | null => rfl
        | integer n => exact absurd h (hnumber _ _)
        | real x => exact absurd h (hnumber _ _)
        | text s => cases h
        | blob b => cases h
    | column table name => cases hall (.quoted name) (by cases table <;> simp [tokens, columnTokens])
    | word name => cases h
    | truth b => cases b <;> cases h
    | not x => exact absurd (hall (Keyword.token .not) (by simp [tokens])) (by decide)
    | sign negative x => cases negative <;> cases (List.cons.inj h).1
    | binary op l r =>
      obtain ⟨u, hu, hne⟩ : ∃ u ∈ op.tokens, u ≠ Keyword.token .null := by
        cases op <;> exact ⟨_, List.mem_cons_self, by decide⟩
      exact absurd (hall u (by simp [tokens, hu])) hne
    | member item set => exact absurd (hall (Keyword.token .in) (by simp [tokens])) (by decide)
    | apply f x => cases (List.cons.inj h).1
    | replace x old new => cases (List.cons.inj h).1
    | castText x => exact absurd (hall (Keyword.token .cast) (by simp [tokens])) (by decide)
    | paren x => cases (List.cons.inj h).1
  · rintro rfl
    rfl

/-- The tokens of an operator on two terms. -/
theorem Sql.Term.operate_tokens (op : Sql.BinaryOp) (l r : Sql.Term) :
    (Sql.Term.operate op l r).tokens = op.emit l.tokens r.tokens := by
  unfold Sql.Term.operate Sql.BinaryOp.emit
  simp only [Sql.Term.tokens_eq_null_iff]
  by_cases hr : r = .null
  · cases op <;> simp [hr, tokens, Sql.BinaryOp.nullTest]
  · cases op <;> simp [hr, tokens]

/-- The tokens of a method on terms. -/
theorem Method.map_term? (m : Method) (terms : List Sql.Term) :
    (m.term? terms).map Sql.Term.tokens = m.tokens? (terms.map Sql.Term.tokens) := by
  rcases terms with _ | ⟨a, _ | ⟨b, _ | ⟨c, _ | ⟨d, terms⟩⟩⟩⟩
  · cases m <;> rfl
  · cases m <;> simp [term?, tokens?, Sql.Term.tokens, Sql.TextFunction.text, Sql.BinaryOp.tokens, Sql.Term.null,
      Sql.Term.string, Sql.Constant.tokens, Sql.literalTokens]
  · cases m <;> simp [term?, tokens?, Sql.Term.tokens, Sql.BinaryOp.tokens, Sql.Term.string, Sql.Constant.tokens,
      Sql.literalTokens]
  · cases m <;> simp [term?, tokens?, Sql.Term.tokens]
  · cases m <;> rfl

/-- A method has tokens on as many operands as it takes only. -/
theorem Method.tokens?_eq_none {m : Method} {tss : List (List Token)} (h : tss.length ≠ m.arity) :
    m.tokens? tss = none := by
  rcases tss with _ | ⟨a, _ | ⟨b, _ | ⟨c, _ | ⟨d, tss⟩⟩⟩⟩
  · cases m <;> rfl
  · cases m <;> first | rfl | exact absurd rfl h
  · cases m <;> first | rfl | exact absurd rfl h
  · cases m <;> first | rfl | exact absurd rfl h
  · cases m <;> rfl

namespace Compiler

variable (c : Compiler)

/-- The tokens of a call that is no membership. -/
theorem callTokens?_of_not_member {name : String} {m : Method} (hm : Method.ofName? name = some m)
    {set : Option (List Scalar)} {operands : List (Option (List Token))}
    (h : ¬(m = .contains ∧ set.isSome = true ∧ operands.length = 2)) :
    c.callTokens? name set operands = operands.mapM id >>= m.tokens? := by
  unfold Compiler.callTokens?
  rw [hm]
  simp only [Option.bind_eq_bind, Option.bind_some]
  split
  · exact (h ⟨rfl, rfl, rfl⟩).elim
  · rfl

/-- A call is emitted as its operands are. -/
theorem invoke_emits (name : String) (set : Option (List Scalar)) {xs : List (Except Error (Bound Sql.Term))}
    {ts : List (Option (List Token))} (h : List.Forall₂ (Emits Sql.Term.HasTokens) xs ts) :
    Emits Sql.Term.HasTokens (c.invoke name set xs) (c.callTokens? name set ts) := by
  cases hm : Method.ofName? name with
  | none =>
    unfold Compiler.invoke Compiler.callTokens?
    rw [hm]
    exact .none _
  | some m =>
    rcases m.member_or_not set xs with ⟨values, x, item, rfl, rfl, rfl⟩ | hmember
    · obtain ⟨t, u, rfl, -, hitem⟩ := forall₂_pair h
      rw [c.invoke_member hm]
      unfold Compiler.callTokens?
      rw [hm]
      refine hitem.bind fun b us hb => ?_
      rw [leaves?_eq]
      cases c.constants values with
      | error e => exact .none e
      | ok set =>
        refine .some ?_
        obtain rfl : b.sql.tokens = us := hb
        simp [Sql.Term.HasTokens, Bound.member, Sql.Term.tokens]
    · have hlist : ¬(m = .contains ∧ set.isSome = true ∧ ts.length = 2) := by rwa [← h.length_eq]
      rw [c.invoke_of_not_member hm hmember, c.callTokens?_of_not_member hm hlist]
      have hall := Emits.collect h
      split
      · refine hall.bind fun b us hb => ?_
        obtain rfl : b.sql.map Sql.Term.tokens = us := by
          rw [← List.forall₂_eq_eq_eq, List.forall₂_map_left_iff]
          exact hb
        unfold Method.apply
        rw [← m.map_term?]
        cases ht : m.term? b.sql with
        | none => exact .none _
        | some t => exact .some rfl
      · rename_i harity
        have hnone : (ts.mapM id >>= m.tokens?) = none := by
          cases hts : ts.mapM id with
          | none => rfl
          | some us =>
            refine Method.tokens?_eq_none ?_
            rwa [← (forall₂_of_mapM_some hts).length_eq, ← h.length_eq]
        rw [hnone]
        exact .none _

mutual

/-- An expression is compiled to a term with its tokens, or it has no tokens. -/
theorem emits_tokens : ∀ x : Expr, Emits Sql.Term.HasTokens (c.compile x) (c.tokens? x)
  | .constant s => by
    rw [Compiler.compile, Compiler.tokens?, leaf?_eq]
    cases c.constant s with
    | error e => exact .none e
    | ok k => exact .some rfl
  | .list values => .none _
  | .parameter name => by
    rw [Compiler.compile, Compiler.tokens?]
    split
    · exact .some rfl
    · exact .none _
  | .column ref => by
    rw [Compiler.compile, Compiler.tokens?]
    cases c.scope.resolve ref with
    | error e => exact .none e
    | ok owner => exact .some rfl
  | .binary op left right => by
    rw [Compiler.compile, tokens?_binary]
    cases op.toSql? with
    | none => exact .none _
    | some o =>
      refine (emits_tokens left).bind fun l ts hl => (emits_tokens right).bind fun r us hr => .some ?_
      rw [Sql.Term.HasTokens, Sql.Term.operate_tokens, hl, hr]
  | .not x => by
    rw [Compiler.compile, Compiler.tokens?]
    refine (emits_tokens x).map fun b ts hb => ?_
    rw [← hb]
    rfl
  | .method name receiver args => by
    rw [Compiler.compile, Compiler.tokens?]
    exact c.invoke_emits name _ (.cons (emits_tokens receiver) (emits_tokensEach args))
  | .call name args => by
    rw [Compiler.compile, Compiler.tokens?]
    exact c.invoke_emits name _ (emits_tokensEach args)
  | .convert x _ => by
    rw [Compiler.compile, Compiler.tokens?]
    exact emits_tokens x

/-- So are expressions one by one. -/
theorem emits_tokensEach :
    ∀ xs : List Expr, List.Forall₂ (Emits Sql.Term.HasTokens) (c.compileEach xs) (c.tokensEach xs)
  | [] => .nil
  | x :: rest => .cons (emits_tokens x) (emits_tokensEach rest)

end

end Compiler

/-! ## Text -/

/-- What is emitted is what the text of what is compiled is read as. -/
theorem Emits.eq_tokensFrom {α : Type} {text : α → String} {x : Except Error (Bound α)} {ts : Option (List Token)}
    (h : Emits (fun a ts => Lexed (text a).toList ts) x ts) :
    ts = x.toOption.map fun b => tokensFrom (text b.sql).toList := by
  cases h with
  | none e => rfl
  | some h => exact congrArg _ h.tokensFrom_eq.symm

/-- The text of a term is read as the tokens. -/
def Sql.Term.Spells (t : Sql.Term) (ts : List Token) : Prop := Lexed t.text.toList ts

namespace Compiler

variable (c : Compiler)

/-- An expression is compiled to text that is read as its tokens, or it has no tokens. -/
theorem emits_text (x : Expr) : Emits Sql.Term.Spells (c.compile x) (c.tokens? x) := by
  refine (c.emits_tokens x).imp fun b ts hb htokens => ?_
  obtain ⟨m, hm⟩ := Emitted.compile_emits x b hb
  obtain rfl : b.sql.tokens = ts := htokens
  rw [hm.written]
  exact m.isLexed_written

theorem emits_textEach (xs : List Expr) :
    List.Forall₂ (Emits Sql.Term.Spells) (c.compileEach xs) (c.tokensEach xs) := by
  induction xs with
  | nil => exact .nil
  | cons x rest ih => exact .cons (c.emits_text x) ih

/-- The tokens of an expression are those of the text that it is compiled to; it has none if it is not compiled. -/
theorem tokens?_eq (x : Expr) : c.tokens? x = (c.compile x).toOption.map fun b => tokensFrom b.sql.text.toList :=
  (c.emits_text x).eq_tokensFrom

end Compiler

end SqlMapper
