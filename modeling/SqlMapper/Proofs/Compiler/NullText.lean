import SqlMapper.Proofs.Compiler.NullTests

/-!
# The text of a null

Whether an equality is a test for null can be told from the text of its right operand alone: only the constant null,
converted or not, is written `NULL` (`Compiler.text_eq_null_iff`). A text is in quotation marks, and so are the
names of tables and columns; a number begins with a digit or a minus, a place with its sign, and everything else
holds a parenthesis. So a writer that sees nothing but the texts of the operands (`Sql.BinaryOp.write`) writes what
the tree says.
-/

namespace SqlMapper

open Sql (Term Keyword)

/-! ## Operators on text -/

/-- An operator between two texts. Equality and inequality with the text `NULL` are tests for null. -/
def Sql.BinaryOp.write (op : Sql.BinaryOp) (l r : String) : String :=
  if op = .eq ∧ r = "NULL" then "(" ++ l ++ " IS NULL)"
  else if op = .ne ∧ r = "NULL" then "(" ++ l ++ " IS NOT NULL)"
  else "(" ++ l ++ " " ++ op.text ++ " " ++ r ++ ")"

/-- The text of an operator on two terms is that of the operator on their texts, when the right one is null as its
text says. -/
theorem Sql.Term.operate_text (op : Sql.BinaryOp) (l : Term) {r : Term} (hr : r.text = "NULL" ↔ r = .null) :
    (Term.operate op l r).text = op.write l.text r.text := by
  unfold Term.operate Sql.BinaryOp.write
  simp only [hr]
  by_cases hnull : r = .null
  · have htext : r.text = "NULL" := hr.2 hnull
    cases op <;> simp [hnull, Term.text, Sql.BinaryOp.text, String.append_assoc, hnull ▸ htext]
  · cases op <;> simp [hnull, Term.text, Sql.BinaryOp.text, String.append_assoc]

/-- Equality and inequality are spelled as such, and no other operator of an expression is. -/
theorem Operator.equality_iff {op : Operator} {o : Sql.BinaryOp} (ho : op.toSql? = some o) :
    (o = .eq ↔ op = .eq) ∧ (o = .ne ↔ op = .ne) := by
  cases op <;> cases ho <;> decide

/-- After the left operand a test for null goes on with `IS`, and no operator of an expression is spelled with an
`I` in front. -/
theorem Operator.plain_ne_test {op : Operator} {o : Sql.BinaryOp} (ho : op.toSql? = some o) (l r : String)
    {test : String} (htest : test.toList.head? = some 'I') :
    "(" ++ l ++ " " ++ o.text ++ " " ++ r ++ ")" ≠ "(" ++ l ++ " " ++ test := by
  intro h
  simp only [String.append_assoc, String.append_right_inj] at h
  have hspelled : o.text.toList ≠ [] ∧ o.text.toList.head? ≠ some 'I' := by
    cases op <;> cases ho <;> decide
  rw [← htest, ← h, String.toList_append, List.head?_append_of_ne_nil _ hspelled.1] at hspelled
  exact hspelled.2 rfl

/-- What an operator of an expression writes is a test for null in two cases, and in no other. -/
theorem Sql.BinaryOp.write_eq_test_iff {op : Operator} {o : Sql.BinaryOp} (ho : op.toSql? = some o) (l r : String) :
    (o.write l r = "(" ++ l ++ " IS NULL)" ↔ op = .eq ∧ r = "NULL") ∧
      (o.write l r = "(" ++ l ++ " IS NOT NULL)" ↔ op = .ne ∧ r = "NULL") := by
  have hop := Operator.equality_iff ho
  have hplain : ∀ test : String, test.toList.head? = some 'I' →
      "(" ++ l ++ " " ++ o.text ++ " " ++ r ++ ")" ≠ "(" ++ l ++ (" " ++ test) := by
    intro test htest
    rw [← String.append_assoc]
    exact Operator.plain_ne_test ho l r htest
  have htests : "(" ++ l ++ " IS NULL)" ≠ "(" ++ l ++ " IS NOT NULL)" := by
    rw [ne_eq, String.append_right_inj]
    decide
  have hnull : "(" ++ l ++ " " ++ o.text ++ " " ++ r ++ ")" ≠ "(" ++ l ++ " IS NULL)" := hplain "IS NULL)" rfl
  have hnotNull : "(" ++ l ++ " " ++ o.text ++ " " ++ r ++ ")" ≠ "(" ++ l ++ " IS NOT NULL)" :=
    hplain "IS NOT NULL)" rfl
  unfold Sql.BinaryOp.write
  rw [← hop.1, ← hop.2]
  split
  · rename_i heq
    exact ⟨⟨fun _ => heq, fun _ => rfl⟩, fun h => absurd h htests, fun h => by cases heq.1.symm.trans h.1⟩
  · rename_i heq
    split
    · rename_i hne
      exact ⟨⟨fun h => absurd h htests.symm, fun h => absurd h heq⟩, fun _ => hne, fun _ => rfl⟩
    · rename_i hne
      exact ⟨⟨fun h => absurd h hnull, fun h => absurd h heq⟩, fun h => absurd h hnotNull, fun h => absurd h hne⟩

/-! ## The text of an expression -/

/-- Among the terms that are written only null has the text `NULL`. -/
theorem Emitted.text_eq_null_iff (m : Emitted) : m.written.text = "NULL" ↔ m.written = .null := by
  constructor
  · intro h
    rw [← Sql.Term.tokens_eq_null_iff, ← m.tokensFrom_written, h]
    decide +kernel
  · intro h
    rw [h]
    rfl

/-- An expression is the constant null, conversions aside, exactly when it is the constant null under so many
conversions. -/
theorem Expr.isNullConstant_iff {x : Expr} :
    x.isNullConstant = true ↔ ∃ kinds : List Kind,
      x = kinds.foldr (fun kind y => .convert y kind) (.constant .null) := by
  constructor
  · intro h
    fun_induction Expr.isNullConstant x with
    | case1 => exact ⟨[], rfl⟩
    | case2 x kind ih =>
      obtain ⟨kinds, hx⟩ := ih h
      exact ⟨kind :: kinds, by rw [hx, List.foldr_cons]⟩
    | case3 => cases h
  · rintro ⟨kinds, rfl⟩
    induction kinds with
    | nil => rfl
    | cons kind kinds ih => exact ih

namespace Compiler

variable {c : Compiler} {x : Expr} {b : Bound Term}

/-- What an expression is compiled to is the term null when its text is `NULL`, and then the expression is the
constant null. -/
theorem text_eq_null_iff (h : c.compile x = .ok b) :
    (b.sql.text = "NULL" ↔ b.sql = .null) ∧ (b.sql.text = "NULL" ↔ x.isNullConstant = true) := by
  obtain ⟨m, hm⟩ := Emitted.compile_emits x b h
  have htext : b.sql.text = "NULL" ↔ b.sql = .null := by
    rw [hm.written]
    exact m.text_eq_null_iff
  refine ⟨htext, ?_⟩
  rw [htext, hm.written, Emitted.written_eq_null_iff, ← (Compiler.nullsAs_tree x _ hm.tree).isNull, decide_eq_true_iff]

/-- An operator of an expression that is compiled has a spelling, and its operands are compiled. -/
theorem compile_binary_ok {op : Operator} {l r : Expr} (h : c.compile (.binary op l r) = .ok b) :
    ∃ o left right, op.toSql? = some o ∧ c.compile l = .ok left ∧ c.compile r = .ok right ∧
      b = ⟨.operate o left.sql right.sql, left.params ++ right.params⟩ := by
  unfold Compiler.compile at h
  cases ho : op.toSql? with
  | none => rw [ho] at h; cases h
  | some o =>
    rw [ho] at h
    obtain ⟨left, hleft, h⟩ := bind_eq_ok h
    obtain ⟨right, hright, h⟩ := bind_eq_ok h
    exact ⟨o, left, right, rfl, hleft, hright, (Except.ok.inj h).symm⟩

end Compiler

/-- The text `NULL` is exact. In any scope and either style, an expression that is compiled has the text `NULL` if
and only if it is the constant null under any number of conversions. So an operator can be written from the texts of
its operands: it is made a test for null where it is an equality or inequality with such an expression on its right,
and nowhere else. -/
theorem null_text_exact {c : Compiler} {x : Expr} {b : Bound Term} (h : c.compile x = .ok b) :
    (b.sql.text = "NULL" ↔ ∃ kinds : List Kind, x = kinds.foldr (fun kind y => .convert y kind) (.constant .null)) ∧
      ∀ op l r, x = .binary op l r → ∃ o left right, op.toSql? = some o ∧ c.compile l = .ok left ∧
        c.compile r = .ok right ∧ b.sql.text = o.write left.sql.text right.sql.text ∧
        (b.sql.text = "(" ++ left.sql.text ++ " IS NULL)" ↔ op = .eq ∧ r.isNullConstant = true) ∧
        (b.sql.text = "(" ++ left.sql.text ++ " IS NOT NULL)" ↔ op = .ne ∧ r.isNullConstant = true) ∧
        (¬((op = .eq ∨ op = .ne) ∧ r.isNullConstant = true) →
          b.sql.text = "(" ++ left.sql.text ++ " " ++ o.text ++ " " ++ right.sql.text ++ ")") := by
  refine ⟨(Compiler.text_eq_null_iff h).2.trans Expr.isNullConstant_iff, ?_⟩
  rintro op l r rfl
  obtain ⟨o, left, right, ho, hleft, hright, rfl⟩ := Compiler.compile_binary_ok h
  obtain ⟨hterm, hnull⟩ := Compiler.text_eq_null_iff hright
  have htext := Sql.Term.operate_text o left.sql hterm
  refine ⟨o, left, right, ho, hleft, hright, htext, ?_⟩
  obtain ⟨heq, hne⟩ := Sql.BinaryOp.write_eq_test_iff ho left.sql.text right.sql.text
  rw [htext, ← hnull]
  refine ⟨heq, hne, fun hplain => ?_⟩
  have hop := Operator.equality_iff ho
  rw [Sql.BinaryOp.write, if_neg fun h => hplain ⟨.inl (hop.1.1 h.1), h.2⟩,
    if_neg fun h => hplain ⟨.inr (hop.2.1 h.1), h.2⟩]

/-- In a table `NULL` with a column `NULL`, against the text `NULL` and against a null that is converted twice. -/
theorem null_text_exact_named_null :
    let t : Table := ⟨"NULL", [{ name := "NULL", property := "NULL", kind := .text }], by decide⟩
    let c : Compiler := ⟨.single t, .inline, {}⟩
    let named := Expr.ofColumn "NULL"
    (∃ b, c.compile (named.eq (.constant (.text "NULL"))) = .ok b ∧ b.sql.text = "(\"NULL\" = 'NULL')") ∧
      ∃ b, c.compile (named.ne (.convert (.convert .null .text) .bool)) = .ok b ∧ b.sql.text ≠ "NULL" ∧
        b.sql.text = "(\"NULL\" IS NOT NULL)" := by
  intro t c named
  have hcolumn : c.compile named = .ok (.pure (.column none "NULL")) := rfl
  constructor
  · obtain ⟨-, hwritten⟩ := null_text_exact (c := c) (x := named.eq (.constant (.text "NULL"))) rfl
    obtain ⟨o, left, right, ho, hleft, hright, -, -, -, hplain⟩ := hwritten _ _ _ rfl
    obtain rfl := Option.some.inj ho
    obtain rfl := Except.ok.inj (hcolumn.symm.trans hleft)
    cases hright
    exact ⟨_, rfl, hplain (by decide)⟩
  · obtain ⟨hnull, hwritten⟩ := null_text_exact (c := c) (x := named.ne (.convert (.convert .null .text) .bool)) rfl
    obtain ⟨o, left, right, ho, hleft, -, -, -, htest, -⟩ := hwritten _ _ _ rfl
    obtain rfl := Except.ok.inj (hcolumn.symm.trans hleft)
    refine ⟨_, rfl, fun h => ?_, htest.2 ⟨rfl, rfl⟩⟩
    obtain ⟨kinds, hkinds⟩ := hnull.1 h
    cases kinds <;> cases hkinds

end SqlMapper
