import Mathlib.Data.List.Basic
import SqlMapper.Proofs.Compiler.Constants
import SqlMapper.Proofs.Compiler.Rereading

/-!
# What compiled text groups

The tree of an expression is the expression itself, without conversions, with methods spelled out and tests for null
in the place of comparisons with null (`Compiler.tree?`); no parentheses and no text are in it. The text that the
expression is compiled to is read as that tree, but for negations. A negation is written `NOT(x)`, and every other
operator with parentheses around it; where an operator that binds tighter than `NOT` comes right after a negation,
or an `IS` right before one, the text is read as another tree. `Expr.capturesNot` says, of the expression alone,
whether there is such a place.
-/

namespace SqlMapper

/-! ## The tree of an expression -/

/-- The operator of a test for null in the place of a comparison. -/
def Sql.BinaryOp.nullTest : Sql.BinaryOp → Sql.BinaryOp
  | .eq => .is
  | .ne => .isNot
  | op => op

/-- The tree of an operator: a comparison with the constant null is a test for null. -/
def Sql.BinaryOp.tree (op : Sql.BinaryOp) (l r : Sql.Term) : Sql.Term :=
  .binary (if r = .null then op.nullTest else op) l r

/-- The tree of a method on the trees of its operands. -/
def Method.tree? : Method → List Sql.Term → Option Sql.Term
  | .like, [a, b] => some (.binary .like a b)
  | .contains, [a, b] => some (.binary .like a (.binary .concat (.binary .concat (.string "%") b) (.string "%")))
  | .startsWith, [a, b] => some (.binary .like a (.binary .concat b (.string "%")))
  | .endsWith, [a, b] => some (.binary .like a (.binary .concat (.string "%") b))
  | .equals, [a, b] => some (.binary .eq a b)
  | .is, [a, b] => some (.binary .is a b)
  | .isNot, [a, b] => some (.binary .isNot a b)
  | .toLower, [a] => some (.apply .lower a)
  | .toUpper, [a] => some (.apply .upper a)
  | .trim, [a] => some (.apply .trim a)
  | .replace, [a, b, c] => some (.replace a b c)
  | .isNullOrEmpty, [a] => some (.binary .or (.binary .is a .null) (.binary .eq a (.string "")))
  | _, _ => none

/-- The tree of a call: a membership, or the method on all its operands. -/
def Compiler.callTree? (c : Compiler) (name : String) (set : Option (List Scalar)) (operands : List (Option Sql.Term)) :
    Option Sql.Term := do
  let method ← Method.ofName? name
  match method, set, operands with
  | .contains, some values, [_, item] =>
    let item ← item
    let set ← values.mapM c.leaf?
    return .member item (set.map Sql.Constant.reread)
  | _, _, _ => method.tree? (← operands.mapM id)

mutual

/-- The tree of an expression. Constants and columns stand for what they are as terms. -/
def Compiler.tree? (c : Compiler) : Expr → Option Sql.Term
  | .constant s => (c.leaf? s).map fun k => .constant k.reread
  | .list _ => none
  | .parameter name => some (.parameter name)
  | .column ref => (c.scope.resolve ref).toOption.map fun owner =>
      .column (if c.scope.qualified then some owner.1.name else none) owner.2.name
  | .binary op left right => do
    let o ← op.toSql?
    let l ← c.tree? left
    let r ← c.tree? right
    return o.tree l r
  | .not x => (c.tree? x).map .not
  | .method name receiver args => c.callTree? name receiver.values? (c.tree? receiver :: c.trees? args)
  | .call name args => c.callTree? name (args.head?.bind Expr.values?) (c.trees? args)
  | .convert x _ => c.tree? x

/-- The trees of expressions, one by one. -/
def Compiler.trees? (c : Compiler) : List Expr → List (Option Sql.Term)
  | [] => []
  | x :: rest => c.tree? x :: c.trees? rest

end

/-! ## Negations that take something in -/

/-- Whether an expression is a negation, conversions aside. -/
def Expr.isNegation : Expr → Bool
  | .not _ => true
  | .convert x _ => x.isNegation
  | _ => false

/-- Whether a method puts an operator that binds tighter than `NOT` after an operand that is a negation, or an `IS`
before it, given which of its operands are negations. -/
def Method.capturesNot : Method → List Bool → Bool
  | .like, [a, _] | .endsWith, [a, _] | .equals, [a, _] | .isNot, [a, _] => a
  | .contains, [a, b] | .startsWith, [a, b] | .is, [a, b] => a || b
  | .isNullOrEmpty, [a] => a
  | _, _ => false

/-- Whether a call captures one of the negations among its operands. -/
def Expr.callCaptures (name : String) (negations : List Bool) : Bool :=
  (Method.ofName? name).any fun m => m.capturesNot negations

mutual

/-- Whether a negation anywhere in an expression is captured by what is written next to it. -/
def Expr.capturesNot : Expr → Bool
  | .constant _ | .list _ | .parameter _ | .column _ => false
  | .binary op l r =>
    (op.toSql?.any (fun o => Sql.notLevel < o.level) && l.isNegation) || l.capturesNot || r.capturesNot
  | .not x | .convert x _ => x.capturesNot
  | .method name x args =>
    Expr.callCaptures name (x.isNegation :: args.map Expr.isNegation) || (x.capturesNot || Expr.anyCapturesNot args)
  | .call name args => Expr.callCaptures name (args.map Expr.isNegation) || Expr.anyCapturesNot args

/-- Whether a negation is captured in one of the expressions. -/
def Expr.anyCapturesNot : List Expr → Bool
  | [] => false
  | x :: rest => x.capturesNot || Expr.anyCapturesNot rest

end

/-! ## Emission -/

namespace Emitted

/-- An emitted term is what an expression was compiled to. -/
structure StandsFor (m : Emitted) (c : Compiler) (e : Expr) (sql : Sql.Term) : Prop where
  written : sql = m.written
  tree : c.tree? e = some m.tree
  isNot : m.isNot = e.isNegation
  captures : m.captures = e.capturesNot

/-- A term is null if its tree is. -/
theorem written_eq_null_iff (m : Emitted) : m.written = .null ↔ m.tree = .null := by
  cases m with
  | constant c =>
    obtain ⟨c, hc⟩ := c
    cases c with
    | place p => simp [written, tree, Sql.Constant.reread]
    | literal v =>
      have hreal : ∀ minus digits, Sql.numberValue minus digits ≠ .null := fun _ _ => Sql.value_ne_null _
      cases v <;> simp [written, tree, Sql.Constant.reread, Sql.Term.null, hreal]
  | _ => simp [written, tree, Sql.Term.null]

/-- What an operator on two terms is emitted as. -/
theorem operate_written (op : Sql.BinaryOp) (l r : Emitted) :
    Sql.Term.operate op l.written r.written = (binary (if r.tree = .null then op.nullTest else op) l r).written := by
  unfold Sql.Term.operate
  simp only [written_eq_null_iff]
  by_cases hr : r.tree = .null
  · cases op <;> simp [hr, written, Sql.BinaryOp.nullTest]
  · cases op <;> simp [hr, written]

/-- A test for null captures what the comparison does. -/
theorem operate_captures (op : Sql.BinaryOp) (his : op ≠ .is) (l r : Emitted) :
    (binary (if r.tree = .null then op.nullTest else op) l r).captures =
      ((decide (Sql.notLevel < op.level) && l.isNot) || l.captures || r.captures) := by
  by_cases hr : r.tree = .null
  · have hnot : r.isNot = false := by
      cases r with
      | not x => simp [tree, Sql.Term.null] at hr
      | _ => rfl
    have hlevel : op.nullTest.level = op.level := by cases op <;> rfl
    simp [captures, hr, hnot, hlevel, Bool.and_comm]
  · simp [captures, hr, his, Bool.and_comm]

/-- What an operator on two expressions is emitted as. -/
theorem StandsFor.operate {c : Compiler} {x y : Expr} {p q : Sql.Term} {m n : Emitted} (hm : m.StandsFor c x p)
    {op : Operator} {o : Sql.BinaryOp} (ho : op.toSql? = some o) (hn : n.StandsFor c y q) :
    (binary (if n.tree = .null then o.nullTest else o) m n).StandsFor c (.binary op x y) (.operate o p q) where
  written := by rw [← operate_written, ← hm.written, ← hn.written]
  tree := by simp [Compiler.tree?, ho, hm.tree, hn.tree, Emitted.tree, Sql.BinaryOp.tree]
  isNot := rfl
  captures := by
    have his : o ≠ .is := by
      rintro rfl
      cases op <;> cases ho
    rw [operate_captures o his, Expr.capturesNot, ho, hm.isNot, hm.captures, hn.captures]
    rfl

/-! ### Methods -/

/-- What an operator that binds tighter than `NOT` captures. -/
theorem captures_tight {op : Sql.BinaryOp} (h : Sql.notLevel < op.level) (l r : Emitted) :
    (binary op l r).captures = ((l.isNot || (decide (op = .is) && r.isNot)) || (l.captures || r.captures)) := by
  simp [captures, h, Bool.or_assoc]

/-- What a method on emitted terms is emitted as. -/
theorem term?_written {method : Method} {ms : List Emitted} {t : Sql.Term}
    (h : method.term? (ms.map written) = some t) :
    ∃ m : Emitted, t = m.written ∧ method.tree? (ms.map tree) = some m.tree ∧ m.isNot = false ∧
      m.captures = (method.capturesNot (ms.map isNot) || ms.any captures) := by
  let percent : Emitted := .constant (.text "%")
  have hpercent : percent.isNot = false ∧ percent.captures = false := ⟨rfl, rfl⟩
  rcases ms with _ | ⟨a, _ | ⟨b, _ | ⟨c, _ | ⟨d, ms⟩⟩⟩⟩
  · cases method <;> cases h
  · cases method
    case toLower => exact ⟨.apply .lower a, (Option.some.inj h).symm, rfl, rfl, by simp [captures, Method.capturesNot]⟩
    case toUpper => exact ⟨.apply .upper a, (Option.some.inj h).symm, rfl, rfl, by simp [captures, Method.capturesNot]⟩
    case trim => exact ⟨.apply .trim a, (Option.some.inj h).symm, rfl, rfl, by simp [captures, Method.capturesNot]⟩
    case isNullOrEmpty =>
      exact ⟨.nullOrEmpty a, (Option.some.inj h).symm, rfl, rfl, by simp [captures, Method.capturesNot]⟩
    all_goals cases h
  · cases method
    case like =>
      refine ⟨.binary .like a b, (Option.some.inj h).symm, rfl, rfl, ?_⟩
      rw [captures_tight (by decide)]
      simp [Method.capturesNot]
    case equals =>
      refine ⟨.binary .eq a b, (Option.some.inj h).symm, rfl, rfl, ?_⟩
      rw [captures_tight (by decide)]
      simp [Method.capturesNot]
    case is =>
      refine ⟨.binary .is a b, (Option.some.inj h).symm, rfl, rfl, ?_⟩
      rw [captures_tight (by decide)]
      simp [Method.capturesNot]
    case isNot =>
      refine ⟨.binary .isNot a b, (Option.some.inj h).symm, rfl, rfl, ?_⟩
      rw [captures_tight (by decide)]
      simp [Method.capturesNot]
    case contains =>
      refine ⟨.contains a b, (Option.some.inj h).symm, rfl, rfl, ?_⟩
      simp [captures, Method.capturesNot, Bool.or_assoc]
    case startsWith =>
      refine ⟨.binary .like a (.binary .concat b percent), (Option.some.inj h).symm, rfl, rfl, ?_⟩
      rw [captures_tight (by decide), captures_tight (by decide)]
      simp [Method.capturesNot, hpercent, isNot, Bool.or_assoc, Bool.or_left_comm]
    case endsWith =>
      refine ⟨.binary .like a (.binary .concat percent b), (Option.some.inj h).symm, rfl, rfl, ?_⟩
      rw [captures_tight (by decide), captures_tight (by decide)]
      simp [Method.capturesNot, hpercent, isNot]
    all_goals cases h
  · cases method
    case replace =>
      refine ⟨.replace a b c, (Option.some.inj h).symm, rfl, rfl, ?_⟩
      simp [captures, Method.capturesNot, Bool.or_assoc]
    all_goals cases h
  · cases method <;> cases h

/-! ### Calls -/

/-- Emitted terms are what expressions were compiled to, one by one. -/
structure StandForEach (c : Compiler) (xs : List Expr) (sqls : List Sql.Term) (ms : List Emitted) : Prop where
  written : sqls = ms.map written
  trees : c.trees? xs = ms.map fun m => some m.tree
  isNot : ms.map isNot = xs.map Expr.isNegation
  captures : ms.any captures = Expr.anyCapturesNot xs

variable {c : Compiler}

/-- Operands are emitted together as they are one by one. -/
theorem collect_emits {xs : List Expr} (hxs : ∀ x ∈ xs, ∀ b, c.compile x = .ok b → ∃ m : Emitted, m.StandsFor c x b.sql)
    {b : Bound (List Sql.Term)} (h : Bound.collect (c.compileEach xs) = .ok b) : ∃ ms, StandForEach c xs b.sql ms := by
  induction xs generalizing b with
  | nil =>
    rw [Compiler.compileEach] at h
    obtain rfl := Except.ok.inj h
    exact ⟨[], rfl, rfl, rfl, rfl⟩
  | cons x rest ih =>
    rw [Compiler.compileEach, Bound.collect] at h
    obtain ⟨first, hfirst, h⟩ := bind_eq_ok h
    obtain ⟨others, hothers, h⟩ := bind_eq_ok h
    obtain rfl := Except.ok.inj h
    obtain ⟨m, hm⟩ := hxs x List.mem_cons_self first hfirst
    obtain ⟨ms, hms⟩ := ih (fun y hy => hxs y (List.mem_cons_of_mem _ hy)) hothers
    refine ⟨m :: ms, ?_, ?_, ?_, ?_⟩
    · simp [hm.written, hms.written]
    · simp [Compiler.trees?, hm.tree, hms.trees]
    · simp [hm.isNot, hms.isNot]
    · simp [Expr.anyCapturesNot, hm.captures, hms.captures]

/-- All of the trees, when there are all. -/
theorem mapM_tree (ms : List Emitted) : (ms.map fun m => some m.tree).mapM id = some (ms.map tree) := by
  induction ms with
  | nil => rfl
  | cons m ms ih => simp [ih]

/-- The tree of a call that is no membership. -/
theorem callTree?_of_not_member {name : String} {method : Method} (hmethod : Method.ofName? name = some method)
    {set : Option (List Scalar)} {operands : List (Option Sql.Term)}
    (h : ¬(method = .contains ∧ set.isSome = true ∧ operands.length = 2)) :
    c.callTree? name set operands = operands.mapM id >>= method.tree? := by
  unfold Compiler.callTree?
  rw [hmethod]
  simp only [Option.bind_eq_bind, Option.bind_some]
  split
  · exact (h ⟨rfl, rfl, rfl⟩).elim
  · rfl

/-- What a membership is emitted as. -/
theorem member_emits {name : String} (hname : Method.ofName? name = some .contains) {values : List Scalar} {item : Expr}
    (hitem : ∀ b, c.compile item = .ok b → ∃ m : Emitted, m.StandsFor c item b.sql) {b : Bound Sql.Term}
    (h : c.invoke name (some values) (c.compileEach [.list values, item]) = .ok b) :
    ∃ m : Emitted, b.sql = m.written ∧ c.callTree? name (some values) (c.trees? [.list values, item]) = some m.tree ∧
      m.isNot = false ∧ m.captures = (Expr.callCaptures name [false, item.isNegation] || item.capturesNot) := by
  simp only [Compiler.compileEach] at h
  rw [c.invoke_member hname] at h
  obtain ⟨i, hi, h⟩ := bind_eq_ok h
  obtain ⟨set, hset, h⟩ := bind_eq_ok h
  obtain rfl := Except.ok.inj h
  obtain ⟨m, hm⟩ := hitem i hi
  have hleaves := Compiler.leaves?_of_constants hset
  obtain ⟨cs, hcs⟩ : ∃ cs : List Sql.WritableConstant, set.sql = cs.map (·.1) :=
    ⟨set.sql.attachWith _ (Compiler.writable_of_leaves hleaves), List.unattach_attachWith.symm⟩
  refine ⟨.member m cs, ?_, ?_, rfl, ?_⟩
  · simp [Bound.member, written, hm.written, hcs]
  · simp [Compiler.callTree?, hname, Compiler.trees?, hm.tree, hleaves, tree, hcs]
  · simp [captures, Expr.callCaptures, hname, Method.capturesNot, hm.isNot, hm.captures]

/-- What a method on all the operands is emitted as. -/
theorem apply_emits {method : Method} {xs : List Expr} {ms : List Emitted} {bs : Bound (List Sql.Term)}
    (hms : StandForEach c xs bs.sql ms) {b : Bound Sql.Term} (h : method.apply bs = .ok b) :
    ∃ m : Emitted, b.sql = m.written ∧ method.tree? (ms.map tree) = some m.tree ∧ m.isNot = false ∧
      m.captures = (method.capturesNot (xs.map Expr.isNegation) || Expr.anyCapturesNot xs) := by
  unfold Method.apply at h
  split at h
  · rename_i t ht
    obtain rfl := Except.ok.inj h
    rw [hms.written] at ht
    obtain ⟨m, hwritten, htree, hnot, hcaptures⟩ := term?_written ht
    rw [hms.isNot, hms.captures] at hcaptures
    exact ⟨m, hwritten, htree, hnot, hcaptures⟩
  · cases h

/-- What a call is emitted as. -/
theorem invoke_emits {name : String} {xs : List Expr}
    (hxs : ∀ x ∈ xs, ∀ b, c.compile x = .ok b → ∃ m : Emitted, m.StandsFor c x b.sql) {b : Bound Sql.Term}
    (h : c.invoke name (xs.head?.bind Expr.values?) (c.compileEach xs) = .ok b) :
    ∃ m : Emitted, b.sql = m.written ∧ c.callTree? name (xs.head?.bind Expr.values?) (c.trees? xs) = some m.tree ∧
      m.isNot = false ∧ m.captures = (Expr.callCaptures name (xs.map Expr.isNegation) || Expr.anyCapturesNot xs) := by
  cases hmethod : Method.ofName? name with
  | none =>
    unfold Compiler.invoke at h
    rw [hmethod] at h
    cases h
  | some method =>
    rcases method.member_or_not (xs.head?.bind Expr.values?) xs with ⟨values, x, item, rfl, hvalues, rfl⟩ | hmember
    · obtain rfl := eq_list_of_values? hvalues
      obtain ⟨m, hwritten, htree, hnot, hcaptures⟩ := member_emits hmethod (hxs item (by simp)) h
      refine ⟨m, hwritten, htree, hnot, ?_⟩
      simpa [Expr.anyCapturesNot, Expr.isNegation, Expr.capturesNot] using hcaptures
    · have hlist : ¬(method = .contains ∧ (xs.head?.bind Expr.values?).isSome = true ∧
          (c.compileEach xs).length = 2) := by
        rwa [c.length_compileEach]
      rw [c.invoke_of_not_member hmethod hlist] at h
      split at h
      · obtain ⟨bs, hbs, happly⟩ := bind_eq_ok h
        obtain ⟨ms, hms⟩ := collect_emits hxs hbs
        obtain ⟨m, hwritten, htree, hnot, hcaptures⟩ := apply_emits hms happly
        have hlength : ms.length = xs.length := by simpa using congrArg List.length hms.isNot
        refine ⟨m, hwritten, ?_, hnot, ?_⟩
        · rw [hms.trees, callTree?_of_not_member hmethod (by simpa [hlength] using hmember), mapM_tree]
          exact htree
        · rw [hcaptures, Expr.callCaptures, hmethod]
          rfl
      · cases h

/-! ### Expressions -/

mutual

/-- Every expression that is compiled is emitted as a term with the tree of the expression. -/
theorem compile_emits : ∀ (x : Expr) (b : Bound Sql.Term), c.compile x = .ok b → ∃ m : Emitted, m.StandsFor c x b.sql
  | .constant s, b, h => by
    rw [Compiler.compile] at h
    obtain ⟨k, hk, h⟩ := bind_eq_ok h
    obtain rfl := Except.ok.inj h
    have hleaf := Compiler.leaf?_of_constant hk
    exact ⟨.constant ⟨k.sql, Compiler.writable_of_leaf hleaf⟩, rfl, by simp [Compiler.tree?, hleaf, tree], rfl, rfl⟩
  | .list values, b, h => by
    rw [Compiler.compile] at h
    cases h
  | .parameter name, b, h => by
    rw [Compiler.compile] at h
    split at h
    · rename_i hname
      obtain rfl := Except.ok.inj h
      exact ⟨.constant ⟨.place (.named ':' name), rfl, hname⟩, rfl, rfl, rfl, rfl⟩
    · cases h
  | .column ref, b, h => by
    rw [Compiler.compile] at h
    obtain ⟨owner, howner, h⟩ := bind_eq_ok h
    obtain rfl := Except.ok.inj h
    refine ⟨.column (if c.scope.qualified then some owner.1.name else none) owner.2.name, rfl, ?_, rfl, rfl⟩
    simp [Compiler.tree?, howner, Except.toOption, tree]
  | .binary op left right, b, h => by
    rw [Compiler.compile] at h
    split at h
    · cases h
    · rename_i o ho
      obtain ⟨l, hl, h⟩ := bind_eq_ok h
      obtain ⟨r, hr, h⟩ := bind_eq_ok h
      obtain rfl := Except.ok.inj h
      obtain ⟨m, hm⟩ := compile_emits left l hl
      obtain ⟨n, hn⟩ := compile_emits right r hr
      exact ⟨_, hm.operate ho hn⟩
  | .not x, b, h => by
    rw [Compiler.compile] at h
    obtain ⟨t, ht, h⟩ := bind_eq_ok h
    obtain rfl := Except.ok.inj h
    obtain ⟨m, hm⟩ := compile_emits x t ht
    exact ⟨.not m, by simp [Bound.map, written, hm.written], by simp [Compiler.tree?, hm.tree, tree], rfl, hm.captures⟩
  | .method name receiver args, b, h => by
    have hoperands : ∀ x ∈ receiver :: args, ∀ b, c.compile x = .ok b → ∃ m : Emitted, m.StandsFor c x b.sql :=
      List.forall_mem_cons.2 ⟨compile_emits receiver, compileEach_emits args⟩
    rw [Compiler.compile] at h
    obtain ⟨m, hwritten, htree, hnot, hcaptures⟩ := invoke_emits hoperands h
    exact ⟨m, hwritten, htree, hnot, hcaptures⟩
  | .call name args, b, h => by
    rw [Compiler.compile] at h
    obtain ⟨m, hwritten, htree, hnot, hcaptures⟩ := invoke_emits (compileEach_emits args) h
    exact ⟨m, hwritten, htree, hnot, hcaptures⟩
  | .convert x kind, b, h => by
    rw [Compiler.compile] at h
    obtain ⟨m, hm⟩ := compile_emits x b h
    exact ⟨m, hm.written, hm.tree, hm.isNot, hm.captures⟩

/-- So are the operands of a call. -/
theorem compileEach_emits : ∀ (xs : List Expr), ∀ x ∈ xs, ∀ b : Bound Sql.Term, c.compile x = .ok b →
    ∃ m : Emitted, m.StandsFor c x b.sql
  | [] => List.forall_mem_nil _
  | x :: rest => List.forall_mem_cons.2 ⟨compile_emits x, compileEach_emits rest⟩

end

end Emitted

/-! ## Grouping -/

/-- The text of a compiled expression is read to its end, and what is read is the tree of the expression if and only
if no negation in it is captured by what is written next to it. Where the text holds no character that ends what is
sent, reading what is sent of it is the same. -/
theorem compile_reads_as_tree_iff {c : Compiler} {e : Expr} {b : Bound Sql.Term} (h : c.compile e = .ok b) :
    ∃ read tree, Sql.readWholeTerm (Sql.tokensFrom b.sql.text.toList) = .ok (read, []) ∧
      ((∀ ch ∈ b.sql.text.toList, ch.toNat ≠ 0) → Sql.readWholeTerm (Sql.lex b.sql.text) = .ok (read, [])) ∧
      c.tree? e = some tree ∧ (read.skeleton = tree ↔ e.capturesNot = false) := by
  obtain ⟨m, hm⟩ := Emitted.compile_emits e b h
  have hread := m.readWholeTerm_written
  rw [← hm.written] at hread
  refine ⟨m.read, m.tree, hread, ?_, hm.tree, ?_⟩
  · intro hsent
    rw [Sql.lex_eq_tokensFrom hsent, hread]
  · rw [← hm.captures, m.skeleton_read_iff]

/-- A negation on the right of an operator is not captured. -/
theorem compile_reads_as_tree_iff_conjunction :
    let c : Compiler := ⟨⟨[], false⟩, .inline, {}⟩
    let e := (Expr.parameter "p").and (.not ((Expr.parameter "q").eq .null))
    ∃ b, c.compile e = .ok b ∧ ∃ read tree, Sql.readWholeTerm (Sql.tokensFrom b.sql.text.toList) = .ok (read, []) ∧
      c.tree? e = some tree ∧ read.skeleton = tree := by
  intro c e
  have hcompile : c.compile e = .ok (.pure (.paren (.binary .and (.parameter "p")
      (.not (.paren (.paren (.binary .is (.parameter "q") .null))))))) := by
    rfl
  obtain ⟨read, tree, hread, -, htree, hiff⟩ := compile_reads_as_tree_iff hcompile
  exact ⟨_, hcompile, read, tree, hread, htree, hiff.2 rfl⟩

/-- A comparison with a negation on its left is read as the negation of a comparison. -/
theorem negation_takes_in_comparison :
    ¬ ∀ (c : Compiler) (e : Expr) (b : Bound Sql.Term), c.compile e = .ok b →
      ∃ read tree, Sql.readWholeTerm (Sql.tokensFrom b.sql.text.toList) = .ok (read, []) ∧ c.tree? e = some tree ∧
        read.skeleton = tree := by
  intro hall
  let t : Table := ⟨"t", [{ name := "a", property := "a", kind := .integer .i64 }], by decide⟩
  let c : Compiler := ⟨.single t, .inline, {}⟩
  let e := (Expr.not (.ofColumn "a")).eq (.constant (.integer .i64 1 (by decide)))
  let m : Emitted := .binary .eq (.not (.column none "a")) (.constant ⟨.literal (.integer 1), rfl⟩)
  have hcompile : c.compile e = .ok ⟨m.written, []⟩ := rfl
  obtain ⟨read, tree, hread, htree, heq⟩ := hall c e _ hcompile
  rw [m.readWholeTerm_written] at hread
  obtain ⟨rfl, -⟩ := Prod.mk.inj (Except.ok.inj hread)
  obtain rfl := Option.some.inj htree
  have hcaptured := m.skeleton_read_iff.1 heq
  exact absurd hcaptured (by decide)

end SqlMapper
