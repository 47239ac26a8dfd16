import Mathlib.Data.List.Chain
import SqlMapper.Proofs.Compiler.Spans

/-!
# Comparisons with null

A comparison with null by `=` or `!=` is never true. An equality or inequality whose right operand is the constant
null is therefore written as `IS NULL` or `IS NOT NULL`, wherever it stands in an expression; no other form is
rewritten. The forms that are left (`Expr.comparesNull`) are an equality or inequality with the constant null on its
left only, the method `Equals` on it, and `IsNullOrEmpty` of it. In an expression without them the literal `NULL`
stands nowhere next to a sign of equality.
-/

namespace SqlMapper

open Sql (Token Keyword Term parenTokens commaTokens tokensFrom)

/-! ## Null next to a sign of equality -/

/-- Whether an operator asks for equality or inequality. -/
def Sql.BinaryOp.isEquality : Sql.BinaryOp → Bool
  | .eq | .ne => true
  | _ => false

namespace Sql.Token

/-- Whether a token is a sign of equality or inequality. -/
def isEquality : Token → Bool
  | .symbol .eq | .symbol .ne => true
  | _ => false

/-- A token is neither the literal `NULL` nor a sign of equality. -/
def IsNeutral (t : Token) : Prop := t ≠ Keyword.token .null ∧ t.isEquality = false

/-- Of two tokens next to each other, not one is the literal `NULL` and the other a sign of equality. -/
def Apart (t u : Token) : Prop :=
  ¬(t = Keyword.token .null ∧ u.isEquality = true) ∧ ¬(t.isEquality = true ∧ u = Keyword.token .null)

instance (t : Token) : Decidable t.IsNeutral := inferInstanceAs (Decidable (_ ∧ _))

instance (t u : Token) : Decidable (t.Apart u) := inferInstanceAs (Decidable (_ ∧ _))

/-- A neutral token may stand next to any other. -/
theorem IsNeutral.apart_left {t : Token} (h : t.IsNeutral) (u : Token) : t.Apart u := by
  simp [Apart, h.1, h.2]

theorem IsNeutral.apart_right {u : Token} (h : u.IsNeutral) (t : Token) : t.Apart u := by
  simp [Apart, h.1, h.2]

end Sql.Token

/-- The literal `NULL` is nowhere next to a sign of equality. -/
def Sql.NullApart (ts : List Token) : Prop := ts.IsChain Token.Apart

instance (ts : List Token) : Decidable (Sql.NullApart ts) := inferInstanceAs (Decidable (ts.IsChain Token.Apart))

namespace Sql.NullApart

variable {t : Token} {l r : List Token}

theorem singleton (t : Token) : NullApart [t] := List.isChain_singleton t

/-- A neutral token in front changes nothing. -/
theorem cons (ht : t.IsNeutral) (hr : NullApart r) : NullApart (t :: r) :=
  List.isChain_cons.2 ⟨fun u _ => ht.apart_left u, hr⟩

/-- A neutral token keeps apart what stands on its two sides. -/
theorem append_cons (hl : NullApart l) (ht : t.IsNeutral) (hr : NullApart r) : NullApart (l ++ t :: r) := by
  refine List.isChain_append.2 ⟨hl, hr.cons ht, fun u _ v hv => ?_⟩
  obtain rfl := Option.some.inj hv
  exact ht.apart_right u

/-- Parentheses are neutral. -/
theorem paren (h : NullApart l) : NullApart (parenTokens l) :=
  (h.append_cons (by decide) .nil).cons (by decide)

theorem comma (hl : NullApart l) (hr : NullApart r) : NullApart (l ++ .symbol .comma :: r) :=
  hl.append_cons (by decide) hr

/-- So are the commas of a list. -/
theorem commaTokens {tss : List (List Token)} (h : ∀ ts ∈ tss, NullApart ts) : NullApart (commaTokens tss) := by
  fun_induction Sql.commaTokens tss with
  | case1 => exact .nil
  | case2 ts => exact h ts (by simp)
  | case3 ts rest _ ih => exact (h ts (by simp)).comma (ih fun us hus => h us (List.mem_cons_of_mem _ hus))

/-- An operator may have a null next to it unless it is a sign of equality. -/
theorem operator (op : Sql.BinaryOp) (hl : NullApart l) (hr : NullApart r)
    (h : op.isEquality = true → (∀ t ∈ l.getLast?, t.IsNeutral) ∧ ∀ t ∈ r.head?, t.IsNeutral) :
    NullApart (l ++ op.tokens ++ r) := by
  rw [List.append_assoc]
  have hequality : ∀ s : Sql.Symbol, op.isEquality = true → NullApart (l ++ .symbol s :: r) := by
    intro s hop
    refine List.isChain_append.2 ⟨hl, List.isChain_cons.2 ⟨fun u hu => ?_, hr⟩, fun u hu v _ => ?_⟩
    · exact ((h hop).2 u hu).apart_right _
    · exact ((h hop).1 u hu).apart_left _
  cases op with
  | eq => exact hequality .eq rfl
  | ne => exact hequality .ne rfl
  | isNot => exact hl.append_cons (by decide) (hr.cons (by decide))
  | _ => exact hl.append_cons (by decide) hr

end Sql.NullApart

/-- Whether a term compares the constant null by equality or inequality. -/
def Sql.Term.comparesNull : Sql.Term → Bool
  | .constant _ | .column _ _ | .word _ | .truth _ => false
  | .not x | .sign _ x | .apply _ x | .castText x | .paren x => x.comparesNull
  | .binary op l r =>
    (op.isEquality && (decide (l = .null) || decide (r = .null))) || l.comparesNull || r.comparesNull
  | .member item _ => item.comparesNull
  | .replace x old new => x.comparesNull || old.comparesNull || new.comparesNull

@[simp] theorem Sql.Term.string_ne_null (s : String) : Term.string s ≠ .null := nofun

@[simp] theorem Sql.Term.comparesNull_string (s : String) : (Term.string s).comparesNull = false := rfl

@[simp] theorem Sql.Term.comparesNull_null : Term.null.comparesNull = false := rfl

/-! ## Emitted terms -/

namespace Emitted

/-- The tokens of a constant other than null are neither `NULL` nor a sign of equality. -/
theorem isNeutral_of_mem_constant {c : Sql.Constant} (h : c ≠ .literal .null) : ∀ t ∈ c.tokens, t.IsNeutral := by
  have hnumber : ∀ minus digits, ∀ t ∈ Sql.numberTokens minus digits, t.IsNeutral := by
    intro minus digits t ht
    cases minus <;> simp [Sql.numberTokens] at ht
    · subst ht
      exact ⟨nofun, rfl⟩
    · obtain rfl | rfl := ht
      · decide
      · exact ⟨nofun, rfl⟩
  cases c with
  | place p => simp [Sql.Constant.tokens, Token.IsNeutral, Token.isEquality, Keyword.token]
  | literal v =>
    cases v with
    | null => exact absurd rfl h
    | integer n => exact hnumber _ _
    | real x => exact hnumber _ _
    | text s => simp [Sql.Constant.tokens, Sql.literalTokens, Token.IsNeutral, Token.isEquality, Keyword.token]
    | blob b => simp [Sql.Constant.tokens, Sql.literalTokens, Token.IsNeutral, Token.isEquality, Keyword.token]

/-- In the tokens of a constant nothing is next to a `NULL`. -/
theorem nullApart_constant (c : Sql.Constant) : Sql.NullApart c.tokens := by
  by_cases h : c = .literal .null
  · rw [h]
    exact .singleton _
  · have hneutral := isNeutral_of_mem_constant h
    generalize c.tokens = ts at hneutral ⊢
    induction ts with
    | nil => exact .nil
    | cons t ts ih =>
      obtain ⟨ht, hts⟩ := List.forall_mem_cons.1 hneutral
      exact (ih hts).cons ht

/-- A term other than null begins and ends with a token that is neither `NULL` nor a sign of equality. -/
theorem isNeutral_ends {m : Emitted} (h : m.tree ≠ .null) :
    (∀ t ∈ m.written.tokens.getLast?, t.IsNeutral) ∧ ∀ t ∈ m.written.tokens.head?, t.IsNeutral := by
  -- What is neither a constant nor a column ends with a parenthesis.
  have hclosed : ∀ (first : Token) (middle : List Token), first.IsNeutral →
      (∀ t ∈ (first :: middle ++ [Token.symbol .close]).getLast?, t.IsNeutral) ∧
        ∀ t ∈ (first :: middle ++ [Token.symbol .close]).head?, t.IsNeutral := by
    intro first middle hfirst
    refine ⟨fun t ht => ?_, fun t ht => ?_⟩
    · rw [List.getLast?_concat] at ht
      obtain rfl := Option.some.inj ht
      decide
    · obtain rfl := Option.some.inj ht
      exact hfirst
  cases m with
  | constant c =>
    have hneutral : ∀ t ∈ c.1.tokens, t.IsNeutral := by
      refine isNeutral_of_mem_constant fun hc => h ?_
      rw [← written_eq_null_iff, written, hc]
      rfl
    exact ⟨fun t ht => hneutral t (List.mem_of_mem_getLast? ht), fun t ht => hneutral t (List.mem_of_mem_head? ht)⟩
  | column table name =>
    cases table <;> simp [written, Term.tokens, Sql.columnTokens, Token.IsNeutral, Token.isEquality, Keyword.token]
  | not x => exact hclosed (Keyword.token .not) (.symbol .open :: _) (by decide)
  | apply f x => exact hclosed (.word f.text) (.symbol .open :: _) (by cases f <;> decide)
  | replace x old new => exact hclosed (.word "replace") (.symbol .open :: _) (by decide)
  | _ => exact hclosed (.symbol .open) _ (by decide)

/-- Where the tree of a term compares no null, no `NULL` is next to a sign of equality in its tokens. -/
theorem nullApart_written {m : Emitted} (h : m.tree.comparesNull = false) : Sql.NullApart m.written.tokens := by
  induction m with
  | constant c => exact nullApart_constant c.1
  | column table name =>
    cases table with
    | none => exact .singleton _
    | some t =>
      exact .cons (by simp [Token.IsNeutral, Token.isEquality, Keyword.token]) (.cons (by decide) (.singleton _))
  | not x ih => exact (ih h).paren.cons (by decide)
  | apply f x ih => exact (ih h).paren.cons (by cases f <;> decide)
  | binary op l r ihl ihr =>
    simp only [tree, Term.comparesNull, Bool.or_eq_false_iff] at h
    refine (Sql.NullApart.operator op (ihl h.1.2) (ihr h.2) fun hop => ?_).paren
    have hnull : l.tree ≠ .null ∧ r.tree ≠ .null := by simpa [hop] using h.1.1
    exact ⟨(isNeutral_ends hnull.1).1, (isNeutral_ends hnull.2).2⟩
  | member item set ih =>
    have hset : Sql.NullApart (commaTokens ((set.map (·.1)).map Sql.Constant.tokens)) := by
      refine .commaTokens fun ts hts => ?_
      obtain ⟨c, -, rfl⟩ := List.mem_map.1 hts
      exact nullApart_constant c
    exact ((ih h).append_cons (by decide) hset.paren).paren
  | replace x old new ihx ihold ihnew =>
    simp only [tree, Term.comparesNull, Bool.or_eq_false_iff] at h
    exact (((ihx h.1.1).comma (ihold h.1.2)).comma (ihnew h.2)).paren.cons (by decide)
  | contains x needle ihx ihneedle =>
    obtain ⟨hx, hneedle⟩ : x.tree.comparesNull = false ∧ needle.tree.comparesNull = false := by
      simpa [tree, Term.comparesNull, Sql.BinaryOp.isEquality] using h
    have hpercent : Sql.NullApart (Term.string "%").tokens := .singleton _
    have hfront := hpercent.operator .concat (ihneedle hneedle) fun h => absurd h (by decide)
    have hpattern := hfront.operator .concat hpercent fun h => absurd h (by decide)
    exact ((ihx hx).operator .like hpattern.paren fun h => absurd h (by decide)).paren
  | nullOrEmpty x ih =>
    obtain ⟨hx, hne, -⟩ : x.tree.comparesNull = false ∧ x.tree ≠ .null ∧ x.tree.comparesNull = false := by
      simpa [tree, Term.comparesNull, Sql.BinaryOp.isEquality] using h
    have hnull := (ih hx).operator .is (.singleton _ : Sql.NullApart Term.null.tokens) fun h => absurd h (by decide)
    have hempty := (ih hx).operator .eq (.singleton _ : Sql.NullApart (Term.string "").tokens) fun _ =>
      ⟨(isNeutral_ends hne).1, (isNeutral_ends (m := .constant (.text "")) fun h => by cases h).2⟩
    exact (hnull.operator .or hempty fun h => absurd h (by decide)).paren

end Emitted

/-! ## Expressions that compare null -/

/-- Whether an expression is the constant null, conversions aside. -/
def Expr.isNullConstant : Expr → Bool
  | .constant .null => true
  | .convert x _ => x.isNullConstant
  | _ => false

/-- Whether a method compares an operand by equality that is null, given which of its operands are. -/
def Method.comparesNull : Method → List Bool → Bool
  | .equals, [a, b] => a || b
  | .isNullOrEmpty, [a] => a
  | _, _ => false

/-- Whether a call compares one of the nulls among its operands. -/
def Expr.callComparesNull (name : String) (nulls : List Bool) : Bool :=
  (Method.ofName? name).any fun m => m.comparesNull nulls

/-- Whether the root of an expression compares the constant null by equality without being written as a test for
null. -/
def Expr.comparesNull : Expr → Bool
  | .binary op l r => op.toSql?.any Sql.BinaryOp.isEquality && l.isNullConstant && !r.isNullConstant
  | .method name x args => Expr.callComparesNull name (x.isNullConstant :: args.map Expr.isNullConstant)
  | .call name args => Expr.callComparesNull name (args.map Expr.isNullConstant)
  | _ => false

/-- Whether a method's tree compares null is told by its operands. No method is null. -/
theorem Method.tree?_comparesNull {m : Method} {ts : List Term} {t : Term} (h : m.tree? ts = some t) :
    t ≠ .null ∧ t.comparesNull = (m.comparesNull (ts.map fun u => decide (u = .null)) || ts.any Term.comparesNull) := by
  rcases ts with _ | ⟨a, _ | ⟨b, _ | ⟨c, _ | ⟨d, ts⟩⟩⟩⟩
  · cases m <;> cases h
  · cases m <;> cases h <;>
      exact ⟨nofun, by
        cases ha : a.comparesNull <;> simp [Term.comparesNull, Sql.BinaryOp.isEquality, Method.comparesNull, ha]⟩
  · cases m <;> cases h <;>
      exact ⟨nofun, by simp [Term.comparesNull, Sql.BinaryOp.isEquality, Method.comparesNull, Bool.or_assoc]⟩
  · cases m <;> cases h
    exact ⟨nofun, by simp [Term.comparesNull, Method.comparesNull, Bool.or_assoc]⟩
  · cases m <;> cases h

/-- A tree stands for an expression as far as nulls are concerned: it is null if the expression is, and compares no
null if no node of the expression does. -/
structure Expr.NullsAs (x : Expr) (t : Term) : Prop where
  isNull : decide (t = .null) = x.isNullConstant
  comparesNull : (∀ y, .root y ∈ x.nodes → y.comparesNull = false) → t.comparesNull = false

namespace Compiler

variable {c : Compiler}

/-- There is an answer for each operand. -/
theorem trees?_eq_map (xs : List Expr) : c.trees? xs = xs.map c.tree? := by
  induction xs with
  | nil => rfl
  | cons x rest ih => rw [trees?, List.map_cons, ih]

/-- The trees of operands, if there are all, with what is said of each operand and its tree. -/
theorem trees?_eq_some {R : Expr → Term → Prop} {xs : List Expr} (hxs : ∀ x ∈ xs, ∀ t, c.tree? x = some t → R x t)
    {ts : List Term} (h : (c.trees? xs).mapM id = some ts) : List.Forall₂ R xs ts := by
  have htrees : List.Forall₂ (fun x t => c.tree? x = some t) xs ts := by
    rw [trees?_eq_map] at h
    exact List.forall₂_map_left_iff.1 (forall₂_of_mapM_some h)
  have hboth := (List.forall₂_and_left xs ts).2 ⟨hxs, htrees⟩
  exact hboth.imp fun x t hx => hx.1 t hx.2

/-- What a call has a tree for: a membership, or a method on all its operands. -/
theorem callTree?_eq_some {R : Expr → Term → Prop} {name : String} {xs : List Expr}
    (hxs : ∀ x ∈ xs, ∀ t, c.tree? x = some t → R x t) {t : Term}
    (h : c.callTree? name (xs.head?.bind Expr.values?) (c.trees? xs) = some t) :
    (∃ item u set, t = .member u set ∧ R item u ∧
      ∀ n ∈ item.nodes, n ∈ Expr.operandNodes name (xs.head?.bind Expr.values?) (Expr.nodesEach xs)) ∨
    ∃ m us, Method.ofName? name = some m ∧ m.tree? us = some t ∧ List.Forall₂ R xs us ∧
      Expr.operandNodes name (xs.head?.bind Expr.values?) (Expr.nodesEach xs) = (xs.map Expr.nodes).flatten := by
  cases hm : Method.ofName? name with
  | none =>
    unfold callTree? at h
    rw [hm] at h
    cases h
  | some m =>
    rcases m.member_or_not (xs.head?.bind Expr.values?) xs with ⟨values, x, item, rfl, hvalues, rfl⟩ | hmember
    · obtain rfl := eq_list_of_values? hvalues
      unfold callTree? at h
      rw [hm, Option.bind_eq_bind, Option.bind_some] at h
      obtain ⟨u, hu, h⟩ := Option.bind_eq_some_iff.1 h
      obtain ⟨set, -, h⟩ := Option.bind_eq_some_iff.1 h
      refine .inl ⟨item, u, _, (Option.some.inj h).symm, hxs item (by simp) u hu, fun n hn => ?_⟩
      simp [Expr.operandNodes, hm, Expr.values?, Expr.nodesEach, hn]
    · have hlist : ¬(m = .contains ∧ (xs.head?.bind Expr.values?).isSome = true ∧ (c.trees? xs).length = 2) := by
        rwa [trees?_eq_map, List.length_map]
      rw [Emitted.callTree?_of_not_member hm hlist] at h
      obtain ⟨us, hus, h⟩ := Option.bind_eq_some_iff.1 h
      refine .inr ⟨m, us, rfl, h, trees?_eq_some hxs hus, ?_⟩
      rw [Expr.operandNodes_of_not_member, nodesEach_eq_map]
      intro hcontains hset hlength
      refine hmember ⟨Option.some.inj (hm.symm.trans hcontains), hset, ?_⟩
      simpa [nodesEach_eq_map] using hlength

/-- The operands compare no null if no node of them does. -/
theorem any_comparesNull_eq_false {xs : List Expr} {us : List Term} (h : List.Forall₂ Expr.NullsAs xs us)
    (hnodes : ∀ y, .root y ∈ (xs.map Expr.nodes).flatten → y.comparesNull = false) :
    us.any Term.comparesNull = false := by
  induction h with
  | nil => rfl
  | cons hfirst _ ih =>
    simp only [List.map_cons, List.flatten_cons, List.mem_append] at hnodes
    rw [List.any_cons, hfirst.comparesNull fun y hy => hnodes y (.inl hy), ih fun y hy => hnodes y (.inr hy)]
    rfl

/-- A call is not null, and compares none unless its method does or a node of its operands. -/
theorem callTree?_comparesNull {name : String} {xs : List Expr}
    (hxs : ∀ x ∈ xs, ∀ t, c.tree? x = some t → x.NullsAs t) {t : Term}
    (h : c.callTree? name (xs.head?.bind Expr.values?) (c.trees? xs) = some t) :
    t ≠ .null ∧ (Expr.callComparesNull name (xs.map Expr.isNullConstant) = false →
      (∀ y, .root y ∈ Expr.operandNodes name (xs.head?.bind Expr.values?) (Expr.nodesEach xs) →
        y.comparesNull = false) → t.comparesNull = false) := by
  obtain ⟨item, u, set, rfl, hu, hitem⟩ | ⟨m, us, hm, ht, hus, hflatten⟩ := callTree?_eq_some hxs h
  · exact ⟨nofun, fun _ hnodes => hu.comparesNull fun y hy => hnodes y (hitem _ hy)⟩
  · obtain ⟨hne, hcompares⟩ := Method.tree?_comparesNull ht
    refine ⟨hne, fun hcall hnodes => ?_⟩
    have hnulls : us.map (fun u => decide (u = .null)) = xs.map Expr.isNullConstant := by
      rw [← List.forall₂_eq_eq_eq, List.forall₂_map_left_iff, List.forall₂_map_right_iff]
      exact hus.flip.imp fun u x hu => hu.isNull
    rw [hflatten] at hnodes
    rw [hcompares, hnulls, any_comparesNull_eq_false hus hnodes, Bool.or_false]
    simpa [Expr.callComparesNull, hm] using hcall

/-- Only for the scalar null the constant null stands. -/
theorem reread_eq_null_iff {s : Scalar} {k : Sql.Constant} (h : c.leaf? s = some k) :
    Term.constant k.reread = .null ↔ s = .null := by
  have hwritten := Emitted.written_eq_null_iff (.constant ⟨k, writable_of_leaf h⟩)
  rw [Emitted.tree] at hwritten
  rw [← hwritten, Emitted.written]
  obtain ⟨v, hv, -, rfl⟩ := leaf?_eq_some_iff.1 h
  rw [← toNative_eq_null_iff hv, ← v.leaf_eq_null_iff c.style, Term.null, Term.constant.injEq]

mutual

/-- The tree of an expression is null if the expression is, and compares no null if no node of the expression does. -/
theorem nullsAs_tree : ∀ (x : Expr) (t : Term), c.tree? x = some t → x.NullsAs t
  | .constant s, t, h => by
    obtain ⟨k, hk, rfl⟩ := Option.map_eq_some_iff.1 h
    refine ⟨?_, fun _ => rfl⟩
    rw [Bool.eq_iff_iff, decide_eq_true_iff, reread_eq_null_iff hk]
    cases s <;> simp [Expr.isNullConstant]
  | .list values, t, h => by cases h
  | .parameter name, t, h => by
    obtain rfl := Option.some.inj h
    exact ⟨rfl, fun _ => rfl⟩
  | .column ref, t, h => by
    obtain ⟨owner, -, rfl⟩ := Option.map_eq_some_iff.1 h
    exact ⟨rfl, fun _ => rfl⟩
  | .binary op left right, t, h => by
    obtain ⟨o, ho, h⟩ := Option.bind_eq_some_iff.1 h
    obtain ⟨l, hl, h⟩ := Option.bind_eq_some_iff.1 h
    obtain ⟨r, hr, h⟩ := Option.bind_eq_some_iff.1 h
    obtain rfl := Option.some.inj h
    have hleft := nullsAs_tree left l hl
    have hright := nullsAs_tree right r hr
    refine ⟨rfl, fun hnodes => ?_⟩
    simp only [Expr.nodes, List.mem_cons, List.mem_append] at hnodes
    have hroot := hnodes _ (.inl rfl)
    have hlnone := hleft.comparesNull fun y hy => hnodes y (.inr (.inl hy))
    have hrnone := hright.comparesNull fun y hy => hnodes y (.inr (.inr hy))
    rw [Expr.comparesNull, ho, Option.any_some, ← hleft.isNull, ← hright.isNull] at hroot
    rw [Sql.BinaryOp.tree, Term.comparesNull, hlnone, hrnone, Bool.or_false, Bool.or_false]
    by_cases hr : r = .null
    · have hnullTest : o.nullTest.isEquality = false := by
        cases o <;> rfl
      simp [hr, hnullTest]
    · simpa [hr] using hroot
  | .not x, t, h => by
    obtain ⟨u, hu, rfl⟩ := Option.map_eq_some_iff.1 h
    refine ⟨rfl, fun hnodes => ?_⟩
    exact (nullsAs_tree x u hu).comparesNull fun y hy => hnodes y (List.mem_cons_of_mem _ hy)
  | .method name receiver args, t, h => by
    have hoperands : ∀ x ∈ receiver :: args, ∀ t, c.tree? x = some t → x.NullsAs t :=
      List.forall_mem_cons.2 ⟨nullsAs_tree receiver, nullsAs_trees args⟩
    obtain ⟨hne, hcompares⟩ := callTree?_comparesNull hoperands h
    refine ⟨decide_eq_false hne, fun hnodes => hcompares (hnodes _ List.mem_cons_self) fun y hy => ?_⟩
    exact hnodes y (List.mem_cons_of_mem _ hy)
  | .call name args, t, h => by
    obtain ⟨hne, hcompares⟩ := callTree?_comparesNull (nullsAs_trees args) h
    refine ⟨decide_eq_false hne, fun hnodes => hcompares (hnodes _ List.mem_cons_self) fun y hy => ?_⟩
    exact hnodes y (List.mem_cons_of_mem _ hy)
  | .convert x kind, t, h => by
    obtain ⟨hnull, hcompares⟩ := nullsAs_tree x t h
    exact ⟨hnull, fun hnodes => hcompares fun y hy => hnodes y (List.mem_cons_of_mem _ hy)⟩

/-- So are the trees of operands. -/
theorem nullsAs_trees : ∀ (xs : List Expr), ∀ x ∈ xs, ∀ t, c.tree? x = some t → x.NullsAs t
  | [] => List.forall_mem_nil _
  | x :: rest => List.forall_mem_cons.2 ⟨nullsAs_tree x, nullsAs_trees rest⟩

end

end Compiler

/-! ## Tests for null -/

namespace Compiler

variable (c : Compiler)

/-- The constant null is the one token `NULL`. -/
theorem tokens?_of_isNullConstant {x : Expr} (h : x.isNullConstant = true) :
    c.tokens? x = some [Keyword.token .null] := by
  fun_induction Expr.isNullConstant x with
  | case1 => rfl
  | case2 x kind ih => exact ih h
  | case3 => cases h

/-- An expression that has tokens is compiled to text that is read as them. -/
theorem compile_of_tokens? {x : Expr} {ts : List Token} (h : c.tokens? x = some ts) :
    ∃ b, c.compile x = .ok b ∧ tokensFrom b.sql.text.toList = ts := by
  rw [c.tokens?_eq] at h
  cases hb : c.compile x with
  | error e => simp [hb, Except.toOption] at h
  | ok b => exact ⟨b, rfl, by simpa [hb, Except.toOption] using h⟩

end Compiler

/-- Where an equality or inequality has the constant null on its right, at any depth, its tokens are those of the
left operand and a test for null. Where no node compares the constant null in another way, the literal `NULL` is
nowhere next to a sign of equality, and neither is it an operand of one in what is read, unless a negation is
captured. -/
theorem equality_with_null_is_test {c : Compiler} {x : Expr} {b : Bound Term} (h : c.compile x = .ok b) :
    (∀ op test, (op, test) ∈ [(Operator.eq, [Keyword.is, .null]), (.ne, [.is, .not, .null])] →
      ∀ l r, .root (.binary op l r) ∈ x.nodes → r.isNullConstant = true →
        ∃ left, c.compile l = .ok left ∧
          parenTokens (tokensFrom left.sql.text.toList ++ test.map Keyword.token) <:+: tokensFrom b.sql.text.toList) ∧
    ((∀ y, .root y ∈ x.nodes → y.comparesNull = false) →
      Sql.NullApart (tokensFrom b.sql.text.toList) ∧
        ∃ read, Sql.readWholeTerm (tokensFrom b.sql.text.toList) = .ok (read, []) ∧
          (x.capturesNot = false → read.skeleton.comparesNull = false)) := by
  obtain ⟨m, hm⟩ := Emitted.compile_emits x b h
  refine ⟨fun op test hop l r hnode hr => ?_, fun hnodes => ?_⟩
  · have htokens : c.tokens? x = some (tokensFrom b.sql.text.toList) := by
      rw [c.tokens?_eq, h]
      rfl
    obtain ⟨us, hus, hin⟩ := c.spans_nodes x _ htokens _ hnode
    obtain ⟨ls, hls, hus⟩ := Option.bind_eq_some_iff.1 hus
    obtain ⟨rs, hrs, hus⟩ := Option.bind_eq_some_iff.1 hus
    rw [c.tokens?_of_isNullConstant hr] at hrs
    obtain rfl := Option.some.inj hrs
    obtain ⟨left, hleft, rfl⟩ := c.compile_of_tokens? hls
    refine ⟨left, hleft, ?_⟩
    have htest : op.emit? (tokensFrom left.sql.text.toList) [Keyword.token .null] =
        some (parenTokens (tokensFrom left.sql.text.toList ++ test.map Keyword.token)) := by
      simp only [List.mem_cons, Prod.mk.injEq, List.not_mem_nil, or_false] at hop
      obtain ⟨rfl, rfl⟩ | ⟨rfl, rfl⟩ := hop <;> simp [Operator.emit?, Operator.tokens?]
    obtain rfl := Option.some.inj (htest.symm.trans hus)
    exact hin
  · have hnone := (Compiler.nullsAs_tree x _ hm.tree).comparesNull hnodes
    have htokens := m.tokensFrom_written
    have hread := m.readWholeTerm_written
    rw [← hm.written] at htokens hread
    refine ⟨?_, m.read, hread, fun hcaptures => ?_⟩
    · rw [htokens, hm.written]
      exact Emitted.nullApart_written hnone
    · rw [← hm.captures] at hcaptures
      rwa [m.skeleton_read_iff.2 hcaptures]

/-- An inequality with a converted null on its right, and an equality with null on both sides. -/
theorem equality_with_null_is_test_converted :
    let c : Compiler := ⟨⟨[], false⟩, .positional, {}⟩
    let p := Expr.parameter "p"
    ∃ b, c.compile ((Expr.not (p.ne (.convert .null .text))).and (Expr.null.eq .null)) = .ok b ∧
      (∃ left, c.compile p = .ok left ∧
        parenTokens (tokensFrom left.sql.text.toList ++ [Keyword.is, .not, .null].map Keyword.token) <:+:
          tokensFrom b.sql.text.toList) ∧
      Sql.NullApart (tokensFrom b.sql.text.toList) := by
  intro c p
  have hcompile : c.compile ((Expr.not (p.ne (.convert .null .text))).and (Expr.null.eq .null)) =
      .ok (.pure (.paren (.binary .and (.not (.paren (.paren (.binary .isNot (.parameter "p") .null))))
        (.paren (.binary .is .null .null))))) := by
    rfl
  obtain ⟨htests, hapart⟩ := equality_with_null_is_test hcompile
  have hnodes : ((Expr.not (p.ne (.convert .null .text))).and (Expr.null.eq .null)).nodes =
      [.root ((Expr.not (p.ne (.convert .null .text))).and (Expr.null.eq .null)),
        .root (.not (p.ne (.convert .null .text))), .root (p.ne (.convert .null .text)), .root p,
        .root (.convert .null .text), .root .null, .root (Expr.null.eq .null),
        .root .null, .root .null] := rfl
  rw [hnodes] at htests hapart
  refine ⟨_, hcompile,
    htests .ne [.is, .not, .null] (by decide) p (.convert .null .text) (by simp [Expr.ne]) rfl, (hapart ?_).1⟩
  intro y hy
  simp only [List.mem_cons, Expr.Node.root.injEq, List.not_mem_nil, or_false] at hy
  obtain rfl | rfl | rfl | rfl | rfl | rfl | rfl | rfl | rfl := hy <;> rfl

/-- A comparison with null by a method or with null on the left is none with a test. -/
theorem null_compared_by_method_or_on_left :
    let t : Table := ⟨"t", [{ name := "a", property := "a", kind := .integer .i64 }], by decide⟩
    let c : Compiler := ⟨.single t, .inline, {}⟩
    let a := Expr.ofColumn "a"
    ∀ x ∈ [a.equals .null, Expr.null.eq a, Expr.null.isNullOrEmpty],
      ∃ b, c.compile x = .ok b ∧ ¬Sql.NullApart (tokensFrom b.sql.text.toList) := by
  intro t c a
  simp only [List.forall_mem_cons, List.not_mem_nil, false_imp_iff, implies_true, and_true]
  let column : Emitted := .column none "a"
  let null : Emitted := .constant .null
  have hemitted : ∀ m : Emitted, ¬Sql.NullApart m.written.tokens →
      ¬Sql.NullApart (tokensFrom m.written.text.toList) := by
    intro m h
    rwa [m.tokensFrom_written]
  refine ⟨⟨⟨(Emitted.binary .eq column null).written, []⟩, rfl, hemitted _ (by decide)⟩,
    ⟨⟨(Emitted.binary .eq null column).written, []⟩, rfl, hemitted _ (by decide)⟩,
    ⟨⟨(Emitted.nullOrEmpty null).written, []⟩, rfl, hemitted _ (by decide)⟩⟩

end SqlMapper
