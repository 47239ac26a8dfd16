import Mathlib.Data.List.Basic
import Mathlib.Data.List.Forall2
import SqlMapper.Proofs.Compiler.Compile

/-!
# The grammar of expressions

Which expressions are compiled is said by a grammar (`Expr.WellFormed`), one rule for each sort of expression and
one for each of the two forms of a membership. Why the others are not is said node by node: the nodes of an
expression come in the order in which they are compiled (`Expr.nodes`), and what is the matter with a node is told
without its operands (`Compiler.fault?`). An expression fails with the fault of the first node that has one, and is
in the grammar when no node has.
-/

namespace SqlMapper

/-! ## The grammar -/

/-- A constant can be stored, and not as a real that is not finite. -/
def Compiler.Accepts (c : Compiler) (s : Scalar) : Prop :=
  ∃ v, s.toNative c.coercion = .ok v ∧ ∀ x, v = .real x → x.isFinite = true

/-- The expressions that are compiled. -/
inductive Expr.WellFormed (c : Compiler) : Expr → Prop where
  | constant {s : Scalar} (h : c.Accepts s) : WellFormed c (.constant s)
  | parameter {name : String} (hne : name ≠ "") (h : ∀ char ∈ name.toList, char.isAlphanum = true ∨ char = '_') :
    WellFormed c (.parameter name)
  | column {ref : ColumnRef} {t : Table} {col : Column} (h : c.scope.resolve ref = .ok (t, col)) :
    WellFormed c (.column ref)
  | binary {op : Operator} {text : String} {left right : Expr} (ho : op.sql? = some text) (hl : WellFormed c left)
    (hr : WellFormed c right) : WellFormed c (.binary op left right)
  | not {x : Expr} (h : WellFormed c x) : WellFormed c (.not x)
  | convert {x : Expr} {k : Kind} (h : WellFormed c x) : WellFormed c (.convert x k)
  | listContains {values : List Scalar} {item : Expr} (hv : ∀ s ∈ values, c.Accepts s) (hi : WellFormed c item) :
    WellFormed c (.method "Contains" (.list values) [item])
  | containsIn {values : List Scalar} {item : Expr} (hv : ∀ s ∈ values, c.Accepts s) (hi : WellFormed c item) :
    WellFormed c (.call "Contains" [.list values, item])
  | method {name : String} {m : Method} {receiver : Expr} {args : List Expr} (hm : Method.ofName? name = some m)
    (ha : args.length + 1 = m.arity) (hr : WellFormed c receiver) (h : ∀ x ∈ args, WellFormed c x) :
    WellFormed c (.method name receiver args)
  | call {name : String} {m : Method} {args : List Expr} (hm : Method.ofName? name = some m)
    (ha : args.length = m.arity)
    (h : ∀ x ∈ args, WellFormed c x) : WellFormed c (.call name args)

/-! ## Nodes and their faults -/

/-- A node of an expression: the root of an expression in it, or a member of a set of constants. -/
inductive Expr.Node where
  | root (x : Expr)
  | member (s : Scalar)

/-- The nodes of the operands of a call. In a membership they are those of the item, and then the members of the set. -/
def Expr.operandNodes (name : String) (set : Option (List Scalar)) (operands : List (List Expr.Node)) :
    List Expr.Node :=
  match Method.ofName? name, set, operands with
  | some .contains, some values, [_, item] => item ++ values.map .member
  | _, _, _ => operands.flatten

/-- The nodes of the operands of a call that is no membership come one operand after another. -/
theorem Expr.operandNodes_of_not_member {name : String} {set : Option (List Scalar)} {operands : List (List Expr.Node)}
    (h : Method.ofName? name = some .contains → set.isSome = true → operands.length = 2 → False) :
    Expr.operandNodes name set operands = operands.flatten := by
  unfold Expr.operandNodes
  split
  · rename_i hm
    exact (h hm rfl rfl).elim
  · rfl

mutual

/-- The nodes of an expression in the order in which they are compiled. -/
def Expr.nodes : Expr → List Expr.Node
  | .binary op left right => .root (.binary op left right) :: (left.nodes ++ right.nodes)
  | .not x => .root (.not x) :: x.nodes
  | .convert x k => .root (.convert x k) :: x.nodes
  | .method name receiver args =>
    .root (.method name receiver args) :: Expr.operandNodes name receiver.values?
      (receiver.nodes :: Expr.nodesEach args)
  | .call name args =>
    .root (.call name args) :: Expr.operandNodes name (args.head?.bind Expr.values?) (Expr.nodesEach args)
  | .constant s => [.root (.constant s)]
  | .list values => [.root (.list values)]
  | .parameter name => [.root (.parameter name)]
  | .column ref => [.root (.column ref)]

/-- The nodes of expressions, one by one. -/
def Expr.nodesEach : List Expr → List (List Expr.Node)
  | [] => []
  | x :: rest => x.nodes :: Expr.nodesEach rest

end

/-- The error of a computation that fails. -/
def errorOf {α : Type} : Except Error α → Option Error
  | .error e => some e
  | .ok _ => none

namespace Compiler

variable (c : Compiler)

/-- What is the matter with a constant. -/
def constantFault? (s : Scalar) : Option Error :=
  match s.toNative c.coercion with
  | .error e => some (.coercion e)
  | .ok (.real x) => if x.isFinite then none else some (.expression (.nonFinite x))
  | .ok _ => none

/-- What is the matter with a call on a number of operands. -/
def callFault? (name : String) (operands : Nat) : Option Error :=
  match Method.ofName? name with
  | none => some (.unknownMethod name)
  | some m => if operands = m.arity then none else some (.expression (.arity name m.arity operands))

/-- What is the matter with a node, leaving its operands aside. -/
def fault? : Expr.Node → Option Error
  | .member s => c.constantFault? s
  | .root (.constant s) => c.constantFault? s
  | .root (.list _) => some (.expression .listOutsideMembership)
  | .root (.parameter name) => if isParameterName name then none else some (.expression (.parameterName name))
  | .root (.column ref) => errorOf (c.scope.resolve ref)
  | .root (.binary op _ _) => if op.sql?.isSome then none else some (.operator op)
  | .root (.method name _ args) => callFault? name (args.length + 1)
  | .root (.call name args) => callFault? name args.length
  | .root (.not _) => none
  | .root (.convert _ _) => none

end Compiler

/-! ## Errors of compilations -/

section Errors

variable {α β : Type}

/-- Of two steps, the first that fails gives the error. -/
theorem errorOf_bind {x : Except Error α} {f : α → Except Error β} {next : Option Error}
    (h : ∀ a, x = .ok a → errorOf (f a) = next) : errorOf (x >>= f) = (errorOf x).or next := by
  cases x with
  | error e => rfl
  | ok a => exact h a rfl

/-- What comes after a step that does not fail has no part in the error. -/
theorem errorOf_map {x : Except Error α} {f : α → β} : errorOf (x >>= fun a => pure (f a)) = errorOf x := by
  cases x <;> rfl

theorem errorOf_eq_some_iff {x : Except Error α} {e : Error} : errorOf x = some e ↔ x = .error e := by
  cases x <;> simp [errorOf]

/-- What has no error has a result. -/
theorem errorOf_eq_none_iff {x : Except Error α} : errorOf x = none ↔ ∃ a, x = .ok a := by
  cases x <;> simp [errorOf]

/-- The first value that is found is that of the first item, if it has one. -/
theorem findSome?_cons_eq_or (f : α → Option β) (a : α) (as : List α) :
    (a :: as).findSome? f = (f a).or (as.findSome? f) := by
  rw [List.findSome?_cons]
  cases f a <;> rfl

/-- The first error among operands is the first value that is found in any of their lists. -/
theorem findSome?_flatten {γ : Type} {f : β → Option Error} {xs : List (Except Error γ)} {lists : List (List β)}
    (h : List.Forall₂ (fun x list => errorOf x = list.findSome? f) xs lists) :
    lists.flatten.findSome? f = xs.findSome? errorOf := by
  induction h with
  | nil => rfl
  | cons hfirst _ ih => rw [List.flatten_cons, List.findSome?_append, ih, findSome?_cons_eq_or, hfirst]

/-- Operands fail with the first of their errors. -/
theorem errorOf_collect (xs : List (Except Error (Bound α))) : errorOf (Bound.collect xs) = xs.findSome? errorOf := by
  induction xs with
  | nil => rfl
  | cons x rest ih =>
    rw [Bound.collect, errorOf_bind fun _ _ => errorOf_map, ih, findSome?_cons_eq_or]

/-- As many operands are collected as there were. -/
theorem length_collect {xs : List (Except Error (Bound α))} {b : Bound (List α)} (h : Bound.collect xs = .ok b) :
    b.sql.length = xs.length := by
  induction xs generalizing b with
  | nil =>
    obtain rfl := Except.ok.inj h
    rfl
  | cons x rest ih =>
    obtain ⟨first, -, h⟩ := bind_eq_ok h
    obtain ⟨others, hothers, h⟩ := bind_eq_ok h
    obtain rfl := Except.ok.inj h
    rw [List.length_cons, List.length_cons, ih hothers]

end Errors

/-- A method has a term on as many operands as it takes. -/
theorem Method.errorOf_apply {m : Method} {operands : Bound (List Sql.Term)} (h : operands.sql.length = m.arity) :
    errorOf (m.apply operands) = none := by
  have hterm : ∃ t, m.term? operands.sql = some t := by
    generalize operands.sql = terms at h
    rcases terms with _ | ⟨a, _ | ⟨b, _ | ⟨c, _ | ⟨d, terms⟩⟩⟩⟩
    · cases m <;> cases h
    · cases m <;> first | exact ⟨_, rfl⟩ | cases h
    · cases m <;> first | exact ⟨_, rfl⟩ | cases h
    · cases m <;> first | exact ⟨_, rfl⟩ | cases h
    · cases m <;> simp [Method.arity] at h
  obtain ⟨t, ht⟩ := hterm
  simp only [Method.apply, ht]
  rfl

/-- A method is found under its name and no other. -/
theorem Method.ofName?_eq_some_iff {name : String} {m : Method} : Method.ofName? name = some m ↔ name = m.name := by
  constructor
  · intro h
    have hname := List.find?_some h
    exact (of_decide_eq_true hname).symm
  · rintro rfl
    cases m <;> rfl

namespace Compiler

variable (c : Compiler)

/-- A constant fails with its own fault. -/
theorem errorOf_constant (s : Scalar) : errorOf (c.constant s) = c.constantFault? s := by
  have hsent : ∀ v : Native, errorOf (if v.isNull || c.style = .inline then pure (⟨.literal v, []⟩ : Bound Sql.Constant)
      else pure ⟨.placeholder, [v]⟩) = none := by
    intro v
    split <;> rfl
  unfold Compiler.constant constantFault?
  cases s.toNative c.coercion with
  | error e => rfl
  | ok v =>
    show errorOf (v.checkLiteral >>= fun v => _) = _
    rw [errorOf_bind fun v _ => hsent v, Option.or_none]
    cases v with
    | real x =>
      simp only [Native.checkLiteral]
      split <;> rfl
    | _ => rfl

/-- Constants fail with the first of their errors. -/
theorem errorOf_constants (values : List Scalar) :
    errorOf (c.constants values) = (values.map Expr.Node.member).findSome? c.fault? := by
  induction values with
  | nil => rfl
  | cons s rest ih =>
    rw [Compiler.constants, errorOf_bind fun _ _ => errorOf_map, errorOf_constant, ih, List.map_cons,
      findSome?_cons_eq_or]
    rfl

/-- A call fails because of its name or the number of its operands, or with the first fault among the nodes of its
operands. -/
theorem errorOf_invoke (name : String) (set : Option (List Scalar)) {xs : List (Except Error (Bound Sql.Term))}
    {nodes : List (List Expr.Node)} (h : List.Forall₂ (fun x ns => errorOf x = ns.findSome? c.fault?) xs nodes) :
    errorOf (c.invoke name set xs) =
      (callFault? name xs.length).or ((Expr.operandNodes name set nodes).findSome? c.fault?) := by
  cases hm : Method.ofName? name with
  | none => simp [Compiler.invoke, callFault?, hm, errorOf]
  | some m =>
    rcases m.member_or_not set xs with ⟨values, x, item, rfl, rfl, rfl⟩ | hmember
    · obtain ⟨n, k, rfl, -, hitem⟩ := forall₂_pair h
      have hnodes : Expr.operandNodes name (some values) [n, k] = k ++ values.map .member := by
        simp [Expr.operandNodes, hm]
      have hfault : callFault? name [x, item].length = none := by simp [callFault?, hm, Method.arity]
      rw [c.invoke_member hm, hnodes, hfault, Option.none_or, List.findSome?_append, ← hitem, ← c.errorOf_constants]
      exact errorOf_bind fun _ _ => errorOf_map
    · have hnodes : Expr.operandNodes name set nodes = nodes.flatten := by
        refine Expr.operandNodes_of_not_member fun hcontains hset hlength =>
          hmember ⟨?_, hset, h.length_eq.trans hlength⟩
        exact Option.some.inj (hm.symm.trans hcontains)
      rw [c.invoke_of_not_member hm hmember, hnodes, findSome?_flatten h, callFault?, hm]
      dsimp only
      split
      · rename_i harity
        rw [errorOf_bind fun b hb => Method.errorOf_apply ((length_collect hb).trans harity), errorOf_collect,
          Option.or_none, Option.none_or]
      · rfl

mutual

/-- An expression fails with the first fault among its nodes. -/
theorem errorOf_compile : ∀ x : Expr, errorOf (c.compile x) = x.nodes.findSome? c.fault?
  | .constant s => by
    rw [Compiler.compile, errorOf_map, errorOf_constant, Expr.nodes, findSome?_cons_eq_or]
    simp [fault?]
  | .list values => rfl
  | .parameter name => by
    rw [Compiler.compile, Expr.nodes, findSome?_cons_eq_or, fault?]
    split <;> rfl
  | .column ref => by
    rw [Compiler.compile, errorOf_map, Expr.nodes, findSome?_cons_eq_or]
    simp [fault?]
  | .binary op left right => by
    have hoperands : ∀ o : Sql.BinaryOp, errorOf (do
        let l ← c.compile left
        let r ← c.compile right
        return ⟨.operate o l.sql r.sql, l.params ++ r.params⟩ : Except Error (Bound Sql.Term)) =
          (left.nodes ++ right.nodes).findSome? c.fault? := by
      intro o
      rw [errorOf_bind fun _ _ => errorOf_map, errorOf_compile left, errorOf_compile right, List.findSome?_append]
    rw [Compiler.compile, Expr.nodes, findSome?_cons_eq_or]
    simp only [fault?, Operator.sql?, Option.isSome_map]
    cases op.toSql? with
    | none => rfl
    | some o => exact hoperands o
  | .not x => by
    rw [Compiler.compile, errorOf_map, errorOf_compile x]
    rfl
  | .method name receiver args => by
    rw [Compiler.compile,
      c.errorOf_invoke name _ (.cons (errorOf_compile receiver) (errorOf_compileEach args)), Expr.nodes,
      findSome?_cons_eq_or, List.length_cons, c.length_compileEach]
    rfl
  | .call name args => by
    rw [Compiler.compile, c.errorOf_invoke name _ (errorOf_compileEach args), Expr.nodes, findSome?_cons_eq_or,
      c.length_compileEach]
    rfl
  | .convert x k => by
    rw [Compiler.compile, errorOf_compile x]
    rfl

/-- So do expressions one by one. -/
theorem errorOf_compileEach : ∀ xs : List Expr,
    List.Forall₂ (fun x ns => errorOf x = ns.findSome? c.fault?) (c.compileEach xs) (Expr.nodesEach xs)
  | [] => .nil
  | x :: rest => .cons (errorOf_compile x) (errorOf_compileEach rest)

end

/-! ## Expressions without faults -/

/-- A constant is accepted if it has no fault. -/
theorem accepts_iff (s : Scalar) : c.Accepts s ↔ c.constantFault? s = none := by
  unfold Compiler.Accepts constantFault?
  cases s.toNative c.coercion with
  | error e => simp
  | ok v => cases v <;> simp

/-- The test of a parameter name spelled out. -/
theorem isParameterName_iff {name : String} :
    isParameterName name = true ↔ name ≠ "" ∧ ∀ char ∈ name.toList, char.isAlphanum = true ∨ char = '_' := by
  simp [isParameterName]

/-- A call by itself is without fault if there is such a method and it takes so many operands. -/
theorem callFault?_eq_none_iff {name : String} {operands : Nat} :
    callFault? name operands = none ↔ ∃ m, Method.ofName? name = some m ∧ operands = m.arity := by
  unfold callFault?
  cases Method.ofName? name with
  | none => simp
  | some m => simp

/-- No node of an expression has a fault. -/
def Faultless (x : Expr) : Prop := ∀ n ∈ x.nodes, c.fault? n = none

/-- A call by the grammar: a membership, or a method on as many operands as it takes. -/
def Callable (name : String) (operands : List Expr) : Prop :=
  (∃ values item, name = "Contains" ∧ operands = [.list values, item] ∧ (∀ s ∈ values, c.Accepts s) ∧
    item.WellFormed c) ∨
    ∃ m, Method.ofName? name = some m ∧ operands.length = m.arity ∧ ∀ x ∈ operands, x.WellFormed c

/-- The two forms of a call are in the grammar for the same operands. -/
theorem method_wellFormed_iff {name : String} {receiver : Expr} {args : List Expr} :
    (Expr.method name receiver args).WellFormed c ↔ c.Callable name (receiver :: args) := by
  constructor
  · intro h
    cases h with
    | listContains hv hi => exact .inl ⟨_, _, rfl, rfl, hv, hi⟩
    | method hm ha hr h => exact .inr ⟨_, hm, ha, List.forall_mem_cons.2 ⟨hr, h⟩⟩
  · rintro (⟨values, item, rfl, hoperands, hv, hi⟩ | ⟨m, hm, ha, h⟩)
    · obtain ⟨rfl, rfl⟩ := List.cons.inj hoperands
      exact .listContains hv hi
    · obtain ⟨hr, h⟩ := List.forall_mem_cons.1 h
      exact .method hm ha hr h

theorem call_wellFormed_iff {name : String} {args : List Expr} :
    (Expr.call name args).WellFormed c ↔ c.Callable name args := by
  constructor
  · intro h
    cases h with
    | containsIn hv hi => exact .inl ⟨_, _, rfl, rfl, hv, hi⟩
    | call hm ha h => exact .inr ⟨_, hm, ha, h⟩
  · rintro (⟨values, item, rfl, rfl, hv, hi⟩ | ⟨m, hm, ha, h⟩)
    · exact .containsIn hv hi
    · exact .call hm ha h

theorem nodesEach_eq_map (xs : List Expr) : Expr.nodesEach xs = xs.map Expr.nodes := by
  induction xs with
  | nil => rfl
  | cons x rest ih => rw [Expr.nodesEach, ih, List.map_cons]

/-- A list of constants is no expression of its own. -/
theorem not_wellFormed_list (values : List Scalar) : ¬ (Expr.list values).WellFormed c := nofun

/-- A call is one by the grammar when neither it nor a node of its operands has a fault. -/
theorem callable_iff {name : String} {operands : List Expr} (h : ∀ x ∈ operands, (x.WellFormed c ↔ c.Faultless x)) :
    c.Callable name operands ↔ callFault? name operands.length = none ∧
      ∀ n ∈ Expr.operandNodes name (operands.head?.bind Expr.values?) (Expr.nodesEach operands), c.fault? n = none := by
  rw [nodesEach_eq_map]
  by_cases hmember : ∃ values item, name = "Contains" ∧ operands = [.list values, item]
  · obtain ⟨values, item, rfl, rfl⟩ := hmember
    have hnodes : Expr.operandNodes "Contains" (some values) ([.list values, item].map Expr.nodes) =
        item.nodes ++ values.map .member := rfl
    have hset : ([.list values, item] : List Expr).head?.bind Expr.values? = some values := rfl
    have hmembers : (∀ n ∈ values.map Expr.Node.member, c.fault? n = none) ↔ ∀ s ∈ values, c.Accepts s := by
      simp only [List.forall_mem_map, accepts_iff]
      rfl
    have hitem : (∀ n ∈ item.nodes, c.fault? n = none) ↔ item.WellFormed c := (h item (by simp)).symm
    rw [hset, hnodes, List.forall_mem_append, hmembers, hitem]
    constructor
    · rintro (⟨values', item', -, hoperands, hv, hi⟩ | ⟨m, -, -, hall⟩)
      · simp only [List.cons.injEq, Expr.list.injEq, and_true] at hoperands
        obtain ⟨rfl, rfl⟩ := hoperands
        exact ⟨rfl, hi, hv⟩
      · exact absurd (hall _ List.mem_cons_self) (c.not_wellFormed_list values)
    · rintro ⟨-, hi, hv⟩
      exact .inl ⟨values, item, rfl, rfl, hv, hi⟩
  · have hnodes : Expr.operandNodes name (operands.head?.bind Expr.values?) (operands.map Expr.nodes) =
        (operands.map Expr.nodes).flatten := by
      refine Expr.operandNodes_of_not_member fun hcontains hset hlength => hmember ?_
      rw [List.length_map] at hlength
      obtain ⟨x, item, rfl⟩ := List.length_eq_two.1 hlength
      obtain ⟨values, hvalues⟩ := Option.isSome_iff_exists.1 hset
      exact ⟨values, item, Method.ofName?_eq_some_iff.1 hcontains, by rw [eq_list_of_values? hvalues]⟩
    have hall : (∀ n ∈ (operands.map Expr.nodes).flatten, c.fault? n = none) ↔ ∀ x ∈ operands, x.WellFormed c := by
      simp only [List.forall_mem_flatten, List.forall_mem_map]
      exact forall₂_congr fun x hx => (h x hx).symm
    rw [hnodes, hall, callFault?_eq_none_iff]
    constructor
    · rintro (⟨values, item, hname, hoperands, -⟩ | ⟨m, hm, ha, hx⟩)
      · exact absurd ⟨values, item, hname, hoperands⟩ hmember
      · exact ⟨⟨m, hm, ha⟩, hx⟩
    · rintro ⟨⟨m, hm, ha⟩, hx⟩
      exact .inr ⟨m, hm, ha, hx⟩

mutual

/-- An expression is in the grammar when no node of it has a fault. -/
theorem wellFormed_iff : ∀ x : Expr, x.WellFormed c ↔ c.Faultless x
  | .constant s => by
    have hfault : c.Faultless (.constant s) ↔ c.Accepts s := by
      rw [Faultless, Expr.nodes, List.forall_mem_singleton, fault?, accepts_iff]
    rw [hfault]
    exact ⟨fun h => by cases h; assumption, .constant⟩
  | .list values => by
    refine ⟨fun h => absurd h (c.not_wellFormed_list values), fun h => ?_⟩
    cases h (.root (.list values)) List.mem_cons_self
  | .parameter name => by
    have hfault : c.Faultless (.parameter name) ↔ isParameterName name = true := by
      rw [Faultless, Expr.nodes, List.forall_mem_singleton, fault?]
      split <;> simp_all
    rw [hfault, isParameterName_iff]
    exact ⟨fun h => by cases h with | parameter hne h => exact ⟨hne, h⟩, fun h => .parameter h.1 h.2⟩
  | .column ref => by
    have hfault : c.Faultless (.column ref) ↔ ∃ owner, c.scope.resolve ref = .ok owner := by
      rw [Faultless, Expr.nodes, List.forall_mem_singleton, fault?, errorOf_eq_none_iff]
    rw [hfault]
    exact ⟨fun h => by cases h with | column h => exact ⟨_, h⟩, fun ⟨_, h⟩ => .column h⟩
  | .binary op left right => by
    have hfault : c.Faultless (.binary op left right) ↔
        (∃ text, op.sql? = some text) ∧ c.Faultless left ∧ c.Faultless right := by
      have hop : (if op.sql?.isSome then none else some (Error.operator op)) = none ↔ op.sql?.isSome = true := by
        split <;> simp_all
      rw [Faultless, Expr.nodes, List.forall_mem_cons, List.forall_mem_append, fault?, hop, Option.isSome_iff_exists]
      rfl
    rw [hfault, ← wellFormed_iff left, ← wellFormed_iff right]
    refine ⟨fun h => ?_, fun ⟨⟨_, ho⟩, hl, hr⟩ => .binary ho hl hr⟩
    cases h with
    | binary ho hl hr => exact ⟨⟨_, ho⟩, hl, hr⟩
  | .not x => by
    have hfault : c.Faultless (.not x) ↔ c.Faultless x := by
      rw [Faultless, Expr.nodes, List.forall_mem_cons, fault?, Faultless]
      exact and_iff_right rfl
    rw [hfault, ← wellFormed_iff x]
    exact ⟨fun h => by cases h; assumption, .not⟩
  | .method name receiver args => by
    rw [method_wellFormed_iff,
      c.callable_iff (List.forall_mem_cons.2 ⟨wellFormed_iff receiver, wellFormed_iff_each args⟩), Faultless,
      Expr.nodes, List.forall_mem_cons]
    rfl
  | .call name args => by
    rw [call_wellFormed_iff, c.callable_iff (wellFormed_iff_each args), Faultless, Expr.nodes, List.forall_mem_cons]
    rfl
  | .convert x k => by
    have hfault : c.Faultless (.convert x k) ↔ c.Faultless x := by
      rw [Faultless, Expr.nodes, List.forall_mem_cons, fault?, Faultless]
      exact and_iff_right rfl
    rw [hfault, ← wellFormed_iff x]
    exact ⟨fun h => by cases h; assumption, .convert⟩

/-- So it is with expressions one by one. -/
theorem wellFormed_iff_each : ∀ xs : List Expr, ∀ x ∈ xs, (x.WellFormed c ↔ c.Faultless x)
  | [] => by simp
  | x :: rest => List.forall_mem_cons.2 ⟨wellFormed_iff x, wellFormed_iff_each rest⟩

end

end Compiler

/-- The compiler accepts exactly the expressions of its grammar, in every scope and style and with every coercion.
One that it does not accept fails with the fault of the first of its nodes that has one: a node comes before its
operands, these come from left to right, and the item of a membership comes before its set. -/
theorem compile_accepts_grammar (c : Compiler) (x : Expr) :
    ((∃ b, c.compile x = .ok b) ↔ x.WellFormed c) ∧
      ∀ e, c.compile x = .error e ↔
        ∃ before node after, x.nodes = before ++ node :: after ∧ c.fault? node = some e ∧
          ∀ n ∈ before, c.fault? n = none := by
  constructor
  · rw [c.wellFormed_iff, ← errorOf_eq_none_iff, c.errorOf_compile, List.findSome?_eq_none_iff]
    rfl
  · intro e
    rw [← errorOf_eq_some_iff, c.errorOf_compile, List.findSome?_eq_some_iff]

/-- An operator without SQL is reported before what is the matter with its operands. -/
example (c : Compiler) : c.compile (.binary .xor (.call "Unknown" []) (.list [])) = .error (.operator .xor) := rfl

end SqlMapper
