import Mathlib.Data.List.Forall2
import SqlMapper.Compiler.Compile

/-!
# Compiling step by step

What the steps of a compilation are when it succeeds, and what a call is: a membership, or a method on all its operands.
-/

namespace SqlMapper

/-- A computation that succeeds in two steps. -/
theorem bind_eq_ok {ε α β : Type} {x : Except ε α} {f : α → Except ε β} {b : β} (h : (x >>= f) = .ok b) :
    ∃ a, x = .ok a ∧ f a = .ok b := by
  cases x with
  | error e => cases h
  | ok a => exact ⟨a, rfl, h⟩

/-- What corresponds to an item of the second list. -/
theorem exists_of_forall₂ {α β : Type} {R : α → β → Prop} {as : List α} {bs : List β} (h : List.Forall₂ R as bs) {b : β}
    (hb : b ∈ bs) : ∃ a ∈ as, R a b := by
  induction h with
  | nil => cases hb
  | cons first _ ih =>
    rcases List.mem_cons.1 hb with rfl | hb
    · exact ⟨_, List.mem_cons_self, first⟩
    · obtain ⟨a, ha, hab⟩ := ih hb
      exact ⟨a, List.mem_cons_of_mem _ ha, hab⟩

/-- Items of which there is one for each item of a list. -/
theorem forall₂_of_mapM_some {α β : Type} {f : α → Option β} {as : List α} {bs : List β} (h : as.mapM f = some bs) :
    List.Forall₂ (fun a b => f a = some b) as bs := by
  induction as generalizing bs with
  | nil =>
    obtain rfl := Option.some.inj h
    exact .nil
  | cons a rest ih =>
    rw [List.mapM_cons] at h
    obtain ⟨b, hb, h⟩ := Option.bind_eq_some_iff.1 h
    obtain ⟨others, hothers, h⟩ := Option.bind_eq_some_iff.1 h
    obtain rfl := Option.some.inj h
    exact .cons hb (ih hothers)

/-- What is collected are the operands, one after another. -/
theorem forall₂_collect {α : Type} {xs : List (Except Error (Bound α))} {b : Bound (List α)}
    (h : Bound.collect xs = .ok b) :
    List.Forall₂ (fun x a => ∃ d : Bound α, x = .ok d ∧ d.sql = a) xs b.sql := by
  induction xs generalizing b with
  | nil =>
    obtain rfl := Except.ok.inj h
    exact .nil
  | cons x rest ih =>
    rw [Bound.collect] at h
    obtain ⟨first, hfirst, h⟩ := bind_eq_ok h
    obtain ⟨others, hothers, h⟩ := bind_eq_ok h
    obtain rfl := Except.ok.inj h
    exact .cons ⟨first, hfirst, rfl⟩ (ih hothers)

/-- A value that has a literal is left as it is. -/
theorem Native.eq_of_checkLiteral {v w : Native} (h : v.checkLiteral = .ok w) : w = v := by
  unfold Native.checkLiteral at h
  split at h
  · split at h
    · exact (Except.ok.inj h).symm
    · cases h
  · exact (Except.ok.inj h).symm

/-- What corresponds to two items, one after another. -/
theorem forall₂_pair {α β : Type} {R : α → β → Prop} {a a' : α} {bs : List β} (h : List.Forall₂ R [a, a'] bs) :
    ∃ b b', bs = [b, b'] ∧ R a b ∧ R a' b' := by
  obtain ⟨b, bs, hfirst, hrest, rfl⟩ := List.forall₂_cons_left_iff.1 h
  obtain ⟨b', bs, hsecond, hnil, rfl⟩ := List.forall₂_cons_left_iff.1 hrest
  obtain rfl := List.forall₂_nil_left_iff.1 hnil
  exact ⟨b, b', rfl, hfirst, hsecond⟩

/-- A call of a method is a membership, which has a set and two operands, or it is none. -/
theorem Method.member_or_not {α : Type} (m : Method) (set : Option (List Scalar)) (xs : List α) :
    (∃ values x item, m = .contains ∧ set = some values ∧ xs = [x, item]) ∨
      ¬(m = .contains ∧ set.isSome = true ∧ xs.length = 2) := by
  by_cases h : m = .contains ∧ set.isSome = true ∧ xs.length = 2
  · obtain ⟨hcontains, hset, hlength⟩ := h
    obtain ⟨values, hvalues⟩ := Option.isSome_iff_exists.1 hset
    obtain ⟨x, item, hxs⟩ := List.length_eq_two.1 hlength
    exact .inl ⟨values, x, item, hcontains, hvalues, hxs⟩
  · exact .inr h

theorem eq_list_of_values? {x : Expr} {values : List Scalar} (h : x.values? = some values) : x = .list values := by
  cases x with
  | list vs => rw [Option.some.inj h]
  | _ => cases h

namespace Compiler

variable (c : Compiler)

theorem length_compileEach (xs : List Expr) : (c.compileEach xs).length = xs.length := by
  induction xs with
  | nil => rfl
  | cons x rest ih => rw [Compiler.compileEach, List.length_cons, List.length_cons, ih]

/-- A membership has its item before its set. -/
theorem invoke_member {name : String} (hm : Method.ofName? name = some .contains) (values : List Scalar)
    (x item : Except Error (Bound Sql.Term)) :
    c.invoke name (some values) [x, item] = item >>= fun item => c.constants values >>=
      fun set => .ok (.member item set) := by
  unfold Compiler.invoke
  rw [hm]
  rfl

/-- A call that is no membership is the method on its operands, when there are as many as it takes. -/
theorem invoke_of_not_member {name : String} {m : Method} (hm : Method.ofName? name = some m)
    {set : Option (List Scalar)} {xs : List (Except Error (Bound Sql.Term))}
    (h : ¬(m = .contains ∧ set.isSome = true ∧ xs.length = 2)) :
    c.invoke name set xs =
      if xs.length = m.arity then Bound.collect xs >>= m.apply
      else .error (.expression (.arity name m.arity xs.length)) := by
  unfold Compiler.invoke
  rw [hm]
  dsimp only
  split
  · exact (h ⟨rfl, rfl, rfl⟩).elim
  · rfl

end Compiler

end SqlMapper
