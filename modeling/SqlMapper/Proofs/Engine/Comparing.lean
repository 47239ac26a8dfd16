import SqlMapper.Compiler.Compile
import SqlMapper.Engine.Query
import SqlMapper.Proofs.Value.Order

/-!
# Comparisons of stored forms

Comparisons and orders look at stored forms only through their order. Where that is the order of the values, a
comparison of two terms holds on a row as the values compare (`holds_binary`), and keys order rows as the values do
(`Scalar.KeysStored.compareKeys_eq`).
-/

namespace SqlMapper

/-! ## Operators -/

/-- What a comparison asks of the order of its operands. -/
def Operator.asks? : Operator → Option (Ordering → Bool)
  | .eq => some (· == .eq)
  | .ne => some (· != .eq)
  | .lt => some (· == .lt)
  | .le => some (· != .gt)
  | .gt => some (· == .gt)
  | .ge => some (· != .lt)
  | _ => none

/-- The SQL operator of a comparison compares as the comparison asks; it is written as it is, unless the right side
is a null. -/
theorem Operator.asks?_spec {op : Operator} {test : Ordering → Bool} {o : Sql.BinaryOp} (hasks : op.asks? = some test)
    (ho : op.toSql? = some o) : o.compares = true ∧ (∀ a b : Native, a.operate o b = a.comparison test b) ∧
      ∀ l r : Sql.Term, r ≠ .null → Sql.Term.operate o l r = .paren (.binary o l r) := by
  cases op <;> cases hasks <;> cases ho
  · exact ⟨rfl, fun _ _ => rfl, fun _ _ _ => rfl⟩
  · exact ⟨rfl, fun _ _ => rfl, fun _ _ _ => rfl⟩
  · exact ⟨rfl, fun _ _ => rfl, fun _ _ _ => rfl⟩
  · exact ⟨rfl, fun _ _ => rfl, fun _ _ _ => rfl⟩
  · exact ⟨rfl, fun _ _ => rfl, fun _ _ hr => congrArg Sql.Term.paren (if_neg hr)⟩
  · exact ⟨rfl, fun _ _ => rfl, fun _ _ hr => congrArg Sql.Term.paren (if_neg hr)⟩

/-! ## Terms -/

section Terms

variable {options : Coercion} {kind : Kind}

/-- Only null is stored as null. -/
theorem isNull_stored {v : Scalar} (hv : v.IsOf kind) {n : Native} (hn : v.toNative options = .ok n) :
    n.isNull = v.isNull := by
  rcases hv with rfl | hv
  · obtain rfl := Except.ok.inj hn
    rfl
  · obtain ⟨hsome, hnull⟩ := isNull_toNative hv hn
    rw [hsome, hnull]

/-- An integer is a number already. -/
theorem asNumeric_of_isInteger (hkind : kind.isInteger = true) {v : Scalar} (hv : v.IsOf kind) {n : Native}
    (hn : v.toNative options = .ok n) : n.asNumeric = n := by
  rcases hv with rfl | hv
  · obtain rfl := Except.ok.inj hn
    rfl
  · cases v with
    | integer k m hm =>
      obtain ⟨p, -, rfl⟩ := exists_integer (toNative_integer options hm) hn
      rfl
    | null => cases hv
    | _ =>
      obtain rfl := Option.some.inj hv
      cases hkind

/-- A comparison of two terms holds on a row on which the values compare so. -/
theorem holds_binary {test : Ordering → Bool} {o : Sql.BinaryOp} (hcompares : o.compares = true)
    (hoperate : ∀ a b : Native, a.operate o b = a.comparison test b) (hkind : kind.isOrdered = true) {a b : Scalar}
    (ha : a.IsOf kind) (hb : b.IsOf kind) {l r : Sql.Term} {f : Frame} {row : List Native}
    (hl : a.toNative options = .ok (l.eval f row)) (hr : b.toNative options = .ok (r.eval f row))
    (hkeeps : a.KeepsOrder options b) (hnumeric : (l.isNumeric f || r.isNumeric f) = true → kind.isInteger = true) :
    (Sql.Term.paren (.binary o l r)).holds f row = a.compares test b := by
  have heval : (Sql.Term.paren (.binary o l r)).eval f row = (l.eval f row).comparison test (r.eval f row) := by
    rw [Sql.Term.eval, Sql.Term.eval]
    simp only [hcompares, Bool.true_and]
    split
    · rename_i hnumbers
      rw [asNumeric_of_isInteger (hnumeric hnumbers) ha hl, asNumeric_of_isInteger (hnumeric hnumbers) hb hr, hoperate]
    · exact hoperate _ _
  have htruth : ∀ b : Bool, ((Native.ofTruth (some b)).truth? == some true) = b := by decide
  rw [Sql.Term.holds, heval, Native.comparison, hkeeps.compare_eq hkind ha hb hl hr, isNull_stored ha hl,
    isNull_stored hb hr, Scalar.compares]
  cases a.isNull <;> cases b.isNull
  · exact htruth _
  · rfl
  · rfl
  · rfl

end Terms

/-! ## Keys -/

/-- Two lists of values, and the stored forms of them in whose order they are. -/
inductive Scalar.KeysStored (options : Coercion) : List Scalar → List Scalar → List Native → List Native → Prop where
  | nil : KeysStored options [] [] [] []
  | cons {kind : Kind} {a b : Scalar} {m n : Native} {as bs : List Scalar} {ms ns : List Native}
    (hkind : kind.isOrdered = true)
    (ha : a.IsOf kind) (hb : b.IsOf kind) (hm : a.toNative options = .ok m) (hn : b.toNative options = .ok n)
    (hab : a.KeepsOrder options b) (hba : b.KeepsOrder options a) (rest : KeysStored options as bs ms ns) :
    KeysStored options (a :: as) (b :: bs) (m :: ms) (n :: ns)

/-- Keys are in the order of the values whose stored forms they are. -/
theorem Scalar.KeysStored.compareKeys_eq {options : Coercion} {as bs : List Scalar} {ms ns : List Native}
    (h : KeysStored options as bs ms ns) (descending : List Bool) :
    compareKeys descending ms ns = orderKeys descending as bs := by
  induction h generalizing descending with
  | nil => cases descending <;> rfl
  | cons hkind ha hb hm hn hab hba _ ih =>
    cases descending with
    | nil => rfl
    | cons d ds => rw [compareKeys, orderKeys, hab.compare_eq hkind ha hb hm hn, hba.compare_eq hkind hb ha hn hm, ih]

/-- Sorting asks only how the items of the list compare. -/
theorem mergeSort_congr {α : Type} {le le' : α → α → Bool} {items : List α}
    (h : ∀ a ∈ items, ∀ b ∈ items, le a b = le' a b) :
    items.mergeSort le = items.mergeSort le' := by
  have hmap := List.map_mergeSort (f := id) h
  rwa [List.map_id, List.map_id] at hmap

end SqlMapper
