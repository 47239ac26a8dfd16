import SqlMapper.Proofs.Compiler.Compile
import SqlMapper.Proofs.Sql.Constants
import SqlMapper.Proofs.Value.RoundTrip

/-!
# Constants of expressions

What stands in a text for a scalar is said of the scalar, the style and the way it is stored (`Compiler.leaf?`), and
of a list of scalars it is said of the members one by one. The constants that are compiled are those
(`Compiler.leaf?_eq`, `Compiler.leaves?_eq`). From its tokens each is read back as the scalar (`Compiler.ReadsAs`):
null as null, a text, a blob or an integer as it was, and every scalar that is not stored as a real as the same
value.
-/

namespace SqlMapper

/-! ## What stands for a scalar -/

/-- Whether a value has a literal: all have one but the reals that are not finite. -/
def Native.hasLiteral : Native → Bool
  | .real x => x.isFinite
  | _ => true

/-- The constant for a stored value. Null is written out in either style. -/
def Native.leaf : Native → Style → Sql.Constant
  | .null, _ => .literal .null
  | v, .inline => .literal v
  | _, .positional => .place .anonymous

/-- The constant for a scalar. There is none for a scalar that is not stored, or stored as a value without a literal. -/
def Compiler.leaf? (c : Compiler) (s : Scalar) : Option Sql.Constant :=
  match s.toNative c.coercion with
  | .error _ => none
  | .ok v => if v.hasLiteral then some (v.leaf c.style) else none

theorem Native.leaf_eq_null_iff (v : Native) (style : Style) : v.leaf style = .literal .null ↔ v = .null := by
  cases v <;> cases style <;> simp [leaf]

/-- Values that have a literal are those that are checked to have one. -/
theorem Native.checkLiteral_cases (v : Native) :
    (v.hasLiteral = true ∧ v.checkLiteral = .ok v) ∨ v.hasLiteral = false ∧ ∃ e, v.checkLiteral = .error e := by
  cases v with
  | real x =>
    rw [Native.hasLiteral, Native.checkLiteral]
    cases x.isFinite with
    | true => exact .inl ⟨rfl, rfl⟩
    | false => exact .inr ⟨rfl, _, rfl⟩
  | _ => exact .inl ⟨rfl, rfl⟩

/-- Only the scalar null is stored as null. -/
theorem toNative_eq_null_iff {options : Coercion} {s : Scalar} {v : Native} (h : s.toNative options = .ok v) :
    v = .null ↔ s = .null := by
  refine ⟨fun hv => ?_, fun hs => ?_⟩
  · subst hv
    cases s <;> simp only [Scalar.toNative, DateTime.toNative] at h
    case null => rfl
    all_goals (repeat' split at h) <;> cases h
  · subst hs
    exact (Except.ok.inj h).symm

/-- Only floats and decimals are stored as reals. -/
theorem kind_of_toNative_real {options : Coercion} {s : Scalar} {x : Binary64}
    (h : s.toNative options = .ok (.real x)) :
    ∃ kind ∈ [Kind.f32, .f64, .decimal], s.kind? = some kind := by
  cases s <;> simp only [Scalar.toNative, DateTime.toNative] at h
  case f32 => exact ⟨.f32, by simp, rfl⟩
  case f64 => exact ⟨.f64, by simp, rfl⟩
  case decimal => exact ⟨.decimal, by simp, rfl⟩
  all_goals (repeat' split at h) <;> cases h

/-! ## What is compiled -/

namespace Compiler

variable {c : Compiler} {s : Scalar} {k : Sql.Constant} {values : List Scalar} {ks : List Sql.Constant}

/-- A constant that stands for a scalar, by the value that is stored for it. -/
theorem leaf?_eq_some_iff :
    c.leaf? s = some k ↔ ∃ v, s.toNative c.coercion = .ok v ∧ v.hasLiteral = true ∧ v.leaf c.style = k := by
  unfold leaf?
  cases s.toNative c.coercion with
  | error e => simp
  | ok v => simp

/-- A constant is compiled to what stands for the scalar; where nothing does, it is not compiled. -/
theorem leaf?_eq (c : Compiler) (s : Scalar) : c.leaf? s = (c.constant s).toOption.map Bound.sql := by
  unfold leaf? Compiler.constant
  cases s.toNative c.coercion with
  | error e => rfl
  | ok v =>
    rcases v.checkLiteral_cases with ⟨hliteral, hchecked⟩ | ⟨hliteral, e, hchecked⟩
    · simp only [hliteral, if_true, Error.ofCoercion, bind, Except.bind, hchecked]
      cases v <;> cases c.style <;> rfl
    · simp [hliteral, Error.ofCoercion, bind, Except.bind, hchecked, Except.toOption]

/-- So it is with the constants of a list, one for each member. -/
theorem leaves?_eq (c : Compiler) (values : List Scalar) :
    values.mapM c.leaf? = (c.constants values).toOption.map Bound.sql := by
  induction values with
  | nil => rfl
  | cons s rest ih =>
    rw [List.mapM_cons, ih, leaf?_eq, Compiler.constants]
    cases c.constant s with
    | error e => rfl
    | ok first => cases c.constants rest <;> rfl

theorem leaf?_of_constant {b : Bound Sql.Constant} (h : c.constant s = .ok b) : c.leaf? s = some b.sql := by
  rw [leaf?_eq, h]
  rfl

theorem leaves?_of_constants {b : Bound (List Sql.Constant)} (h : c.constants values = .ok b) :
    values.mapM c.leaf? = some b.sql := by
  rw [leaves?_eq, h]
  rfl

/-- What stands for a scalar can be written. -/
theorem writable_of_leaf (h : c.leaf? s = some k) : k.Writable := by
  obtain ⟨v, -, hliteral, rfl⟩ := leaf?_eq_some_iff.1 h
  have hchecked : v.checkLiteral = .ok v := by
    rcases v.checkLiteral_cases with ⟨-, hchecked⟩ | ⟨hno, -⟩
    · exact hchecked
    · rw [hliteral] at hno
      cases hno
  cases v <;> cases c.style <;> first | exact hchecked | trivial

/-- The constants of a list can be written. -/
theorem writable_of_leaves (h : values.mapM c.leaf? = some ks) : ∀ k ∈ ks, k.Writable := by
  intro k hk
  obtain ⟨s, -, hs⟩ := exists_of_forall₂ (forall₂_of_mapM_some h) hk
  exact writable_of_leaf hs

/-! ## What is read -/

/-- What is read of the tokens of a constant is the scalar it stands for. -/
structure ReadsAs (c : Compiler) (s : Scalar) (k : Sql.Constant) : Prop where
  null : s = .null → k = .literal .null
  /-- What is not null is a place where values are bound. -/
  place : c.style = .positional → s ≠ .null → k = .place .anonymous
  text : c.style = .inline → ∀ t, s = .text t → k = .literal (.text t)
  bytes : c.style = .inline → ∀ b, s = .bytes b → k = .literal (.blob b)
  integer : c.style = .inline → ∀ kind n hn, s = .integer kind n hn →
    ∃ m : Int64, k = .literal (.integer m) ∧ m.toInt = n
  /-- Scalars that are not stored as reals are the same value again, if the text of a URL is read as that URL. -/
  same : c.style = .inline → ∀ kind, s.kind? = some kind → kind ∉ [Kind.f32, .f64, .decimal] →
    (∀ u, s = .url u → Url.read? u.text = some u) → ∃ v w, k = .literal v ∧ v.toScalar kind = .ok w ∧ s.Same w

/-- What stands for a scalar is the constant that is read of its tokens, but for a real. -/
theorem reread_leaf {v : Native} (hreal : ∀ x, v ≠ .real x) (style : Style) : (v.leaf style).reread = v.leaf style := by
  cases v with
  | real x => exact absurd rfl (hreal x)
  | _ => cases style <;> rfl

theorem leaf_inline {v : Native} : v.leaf .inline = .literal v := by
  cases v <;> rfl

/-- The scalar is read back from what stands for it. -/
theorem readsAs_leaf (h : c.leaf? s = some k) : c.ReadsAs s k.reread := by
  obtain ⟨v, hv, -, rfl⟩ := leaf?_eq_some_iff.1 h
  have hnull := toNative_eq_null_iff hv
  refine ⟨fun hs => ?_, fun hstyle hs => ?_, fun hstyle t ht => ?_, fun hstyle b hb => ?_, ?_, ?_⟩
  · rw [hnull.2 hs]
    rfl
  · rw [hstyle]
    cases v with
    | null => exact absurd (hnull.1 rfl) hs
    | _ => rfl
  · subst ht
    obtain rfl := Except.ok.inj hv
    rw [hstyle]
    rfl
  · subst hb
    obtain rfl := Except.ok.inj hv
    rw [hstyle]
    rfl
  · intro hstyle kind n hn hs
    subst hs
    obtain ⟨m, hm, rfl⟩ := exists_integer (toNative_integer c.coercion hn) hv
    rw [hstyle]
    exact ⟨m, rfl, hm⟩
  · intro hstyle kind hkind hstored hurl
    have hreal : ∀ x, v ≠ .real x := by
      rintro x rfl
      obtain ⟨kind', hmem, hkind'⟩ := kind_of_toNative_real hv
      rw [hkind] at hkind'
      exact hstored (Option.some.inj hkind' ▸ hmem)
    have h32 : kind ≠ .f32 := fun he => hstored (by simp [he])
    have hdecimal : kind ≠ .decimal := fun he => hstored (by simp [he])
    obtain ⟨w, hw, hsame⟩ := toScalar_toNative hkind h32 hdecimal hurl hv
    rw [hstyle, reread_leaf hreal, leaf_inline]
    exact ⟨v, w, rfl, hw, hsame⟩

/-- A constant is read off its tokens as the scalar it stands for, whatever comes next. -/
theorem readConstant_leaf (h : c.leaf? s = some k) (rest : List Sql.Token) :
    ∃ k', Sql.readConstant (k.tokens ++ rest) = .ok (k', rest) ∧ c.ReadsAs s k' :=
  ⟨k.reread, Sql.readConstant_tokens (writable_of_leaf h) rest, readsAs_leaf h⟩

/-- The set of a membership is read off its tokens as the scalars of the list, each in its place. -/
theorem readSet_leaves (h : values.mapM c.leaf? = some ks) (rest : List Sql.Token) :
    ∃ ks', Sql.readSet (Sql.commaTokens (ks.map Sql.Constant.tokens) ++ .symbol .close :: rest) = .ok (ks', rest) ∧
      List.Forall₂ c.ReadsAs values ks' := by
  refine ⟨ks.map Sql.Constant.reread, Sql.readSet_tokens (writable_of_leaves h) rest, ?_⟩
  rw [List.forall₂_map_right_iff]
  exact (forall₂_of_mapM_some h).imp fun s k hs => readsAs_leaf hs

end Compiler

end SqlMapper
