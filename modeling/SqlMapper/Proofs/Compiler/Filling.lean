import Mathlib.Data.List.Forall2
import SqlMapper.Proofs.Compiler.Grouping

/-!
# Constants written out and constants bound

A compilation with constants written out and one with constants bound to places end alike (`Alike`): in the same
error, or in two emitted terms of which the first is the second with its places filled (`Emitted.FilledBy`). This is
said of every expression by induction on it (`compile_alike`); that the values are in the order of the places is
what makes the terms fit. What holds of two such terms is then an induction on how the one is filled to become the
other.
-/

namespace SqlMapper

/-! ## Two outcomes -/

/-- Two outcomes that are the same error, or values in a relation. -/
inductive Alike {α β : Type} (R : α → β → Prop) : Except Error α → Except Error β → Prop where
  | error (e : Error) : Alike R (.error e) (.error e)
  | ok {a : α} {b : β} (h : R a b) : Alike R (.ok a) (.ok b)

/-- What goes on alike ends alike. -/
theorem Alike.bind {α β γ δ : Type} {R : α → β → Prop} {S : γ → δ → Prop} {x : Except Error α} {y : Except Error β}
    {f : α → Except Error γ} {g : β → Except Error δ} (h : Alike R x y) (hfg : ∀ a b, R a b → Alike S (f a) (g b)) :
    Alike S (x >>= f) (y >>= g) := by
  cases h with
  | error e => exact Alike.error e
  | ok h => exact hfg _ _ h

/-- The same step, taken before either, changes nothing. -/
theorem Alike.bind_same {α γ δ : Type} {S : γ → δ → Prop} (x : Except Error α) {f : α → Except Error γ}
    {g : α → Except Error δ} (hfg : ∀ a, x = .ok a → Alike S (f a) (g a)) : Alike S (x >>= f) (x >>= g) := by
  cases x with
  | error e => exact Alike.error e
  | ok a => exact hfg a rfl

/-- The first of two pieces has no places, and is the second with its places filled. -/
def Bound.Agrees {α : Type} (R : α → List Native → α → Prop) (inline positional : Bound α) : Prop :=
  inline.params = [] ∧ R positional.sql positional.params inline.sql

/-- Corresponding items of two lists are related by consecutive parts of the values. -/
inductive Each {α : Type} (R : α → List Native → α → Prop) : List α → List Native → List α → Prop where
  | nil : Each R [] [] []
  | cons {p i : α} {ps is : List α} {vs ws : List Native} (first : R p vs i) (rest : Each R ps ws is) :
    Each R (p :: ps) (vs ++ ws) (i :: is)

namespace Each

variable {α β : Type} {R : α → List Native → α → Prop} {S : β → List Native → β → Prop}

/-- One item takes all the values. -/
theorem singleton {p i : α} {vs : List Native} (h : R p vs i) : Each R [p] vs [i] := by
  have hs := Each.cons h Each.nil
  rwa [List.append_nil] at hs

/-- Lists take values one after another. -/
theorem append {ps is qs js : List α} {vs ws : List Native} (h : Each R ps vs is) (h' : Each R qs ws js) :
    Each R (ps ++ qs) (vs ++ ws) (is ++ js) := by
  induction h with
  | nil => exact h'
  | cons first _ ih =>
    rw [List.append_assoc]
    exact Each.cons first ih

/-- What is made of the items takes the same values. -/
theorem map {ps is : List α} {vs : List Native} (f : α → β) (hf : ∀ p vs i, R p vs i → S (f p) vs (f i))
    (h : Each R ps vs is) : Each S (ps.map f) vs (is.map f) := by
  induction h with
  | nil => exact Each.nil
  | cons first _ ih => exact Each.cons (hf _ _ _ first) ih

/-- Items that come from others, related themselves, come from lists of those. -/
theorem exists_map {ps is : List α} {vs : List Native} {f : β → α} (h : Each R ps vs is)
    (hf : ∀ p vs i, R p vs i → ∃ a b, p = f a ∧ i = f b ∧ S a vs b) :
    ∃ as bs, ps = as.map f ∧ is = bs.map f ∧ Each S as vs bs := by
  induction h with
  | nil => exact ⟨[], [], rfl, rfl, Each.nil⟩
  | cons first _ ih =>
    obtain ⟨a, b, rfl, rfl, hab⟩ := hf _ _ _ first
    obtain ⟨as, bs, rfl, rfl, hrest⟩ := ih
    exact ⟨a :: as, b :: bs, rfl, rfl, Each.cons hab hrest⟩

/-- There are as many items after as before. -/
theorem length_eq {ps is : List α} {vs : List Native} (h : Each R ps vs is) : ps.length = is.length := by
  induction h with
  | nil => rfl
  | cons _ _ ih => rw [List.length_cons, List.length_cons, ih]

/-- Items that each stay as they are. -/
theorem refl {xs : List α} (h : ∀ x ∈ xs, R x [] x) : Each R xs [] xs := by
  induction xs with
  | nil => exact Each.nil
  | cons x xs ih => exact Each.cons (h x List.mem_cons_self) (ih fun y hy => h y (List.mem_cons_of_mem _ hy))

end Each

/-! ## Terms with their places filled -/

/-- The place without a name. -/
def Sql.WritableConstant.placeholder : Sql.WritableConstant := ⟨.placeholder, trivial⟩

/-- The place of a parameter. -/
def Sql.WritableConstant.named (name : String) (h : isParameterName name = true) : Sql.WritableConstant :=
  ⟨.place (.named ':' name), rfl, h⟩

/-- A constant with its place filled: a place without a name by a value other than null. Null is written out in
either style, and so are the texts of patterns; a parameter stays where it is. -/
inductive Sql.WritableConstant.FilledBy : Sql.WritableConstant → List Native → Sql.WritableConstant → Prop where
  | null : FilledBy .null [] .null
  | pattern (s : String) : FilledBy (.text s) [] (.text s)
  | named (name : String) (h : isParameterName name = true) : FilledBy (.named name h) [] (.named name h)
  | place {v : Native} (hv : (Sql.Constant.literal v).Writable) (hn : v ≠ .null) :
    FilledBy .placeholder [v] ⟨.literal v, hv⟩

/-- A term with its places filled by values in the order of the text. One operand written twice has its values twice. -/
inductive Emitted.FilledBy : Emitted → List Native → Emitted → Prop where
  | constant {c d : Sql.WritableConstant} {vs : List Native} (h : c.FilledBy vs d) :
    FilledBy (.constant c) vs (.constant d)
  | column (table : Option String) (name : String) : FilledBy (.column table name) [] (.column table name)
  | not {x x' : Emitted} {vs : List Native} (h : FilledBy x vs x') : FilledBy (.not x) vs (.not x')
  | binary (op : Sql.BinaryOp) {l l' r r' : Emitted} {vs ws : List Native} (hl : FilledBy l vs l')
    (hr : FilledBy r ws r') :
    FilledBy (.binary op l r) (vs ++ ws) (.binary op l' r')
  | member {x x' : Emitted} {set set' : List Sql.WritableConstant} {vs ws : List Native} (h : FilledBy x vs x')
    (hs : Each Sql.WritableConstant.FilledBy set ws set') : FilledBy (.member x set) (vs ++ ws) (.member x' set')
  | apply (f : Sql.TextFunction) {x x' : Emitted} {vs : List Native} (h : FilledBy x vs x') :
    FilledBy (.apply f x) vs (.apply f x')
  | replace {x x' old old' new new' : Emitted} {vs ws us : List Native} (h : FilledBy x vs x')
    (hold : FilledBy old ws old')
    (hnew : FilledBy new us new') : FilledBy (.replace x old new) (vs ++ ws ++ us) (.replace x' old' new')
  | contains {x x' needle needle' : Emitted} {vs ws : List Native} (h : FilledBy x vs x')
    (hneedle : FilledBy needle ws needle') :
    FilledBy (.contains x needle) (vs ++ ws) (.contains x' needle')
  | nullOrEmpty {x x' : Emitted} {vs : List Native} (h : FilledBy x vs x') :
    FilledBy (.nullOrEmpty x) (vs ++ vs) (.nullOrEmpty x')

/-- Only the literal null is filled to become the literal null. -/
theorem Emitted.FilledBy.null_iff {m m' : Emitted} {vs : List Native} (h : m.FilledBy vs m') :
    m.tree = .null ↔ m'.tree = .null := by
  rw [← Emitted.written_eq_null_iff, ← Emitted.written_eq_null_iff]
  cases h with
  | constant h =>
    cases h with
    | place hv hn =>
      simp [Emitted.written, Sql.WritableConstant.placeholder, Sql.Constant.placeholder, Sql.Term.null, hn]
    | _ => exact Iff.rfl
  | _ => simp [Emitted.written, Sql.Term.null]

/-- A constant that is written, with its place filled. -/
def Sql.Constant.Fills (c : Sql.Constant) (values : List Native) (filled : Sql.Constant) : Prop :=
  ∃ k l : Sql.WritableConstant, c = k.1 ∧ filled = l.1 ∧ k.FilledBy values l

/-- A term that was emitted, with its places filled. -/
def Sql.Term.Fills (t : Sql.Term) (values : List Native) (filled : Sql.Term) : Prop :=
  ∃ m m' : Emitted, t = m.written ∧ filled = m'.written ∧ m.FilledBy values m'

namespace Sql.Term.Fills

variable {p q r i j k : Sql.Term} {vs ws us : List Native}

/-- A constant as a term takes the value that it takes by itself. -/
theorem constant {c d : Sql.Constant} (h : c.Fills vs d) : Fills (.constant c) vs (.constant d) := by
  obtain ⟨k, l, rfl, rfl, h⟩ := h
  exact ⟨_, _, rfl, rfl, .constant h⟩

/-- A column, a literal text and a parameter take no value when constants are filled in. -/
theorem column (table : Option String) (name : String) : Fills (.column table name) [] (.column table name) :=
  ⟨_, _, rfl, rfl, .column table name⟩

theorem string (s : String) : Fills (.string s) [] (.string s) :=
  ⟨_, _, rfl, rfl, .constant (.pattern s)⟩

theorem parameter {name : String} (h : isParameterName name = true) : Fills (.parameter name) [] (.parameter name) :=
  ⟨_, _, rfl, rfl, .constant (.named name h)⟩

/-- A negation takes the values of its operand. -/
theorem not (h : Fills p vs i) : Fills (.not (.paren p)) vs (.not (.paren i)) := by
  obtain ⟨m, m', rfl, rfl, h⟩ := h
  exact ⟨_, _, rfl, rfl, .not h⟩

/-- An operator takes those of its left operand, then those of its right one. -/
theorem binary (op : Sql.BinaryOp) (h : Fills p vs i) (h' : Fills q ws j) :
    Fills (.paren (.binary op p q)) (vs ++ ws) (.paren (.binary op i j)) := by
  obtain ⟨m, m', rfl, rfl, h⟩ := h
  obtain ⟨n, n', rfl, rfl, h'⟩ := h'
  exact ⟨_, _, rfl, rfl, .binary op h h'⟩

/-- A membership takes those of its item, then those of its set. -/
theorem member {c d : List Sql.Constant} (h : Fills p vs i) (hs : Each Sql.Constant.Fills c ws d) :
    Fills (.paren (.member p c)) (vs ++ ws) (.paren (.member i d)) := by
  obtain ⟨m, m', rfl, rfl, h⟩ := h
  obtain ⟨ks, ls, rfl, rfl, hset⟩ := hs.exists_map fun _ _ _ h => h
  exact ⟨_, _, rfl, rfl, .member h hset⟩

theorem apply (f : Sql.TextFunction) (h : Fills p vs i) : Fills (.apply f p) vs (.apply f i) := by
  obtain ⟨m, m', rfl, rfl, h⟩ := h
  exact ⟨_, _, rfl, rfl, .apply f h⟩

/-- A function takes those of its arguments in their order. -/
theorem replace (h : Fills p vs i) (h' : Fills q ws j) (h'' : Fills r us k) :
    Fills (.replace p q r) (vs ++ ws ++ us) (.replace i j k) := by
  obtain ⟨m, m', rfl, rfl, h⟩ := h
  obtain ⟨n, n', rfl, rfl, h'⟩ := h'
  obtain ⟨l, l', rfl, rfl, h''⟩ := h''
  exact ⟨_, _, rfl, rfl, .replace h h' h''⟩

/-- A search takes those of the text, then those of the needle. -/
theorem contains (h : Fills p vs i) (h' : Fills q ws j) :
    Fills (.paren (.binary .like p (.paren (.binary .concat (.binary .concat (.string "%") q) (.string "%")))))
      (vs ++ ws) (.paren (.binary .like i
        (.paren (.binary .concat (.binary .concat (.string "%") j) (.string "%"))))) := by
  obtain ⟨m, m', rfl, rfl, h⟩ := h
  obtain ⟨n, n', rfl, rfl, h'⟩ := h'
  exact ⟨_, _, rfl, rfl, .contains h h'⟩

/-- The operand of the test for null or nothing is written twice and takes its values twice. -/
theorem nullOrEmpty (h : Fills p vs i) :
    Fills (.paren (.binary .or (.binary .is p .null) (.binary .eq p (.string "")))) (vs ++ vs)
      (.paren (.binary .or (.binary .is i .null) (.binary .eq i (.string "")))) := by
  obtain ⟨m, m', rfl, rfl, h⟩ := h
  exact ⟨_, _, rfl, rfl, .nullOrEmpty h⟩

/-- An operator on two terms is rewritten for null in both or in neither. -/
theorem operate (op : Sql.BinaryOp) (h : Fills p vs i) (h' : Fills q ws j) :
    Fills (.operate op p q) (vs ++ ws) (.operate op i j) := by
  obtain ⟨m, m', rfl, rfl, h⟩ := h
  obtain ⟨n, n', rfl, rfl, h'⟩ := h'
  rw [Emitted.operate_written, Emitted.operate_written]
  simp only [h'.null_iff]
  exact ⟨_, _, rfl, rfl, .binary _ h h'⟩

end Sql.Term.Fills

/-! ## Constants -/

section Compile

variable (scope : Scope) (coercion : Coercion)

/-- A constant that is written out fills the place it is bound to; null is written out in both. -/
theorem constant_alike (s : Scalar) :
    Alike (Bound.Agrees Sql.Constant.Fills) (Compiler.constant ⟨scope, .inline, coercion⟩ s)
      (Compiler.constant ⟨scope, .positional, coercion⟩ s) := by
  refine Alike.bind_same (Error.ofCoercion (s.toNative coercion)) fun v _ => ?_
  refine Alike.bind_same v.checkLiteral fun w hw => ?_
  obtain rfl := Native.eq_of_checkLiteral hw
  by_cases hnull : w = .null
  · obtain rfl := hnull
    exact Alike.ok ⟨rfl, .null, .null, rfl, rfl, .null⟩
  · have hn : w.isNull = false := by cases w <;> first | rfl | exact absurd rfl hnull
    simp only [hn, Bool.false_or, decide_true, if_true, reduceCtorEq, decide_false, Bool.false_eq_true, if_false]
    exact Alike.ok ⟨rfl, .placeholder, ⟨.literal w, hw⟩, rfl, rfl, .place hw hnull⟩

/-- The constants of a list are compiled alike in both styles, one by one. -/
theorem constants_alike (values : List Scalar) :
    Alike (Bound.Agrees (Each Sql.Constant.Fills)) (Compiler.constants ⟨scope, .inline, coercion⟩ values)
      (Compiler.constants ⟨scope, .positional, coercion⟩ values) := by
  induction values with
  | nil => exact Alike.ok ⟨rfl, Each.nil⟩
  | cons s rest ih =>
    refine (constant_alike scope coercion s).bind fun i p h => ?_
    refine ih.bind fun is ps hs => ?_
    exact Alike.ok ⟨by simp [h.1, hs.1], Each.cons h.2 hs.2⟩

/-! ## Calls -/

/-- Operands that end alike one by one do so together. -/
theorem collect_alike {α : Type} {R : α → List Native → α → Prop} {xs ys : List (Except Error (Bound α))}
    (h : List.Forall₂ (Alike (Bound.Agrees R)) xs ys) :
    Alike (Bound.Agrees (Each R)) (Bound.collect xs) (Bound.collect ys) := by
  induction h with
  | nil => exact Alike.ok ⟨rfl, Each.nil⟩
  | cons first _ ih =>
    refine first.bind fun i p h => ?_
    refine ih.bind fun is ps hs => ?_
    exact Alike.ok ⟨by simp [h.1, hs.1], Each.cons h.2 hs.2⟩

/-- A method fits lists of operands alike, and the values of its places are those of its operands in the order it
writes them. -/
theorem term?_fills (m : Method) {ps is : List Sql.Term} {vs : List Native} (h : Each Sql.Term.Fills ps vs is) :
    (m.term? ps = none ∧ m.term? is = none) ∨
      ∃ p i, m.term? ps = some p ∧ m.term? is = some i ∧ p.Fills (m.params vs) i := by
  have hpercent := Sql.Term.Fills.string "%"
  cases h with
  | nil => cases m <;> exact Or.inl ⟨rfl, rfl⟩
  | cons ha h =>
    cases h with
    | nil =>
      rw [List.append_nil]
      cases m
      case toLower => exact Or.inr ⟨_, _, rfl, rfl, .apply .lower ha⟩
      case toUpper => exact Or.inr ⟨_, _, rfl, rfl, .apply .upper ha⟩
      case trim => exact Or.inr ⟨_, _, rfl, rfl, .apply .trim ha⟩
      case isNullOrEmpty => exact Or.inr ⟨_, _, rfl, rfl, .nullOrEmpty ha⟩
      all_goals exact Or.inl ⟨rfl, rfl⟩
    | cons hb h =>
      cases h with
      | nil =>
        rw [List.append_nil]
        cases m
        case like => exact Or.inr ⟨_, _, rfl, rfl, .binary .like ha hb⟩
        case contains => exact Or.inr ⟨_, _, rfl, rfl, .contains ha hb⟩
        case startsWith =>
          have hneedle := Sql.Term.Fills.binary .concat hb hpercent
          rw [List.append_nil] at hneedle
          exact Or.inr ⟨_, _, rfl, rfl, .binary .like ha hneedle⟩
        case endsWith => exact Or.inr ⟨_, _, rfl, rfl, .binary .like ha (.binary .concat hpercent hb)⟩
        case equals => exact Or.inr ⟨_, _, rfl, rfl, .binary .eq ha hb⟩
        case is => exact Or.inr ⟨_, _, rfl, rfl, .binary .is ha hb⟩
        case isNot => exact Or.inr ⟨_, _, rfl, rfl, .binary .isNot ha hb⟩
        all_goals exact Or.inl ⟨rfl, rfl⟩
      | cons hc h =>
        cases h with
        | nil =>
          rw [List.append_nil, ← List.append_assoc]
          cases m
          case replace => exact Or.inr ⟨_, _, rfl, rfl, .replace ha hb hc⟩
          all_goals exact Or.inl ⟨rfl, rfl⟩
        | cons _ _ => cases m <;> exact Or.inl ⟨rfl, rfl⟩

/-- A method is applied alike to operands that are alike. -/
theorem apply_alike (m : Method) {is ps : Bound (List Sql.Term)} (h : Bound.Agrees (Each Sql.Term.Fills) is ps) :
    Alike (Bound.Agrees Sql.Term.Fills) (m.apply is) (m.apply ps) := by
  have hparams : m.params is.params = [] := by rw [h.1]; cases m <;> rfl
  unfold Method.apply
  rcases term?_fills m h.2 with ⟨hp, hi⟩ | ⟨p, i, hp, hi, hf⟩
  · rw [hp, hi, h.2.length_eq]
    exact Alike.error _
  · rw [hp, hi]
    exact Alike.ok ⟨hparams, hf⟩

/-- The operands of a call are alike, so it fails or succeeds alike; a membership has its item before its set. -/
theorem invoke_alike (name : String) (set : Option (List Scalar)) {xs ys : List (Except Error (Bound Sql.Term))}
    (h : List.Forall₂ (Alike (Bound.Agrees Sql.Term.Fills)) xs ys) :
    Alike (Bound.Agrees Sql.Term.Fills) (Compiler.invoke ⟨scope, .inline, coercion⟩ name set xs)
      (Compiler.invoke ⟨scope, .positional, coercion⟩ name set ys) := by
  cases hm : Method.ofName? name with
  | none =>
    unfold Compiler.invoke
    rw [hm]
    exact Alike.error _
  | some m =>
    rcases m.member_or_not set xs with ⟨values, x, item, rfl, rfl, rfl⟩ | hmember
    · obtain ⟨y, item', rfl, -, hitem⟩ := forall₂_pair h
      rw [Compiler.invoke_member _ hm, Compiler.invoke_member _ hm]
      refine hitem.bind fun i p hi => ?_
      refine (constants_alike scope coercion values).bind fun is ps hs => ?_
      exact Alike.ok ⟨by simp [Bound.member, hi.1, hs.1], .member hi.2 hs.2⟩
    · have hmember' : ¬(m = .contains ∧ set.isSome = true ∧ ys.length = 2) := by rwa [← h.length_eq]
      rw [Compiler.invoke_of_not_member _ hm hmember, Compiler.invoke_of_not_member _ hm hmember', h.length_eq]
      split
      · exact (collect_alike h).bind fun _ _ hb => apply_alike m hb
      · exact Alike.error _

/-! ## Expressions -/

mutual

/-- An expression ends alike in both styles. -/
theorem compile_alike : ∀ x : Expr, Alike (Bound.Agrees Sql.Term.Fills)
    (Compiler.compile ⟨scope, .inline, coercion⟩ x) (Compiler.compile ⟨scope, .positional, coercion⟩ x)
  | .constant s => by
    rw [Compiler.compile, Compiler.compile]
    exact (constant_alike scope coercion s).bind fun i p h => Alike.ok ⟨h.1, .constant h.2⟩
  | .list values => by
    rw [Compiler.compile, Compiler.compile]
    exact Alike.error _
  | .parameter name => by
    rw [Compiler.compile, Compiler.compile]
    split
    · rename_i hname
      exact Alike.ok ⟨rfl, .parameter hname⟩
    · exact Alike.error _
  | .column ref => by
    rw [Compiler.compile, Compiler.compile]
    refine Alike.bind_same _ fun owner _ => ?_
    exact Alike.ok ⟨rfl, .column _ _⟩
  | .binary op left right => by
    rw [Compiler.compile, Compiler.compile]
    split
    · exact Alike.error _
    · refine (compile_alike left).bind fun i p hl => ?_
      refine (compile_alike right).bind fun j q hr => ?_
      exact Alike.ok ⟨by simp [hl.1, hr.1], .operate _ hl.2 hr.2⟩
  | .not x => by
    rw [Compiler.compile, Compiler.compile]
    exact (compile_alike x).bind fun i p h => Alike.ok ⟨h.1, .not h.2⟩
  | .method name receiver args => by
    rw [Compiler.compile, Compiler.compile]
    exact invoke_alike scope coercion name _ (.cons (compile_alike receiver) (compileEach_alike args))
  | .call name args => by
    rw [Compiler.compile, Compiler.compile]
    exact invoke_alike scope coercion name _ (compileEach_alike args)
  | .convert x _ => by
    rw [Compiler.compile, Compiler.compile]
    exact compile_alike x

/-- Expressions end alike one by one. -/
theorem compileEach_alike : ∀ xs : List Expr, List.Forall₂ (Alike (Bound.Agrees Sql.Term.Fills))
    (Compiler.compileEach ⟨scope, .inline, coercion⟩ xs) (Compiler.compileEach ⟨scope, .positional, coercion⟩ xs)
  | [] => by
    rw [Compiler.compileEach, Compiler.compileEach]
    exact .nil
  | x :: rest => by
    rw [Compiler.compileEach, Compiler.compileEach]
    exact .cons (compile_alike x) (compileEach_alike rest)

end

end Compile

end SqlMapper
