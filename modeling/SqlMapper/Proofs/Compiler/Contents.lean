import SqlMapper.Proofs.Compiler.Resolution
import SqlMapper.Proofs.Compiler.Spans

/-!
# Contents of tokens

What a name, a text, a blob or a parameter says is its contents. A token without them is its kind
(`Sql.Token.kind`), and an expression without them its shape (`Expr.shape`). Expressions of one shape have tokens of
the same kinds, in any two scopes that write columns alike (`Compiler.WritesAlike.agree_tokens`). From the tokens
the contents are read back: the scalars themselves, the members of a list one by one, and the names
(`Compiler.decodes`).
-/

namespace SqlMapper

open Sql (Token Keyword parenTokens commaTokens columnTokens)

/-! ## Kinds of tokens -/

/-- A token without its contents. -/
def Sql.Token.kind : Token → Token
  | .quoted _ => .quoted ""
  | .bracketed _ => .bracketed ""
  | .string _ => .string ""
  | .blob _ => .blob []
  | .place (.named mark _) => .place (.named mark "")
  | t => t

/-- The kinds of tokens. -/
def Sql.kinds (ts : List Token) : List Token := ts.map Token.kind

namespace Sql

@[simp] theorem kinds_nil : kinds [] = [] := rfl

@[simp] theorem kinds_cons (t : Token) (ts : List Token) : kinds (t :: ts) = t.kind :: kinds ts := rfl

/-- Kinds are told token by token. -/
@[simp] theorem kinds_append (ts us : List Token) : kinds (ts ++ us) = kinds ts ++ kinds us := List.map_append

@[simp] theorem kinds_flatten (tss : List (List Token)) : kinds tss.flatten = (tss.map kinds).flatten :=
  List.map_flatten

/-- Punctuation is its kind. -/
@[simp] theorem kinds_paren (ts : List Token) : kinds (parenTokens ts) = parenTokens (kinds ts) := by
  simp [parenTokens, Token.kind]

@[simp] theorem kinds_comma (tss : List (List Token)) : kinds (commaTokens tss) = commaTokens (tss.map kinds) := by
  induction tss with
  | nil => rfl
  | cons ts tss ih =>
    cases tss with
    | nil => rfl
    | cons us tss =>
      simp only [List.map_cons, commaTokens, kinds_append, kinds_cons] at ih ⊢
      rw [ih]
      rfl

/-- A kind has no contents any more. -/
@[simp] theorem Token.kind_kind (t : Token) : t.kind.kind = t.kind := by
  cases t with
  | place p => cases p <;> rfl
  | _ => rfl

@[simp] theorem kinds_kinds (ts : List Token) : kinds (kinds ts) = kinds ts := by
  simp [kinds, Function.comp_def]

/-- A keyword is its kind. -/
theorem Token.kind_eq_keyword_iff {t : Token} {k : Keyword} : t.kind = k.token ↔ t = k.token := by
  cases t with
  | place p => cases p <;> simp [kind, Keyword.token]
  | _ => simp [kind, Keyword.token]

/-- Whether an operand is the one token `NULL` is told by the kinds. -/
theorem kinds_eq_null_iff {ts : List Token} : kinds ts = [Keyword.token .null] ↔ ts = [Keyword.token .null] := by
  simp [kinds, List.map_eq_singleton_iff, Token.kind_eq_keyword_iff]

/-- The kinds of a column are the same for all names. -/
theorem kinds_columnTokens (table : Option String) (name : String) :
    kinds (columnTokens table name) = columnTokens (table.map fun _ => "") "" := by
  cases table <;> rfl

/-- The kinds of an operator with its operands are those of its operands with the operator. -/
theorem BinaryOp.kinds_emit (op : BinaryOp) (l r : List Token) :
    kinds (op.emit l r) = kinds (op.emit (kinds l) (kinds r)) := by
  simp [emit, kinds_eq_null_iff]

end Sql

/-- So it is for a method. -/
theorem Method.kinds_tokens? (m : Method) (tss : List (List Token)) :
    (m.tokens? tss).map Sql.kinds = (m.tokens? (tss.map Sql.kinds)).map Sql.kinds := by
  rcases tss with _ | ⟨a, _ | ⟨b, _ | ⟨c, _ | ⟨d, tss⟩⟩⟩⟩
  · cases m <;> rfl
  · cases m <;> simp [tokens?]
  · cases m <;> simp [tokens?]
  · cases m <;> simp [tokens?]
  · cases m <;> rfl

/-! ## Agreement -/

/-- Where there are both, a function makes the same of them. -/
def Agree {α β : Type} (f : α → β) (a b : Option α) : Prop := ∀ x ∈ a, ∀ y ∈ b, f x = f y

namespace Agree

variable {α β γ δ : Type} {f : α → β} {g : γ → δ} {a b : Option α}

/-- Results that are made the same agree. -/
theorem of_map_eq (h : a.map f = b.map f) : Agree f a b := by
  rintro x rfl y rfl
  exact Option.some.inj h

theorem some {x y : α} (h : f x = f y) : Agree f (.some x) (.some y) := of_map_eq (congrArg Option.some h)

/-- Steps that agree wherever their beginnings do agree. -/
theorem bind {k l : α → Option γ} (h : Agree f a b) (hkl : ∀ x y, f x = f y → Agree g (k x) (l y)) :
    Agree g (a >>= k) (b >>= l) := by
  intro u hu v hv
  obtain ⟨x, hx, hu⟩ := Option.bind_eq_some_iff.1 hu
  obtain ⟨y, hy, hv⟩ := Option.bind_eq_some_iff.1 hv
  exact hkl x y (h x hx y hy) u hu v hv

/-- So do results made of both. -/
theorem map {k l : α → γ} (h : Agree f a b) (hkl : ∀ x y, f x = f y → g (k x) = g (l y)) :
    Agree g (a.map k) (b.map l) := by
  intro u hu v hv
  obtain ⟨x, hx, rfl⟩ := Option.map_eq_some_iff.1 hu
  obtain ⟨y, hy, rfl⟩ := Option.map_eq_some_iff.1 hv
  exact hkl x y (h x hx y hy)

/-- Lists agree if their items do. -/
theorem mapM {as bs : List (Option α)} (h : List.Forall₂ (Agree f) as bs) :
    Agree (List.map f) (as.mapM id) (bs.mapM id) := by
  induction h with
  | nil => exact some rfl
  | cons hfirst _ ih =>
    rw [List.mapM_cons, List.mapM_cons]
    exact hfirst.bind fun x y hx => ih.bind fun xs ys hxs => some (by simp [hx, hxs])

end Agree

/-! ## Shapes of expressions -/

/-- A stored value without its contents. -/
def Native.shape : Native → Native
  | .text _ => .text ""
  | .blob _ => .blob []
  | v => v

/-- A constant without the text or the bytes that it is stored as. -/
def Scalar.shape (options : Coercion) (s : Scalar) : Scalar :=
  match s.toNative options with
  | .ok (.text _) => .text ""
  | .ok (.blob _) => .bytes []
  | _ => s

mutual

/-- An expression without the names of columns and parameters, and without the contents of constants. -/
def Expr.shape (options : Coercion) : Expr → Expr
  | .constant s => .constant (s.shape options)
  | .list values => .list (values.map (Scalar.shape options))
  | .parameter _ => .parameter ""
  | .column _ => .column ⟨none, ""⟩
  | .binary op l r => .binary op (l.shape options) (r.shape options)
  | .not x => .not (x.shape options)
  | .method name x args => .method name (x.shape options) (Expr.shapes options args)
  | .call name args => .call name (Expr.shapes options args)
  | .convert x kind => .convert (x.shape options) kind

/-- The shapes of expressions, one by one. -/
def Expr.shapes (options : Coercion) : List Expr → List Expr
  | [] => []
  | x :: rest => x.shape options :: Expr.shapes options rest

end

/-- Compilers that write what they compile alike, but for what names stand for. -/
structure Compiler.WritesAlike (c d : Compiler) : Prop where
  style : c.style = d.style
  coercion : c.coercion = d.coercion
  qualified : c.scope.qualified = d.scope.qualified

/-! ## Constants -/

/-- What is stored of the shape of a constant is the shape of what is stored of it. -/
theorem Scalar.toNative_shape (options : Coercion) (s : Scalar) :
    (s.shape options).toNative options = (s.toNative options).map Native.shape := by
  unfold Scalar.shape
  cases h : s.toNative options with
  | error e => exact h
  | ok v =>
    cases v with
    | text t => rfl
    | blob b => rfl
    | _ => exact h

/-- The kinds of the tokens of a constant, if there are any. -/
def Compiler.constantKinds? (c : Compiler) (s : Scalar) : Option (List Token) :=
  (c.leaf? s).map fun k => Sql.kinds k.tokens

namespace Compiler

variable {c d : Compiler}

/-- The kinds of a constant are told by its shape. -/
theorem constantKinds?_shape (c : Compiler) (s : Scalar) :
    c.constantKinds? (s.shape c.coercion) = c.constantKinds? s := by
  unfold constantKinds? leaf?
  rw [Scalar.toNative_shape]
  cases s.toNative c.coercion with
  | error e => rfl
  | ok v =>
    cases v with
    | text t => cases c.style <;> rfl
    | blob b => cases c.style <;> rfl
    | _ => rfl

/-- The kinds of the constants of a list, one by one. -/
theorem kinds_leaves? (c : Compiler) (values : List Scalar) :
    (values.mapM c.leaf?).map (List.map fun k => Sql.kinds k.tokens) = (values.map c.constantKinds?).mapM id := by
  induction values with
  | nil => rfl
  | cons s rest ih =>
    rw [List.mapM_cons, List.map_cons, List.mapM_cons, ← ih, constantKinds?]
    cases c.leaf? s with
    | none => rfl
    | some k => cases rest.mapM c.leaf? <;> rfl

/-- A constant does not depend on the scope. -/
theorem WritesAlike.constantKinds?_eq (h : c.WritesAlike d) {s t : Scalar}
    (hst : s.shape c.coercion = t.shape c.coercion) :
    c.constantKinds? s = d.constantKinds? t := by
  have hscope : c.constantKinds? t = d.constantKinds? t := by
    unfold constantKinds? leaf?
    rw [h.style, h.coercion]
  rw [← constantKinds?_shape, hst, constantKinds?_shape, hscope]

/-- So it is for lists of constants. -/
theorem WritesAlike.agree_leaves (h : c.WritesAlike d) {values others : List Scalar}
    (hst : values.map (Scalar.shape c.coercion) = others.map (Scalar.shape c.coercion)) :
    Agree (List.map fun k => Sql.kinds k.tokens) (values.mapM c.leaf?) (others.mapM d.leaf?) := by
  have hshape : ∀ e : Compiler, e.coercion = c.coercion →
      e.constantKinds? ∘ Scalar.shape c.coercion = e.constantKinds? := by
    intro e he
    rw [← he]
    exact funext e.constantKinds?_shape
  have hsame : c.constantKinds? = d.constantKinds? := funext fun s => h.constantKinds?_eq rfl
  have heach : values.map c.constantKinds? = others.map d.constantKinds? := by
    rw [← hshape c rfl, ← hshape d h.coercion.symm, ← List.map_map, ← List.map_map, hst, hsame]
  refine Agree.of_map_eq ?_
  rw [kinds_leaves?, kinds_leaves?, heach]

/-- The list of constants that an expression is, without contents. -/
theorem values?_shape (options : Coercion) (x : Expr) :
    (x.shape options).values? = x.values?.map (List.map (Scalar.shape options)) := by
  cases x <;> rfl

/-- So is the list that a call has for its first operand. -/
theorem head_values?_shapes (options : Coercion) (args : List Expr) :
    (Expr.shapes options args).head?.bind Expr.values? =
      (args.head?.bind Expr.values?).map (List.map (Scalar.shape options)) := by
  cases args with
  | nil => rfl
  | cons x rest => exact values?_shape options x

/-- Calls agree if their operands do. -/
theorem WritesAlike.agree_call (h : c.WritesAlike d) (name : String) {set set' : Option (List Scalar)}
    (hset : set.map (List.map (Scalar.shape c.coercion)) = set'.map (List.map (Scalar.shape c.coercion)))
    {ts us : List (Option (List Token))} (hts : List.Forall₂ (Agree Sql.kinds) ts us) :
    Agree Sql.kinds (c.callTokens? name set ts) (d.callTokens? name set' us) := by
  cases hm : Method.ofName? name with
  | none =>
    unfold Compiler.callTokens?
    rw [hm]
    exact nofun
  | some m =>
    have hsome : set.isSome = set'.isSome := by simpa using congrArg Option.isSome hset
    rcases m.member_or_not set ts with ⟨values, t, item, rfl, rfl, rfl⟩ | hmember
    · obtain ⟨values', rfl⟩ := Option.isSome_iff_exists.1 hsome.symm
      obtain ⟨u, item', rfl, -, hitem⟩ := forall₂_pair hts
      unfold Compiler.callTokens?
      rw [hm]
      refine hitem.bind fun x y hxy => (h.agree_leaves (Option.some.inj hset)).bind fun s s' hs => .some ?_
      simp only [Sql.kinds_paren, Sql.kinds_append, Sql.kinds_cons, Sql.kinds_comma, List.map_map, Function.comp_def]
      rw [hxy, hs]
    · have hmember' : ¬(m = .contains ∧ set'.isSome = true ∧ us.length = 2) := by rwa [← hsome, ← hts.length_eq]
      rw [c.callTokens?_of_not_member hm hmember, d.callTokens?_of_not_member hm hmember']
      refine (Agree.mapM hts).bind fun tss uss hall => .of_map_eq ?_
      rw [m.kinds_tokens? tss, m.kinds_tokens? uss, hall]

mutual

/-- Expressions of one shape have tokens of the same kinds. -/
theorem WritesAlike.agree_tokens (h : c.WritesAlike d) : ∀ x y : Expr, x.shape c.coercion = y.shape c.coercion →
    Agree Sql.kinds (c.tokens? x) (d.tokens? y)
  | .constant s, y, hxy => by
    cases y with
    | constant t =>
      have hkinds := h.constantKinds?_eq (Expr.constant.inj hxy)
      refine .of_map_eq ?_
      simpa [constantKinds?, Compiler.tokens?, Function.comp_def] using hkinds
    | _ => cases hxy
  | .list values, y, hxy => nofun
  | .parameter name, y, hxy => by
    cases y with
    | parameter name' =>
      rw [Compiler.tokens?, Compiler.tokens?]
      split
      · split
        · exact .some rfl
        · exact fun _ _ _ => nofun
      · exact nofun
    | _ => cases hxy
  | .column ref, y, hxy => by
    cases y with
    | column ref' =>
      rw [Compiler.tokens?, Compiler.tokens?, h.qualified]
      intro ts hts us hus
      obtain ⟨owner, -, rfl⟩ := Option.map_eq_some_iff.1 hts
      obtain ⟨owner', -, rfl⟩ := Option.map_eq_some_iff.1 hus
      rw [Sql.kinds_columnTokens, Sql.kinds_columnTokens]
      cases d.scope.qualified <;> rfl
    | _ => cases hxy
  | .binary op l r, y, hxy => by
    cases y with
    | binary op' l' r' =>
      obtain ⟨rfl, hl, hr⟩ := Expr.binary.inj hxy
      rw [tokens?_binary, tokens?_binary]
      cases op.toSql? with
      | none => exact nofun
      | some o =>
        refine (h.agree_tokens l l' hl).bind fun ts ts' hts => ?_
        refine (h.agree_tokens r r' hr).bind fun us us' hus => .some ?_
        rw [o.kinds_emit ts us, o.kinds_emit ts' us', hts, hus]
    | _ => cases hxy
  | .not x, y, hxy => by
    cases y with
    | not y =>
      rw [Compiler.tokens?, Compiler.tokens?]
      refine (h.agree_tokens x y (Expr.not.inj hxy)).map fun ts us hts => ?_
      rw [Sql.kinds_cons, Sql.kinds_cons, Sql.kinds_paren, Sql.kinds_paren, hts]
    | _ => cases hxy
  | .method name x args, y, hxy => by
    cases y with
    | method name' y args' =>
      obtain ⟨rfl, hx, hargs⟩ := Expr.method.inj hxy
      rw [Compiler.tokens?, Compiler.tokens?]
      refine h.agree_call name ?_ (.cons (h.agree_tokens x y hx) (h.agree_tokensEach args args' hargs))
      rw [← values?_shape, ← values?_shape, hx]
    | _ => cases hxy
  | .call name args, y, hxy => by
    cases y with
    | call name' args' =>
      obtain ⟨rfl, hargs⟩ := Expr.call.inj hxy
      rw [Compiler.tokens?, Compiler.tokens?]
      refine h.agree_call name ?_ (h.agree_tokensEach args args' hargs)
      rw [← head_values?_shapes, ← head_values?_shapes, hargs]
    | _ => cases hxy
  | .convert x kind, y, hxy => by
    cases y with
    | convert y kind' =>
      obtain ⟨hx, -⟩ := Expr.convert.inj hxy
      rw [Compiler.tokens?, Compiler.tokens?]
      exact h.agree_tokens x y hx
    | _ => cases hxy

/-- So do expressions one by one. -/
theorem WritesAlike.agree_tokensEach (h : c.WritesAlike d) : ∀ xs ys : List Expr,
    Expr.shapes c.coercion xs = Expr.shapes c.coercion ys →
      List.Forall₂ (Agree Sql.kinds) (c.tokensEach xs) (d.tokensEach ys)
  | [], ys, hxy => by
    cases ys with
    | nil => exact .nil
    | cons y ys => cases hxy
  | x :: xs, ys, hxy => by
    cases ys with
    | nil => cases hxy
    | cons y ys =>
      obtain ⟨hfirst, hothers⟩ := List.cons.inj hxy
      exact .cons (h.agree_tokens x y hfirst) (h.agree_tokensEach xs ys hothers)

end

/-! ## Contents read back -/

/-- What is in an expression is read back from its tokens: scalars from those of constants, names from those of
columns and parameters. -/
structure Decodes (c : Compiler) : Prop where
  /-- Each node has its tokens in those of the whole, where they stand together. -/
  node : ∀ x, c.Spans x.nodes (c.tokens? x)
  /-- A constant is read as its scalar, whatever comes next. -/
  constant : ∀ s ts, c.tokens? (.constant s) = some ts →
    ∀ rest, ∃ k, Sql.readConstant (ts ++ rest) = .ok (k, rest) ∧ c.ReadsAs s k
  /-- The list of a membership is read as the scalars in it, each in its place and no other. -/
  list : ∀ values item x ts, x ∈ [Expr.method "Contains" (.list values) [item], .call "Contains" [.list values, item]] →
    c.tokens? x = some ts → ∃ us set, c.tokens? item = some us ∧
      ts = parenTokens (us ++ Keyword.token .in :: parenTokens set) ∧
      ∀ rest, ∃ ks, Sql.readSet (set ++ .symbol .close :: rest) = .ok (ks, rest) ∧ List.Forall₂ c.ReadsAs values ks
  /-- A column is named as it is in a table in scope, which the reference means. -/
  column : ∀ ref ts, c.tokens? (.column ref) = some ts → ∃ t ∈ c.scope.tables, ∃ col, t.HasColumn ref.column col ∧
    (∀ name, ref.table = some name → t.name = name) ∧
    ts = columnTokens (if c.scope.qualified then some t.name else none) col.name
  /-- A parameter is a place of its name. -/
  parameter : ∀ name ts, c.tokens? (.parameter name) = some ts → ts = [.place (.named ':' name)]

/-- The tokens of a membership are those of its item and of the constants that stand for its list. -/
theorem callTokens?_member {values : List Scalar} {t item : Option (List Token)} {ts : List Token}
    (h : c.callTokens? "Contains" (some values) [t, item] = some ts) :
    ∃ us ks, item = some us ∧ values.mapM c.leaf? = some ks ∧
      ts = parenTokens (us ++ Keyword.token .in :: parenTokens (commaTokens (ks.map Sql.Constant.tokens))) := by
  have hname : Method.ofName? "Contains" = some .contains := by decide
  unfold callTokens? at h
  rw [hname, Option.bind_eq_bind, Option.bind_some] at h
  obtain ⟨us, hus, h⟩ := Option.bind_eq_some_iff.1 h
  obtain ⟨ks, hks, h⟩ := Option.bind_eq_some_iff.1 h
  exact ⟨us, ks, hus, hks, (Option.some.inj h).symm⟩

/-- What is in an expression is read back, in every scope, style and coercion. -/
theorem decodes (c : Compiler) : c.Decodes where
  node x := spans_nodes x
  constant s ts h rest := by
    obtain ⟨k, hk, rfl⟩ := Option.map_eq_some_iff.1 h
    exact readConstant_leaf hk rest
  list values item x ts hx h := by
    have hcall : c.callTokens? "Contains" (some values) [c.tokens? (.list values), c.tokens? item] = some ts := by
      rcases List.mem_pair.1 hx with rfl | rfl
      · rwa [tokens?] at h
      · rwa [tokens?] at h
    obtain ⟨us, ks, hus, hks, rfl⟩ := callTokens?_member hcall
    exact ⟨us, _, hus, rfl, readSet_leaves hks⟩
  column ref ts h := by
    obtain ⟨⟨t, col⟩, howner, rfl⟩ := Option.map_eq_some_iff.1 h
    have hresolve : c.scope.resolve ref = .ok (t, col) := by
      cases hr : c.scope.resolve ref with
      | error e => simp [hr, Except.toOption] at howner
      | ok owner => simpa [hr, Except.toOption] using howner
    obtain ⟨ht, hcolumn, hname⟩ := Scope.hasColumn_of_resolve hresolve
    exact ⟨t, ht, col, hcolumn, hname, rfl⟩
  parameter name ts h := by
    rw [tokens?] at h
    split at h
    · exact (Option.some.inj h).symm
    · cases h

end Compiler

end SqlMapper
