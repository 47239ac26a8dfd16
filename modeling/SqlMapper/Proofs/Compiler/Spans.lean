import SqlMapper.Proofs.Compiler.Emitter
import SqlMapper.Proofs.Compiler.Grammar

/-!
# Nodes in the tokens

The tokens of a node stand together in the tokens of the expression that it is in (`Compiler.spans_nodes`). So what
is said of the tokens of a constant, a membership or an operator is said of a part of the text, however deep in the
expression it stands.
-/

namespace SqlMapper

open Sql (Token Keyword parenTokens)

/-! ## Parts -/

/-- Each of the parts that tokens are put together of stands together in them. -/
theorem infix_of_parts (parts : List (List Token)) {tss : List (List Token)} (hparts : ∀ us ∈ tss, us ∈ parts)
    {ts : List Token} (h : ts = parts.flatten) : ∀ us ∈ tss, us <:+: ts :=
  fun us hus => h ▸ List.infix_of_mem_flatten (hparts us hus)

/-- The tokens of an operand stand together in those of a method. -/
theorem Method.infix_tokens {m : Method} {tss : List (List Token)} {ts : List Token} (h : m.tokens? tss = some ts) :
    ∀ us ∈ tss, us <:+: ts := by
  rcases tss with _ | ⟨a, _ | ⟨b, _ | ⟨c, _ | ⟨d, tss⟩⟩⟩⟩
  · simp
  · have hfunction : ∀ name : String, ∀ us ∈ [a], us <:+: Token.word name :: parenTokens a := by
      intro name
      exact infix_of_parts [[.word name, .symbol .open], a, [.symbol .close]] (by simp) (by simp [parenTokens])
    cases m with
    | toLower => exact Option.some.inj h ▸ hfunction _
    | toUpper => exact Option.some.inj h ▸ hfunction _
    | trim => exact Option.some.inj h ▸ hfunction _
    | isNullOrEmpty =>
      obtain rfl := Option.some.inj h
      refine infix_of_parts [[.symbol .open], a, [Keyword.token .is, Keyword.token .null, Keyword.token .or], a,
        [.symbol .eq, .string "", .symbol .close]] (by simp) (by simp [parenTokens])
    | _ => cases h
  · have hoperator : ∀ middle back, parenTokens (a ++ middle ++ b ++ back) = ts → ∀ us ∈ [a, b], us <:+: ts := by
      rintro middle back rfl
      exact infix_of_parts [[.symbol .open], a, middle, b, back, [.symbol .close]] (by simp) (by simp [parenTokens])
    cases m with
    | like => exact hoperator [Keyword.token .like] [] (by simpa using Option.some.inj h)
    | equals => exact hoperator [.symbol .eq] [] (by simpa using Option.some.inj h)
    | is => exact hoperator [Keyword.token .is] [] (by simpa using Option.some.inj h)
    | isNot => exact hoperator [Keyword.token .is, Keyword.token .not] [] (by simpa using Option.some.inj h)
    | contains =>
      exact hoperator [Keyword.token .like, .symbol .open, .string "%", .symbol .concat]
        [.symbol .concat, .string "%", .symbol .close]
        (by simpa [parenTokens] using Option.some.inj h)
    | startsWith =>
      exact hoperator [Keyword.token .like, .symbol .open] [.symbol .concat, .string "%", .symbol .close]
        (by simpa [parenTokens] using Option.some.inj h)
    | endsWith =>
      exact hoperator [Keyword.token .like, .symbol .open, .string "%", .symbol .concat] [.symbol .close]
        (by simpa [parenTokens] using Option.some.inj h)
    | _ => cases h
  · cases m <;> cases h
    exact infix_of_parts [[.word "replace", .symbol .open], a, [.symbol .comma], b, [.symbol .comma], c,
      [.symbol .close]]
      (by simp) (by simp [parenTokens])
  · cases m <;> cases h

/-! ## Nodes -/

namespace Compiler

variable (c : Compiler)

/-- The tokens of every expression among some nodes stand together in the tokens. -/
def Spans (nodes : List Expr.Node) (tokens : Option (List Token)) : Prop :=
  ∀ ts, tokens = some ts → ∀ y, .root y ∈ nodes → ∃ us, c.tokens? y = some us ∧ us <:+: ts

variable {c}

/-- A node stands in its own tokens. -/
theorem Spans.cons {x : Expr} {nodes : List Expr.Node} (h : c.Spans nodes (c.tokens? x)) :
    c.Spans (.root x :: nodes) (c.tokens? x) := by
  intro ts hts y hy
  obtain hy | hy := List.mem_cons.1 hy
  · obtain rfl := Expr.Node.root.inj hy
    exact ⟨ts, hts, List.infix_rfl⟩
  · exact h ts hts y hy

/-- A node of operands stands in the tokens of one of them. -/
theorem Spans.exists_of_flatten {nodes : List (List Expr.Node)} {tss : List (Option (List Token))}
    (h : List.Forall₂ c.Spans nodes tss) {uss : List (List Token)} (huss : tss.mapM id = some uss) {y : Expr}
    (hy : .root y ∈ nodes.flatten) : ∃ us ∈ uss, ∃ vs, c.tokens? y = some vs ∧ vs <:+: us := by
  obtain ⟨part, hpart, hy⟩ := List.mem_flatten.1 hy
  obtain ⟨t, ht, hspans⟩ := exists_of_forall₂ h.flip hpart
  obtain ⟨us, hus, hsome⟩ := exists_of_forall₂ (forall₂_of_mapM_some huss).flip ht
  exact ⟨us, hus, hspans us hsome y hy⟩

/-- The nodes of the operands of a call stand in its tokens. -/
theorem Spans.call {name : String} {set : Option (List Scalar)} {nodes : List (List Expr.Node)}
    {tss : List (Option (List Token))} (h : List.Forall₂ c.Spans nodes tss) :
    c.Spans (Expr.operandNodes name set nodes) (c.callTokens? name set tss) := by
  intro ts hts y hy
  cases hm : Method.ofName? name with
  | none =>
    unfold callTokens? at hts
    rw [hm] at hts
    cases hts
  | some m =>
    rcases m.member_or_not set tss with ⟨values, t, item, rfl, rfl, rfl⟩ | hmember
    · obtain ⟨n, k, rfl, -, hitem⟩ := forall₂_pair h.flip
      have hnode : .root y ∈ k := by simpa [Expr.operandNodes, hm] using hy
      unfold callTokens? at hts
      rw [hm, Option.bind_eq_bind, Option.bind_some] at hts
      obtain ⟨us, hus, hset⟩ := Option.bind_eq_some_iff.1 hts
      obtain ⟨set, -, hparen⟩ := Option.bind_eq_some_iff.1 hset
      obtain rfl := Option.some.inj hparen
      obtain ⟨vs, hvs, hin⟩ := hitem us hus y hnode
      exact ⟨vs, hvs, hin.trans ⟨[.symbol .open], _, by simp [parenTokens]; rfl⟩⟩
    · rw [c.callTokens?_of_not_member hm hmember] at hts
      obtain ⟨uss, huss, hts⟩ := Option.bind_eq_some_iff.1 hts
      rw [Expr.operandNodes_of_not_member fun hcontains hset hlength =>
        hmember ⟨Option.some.inj (hm.symm.trans hcontains), hset, h.length_eq ▸ hlength⟩] at hy
      obtain ⟨us, hus, vs, hvs, hin⟩ := Spans.exists_of_flatten h huss hy
      exact ⟨vs, hvs, hin.trans (Method.infix_tokens hts us hus)⟩

mutual

/-- The tokens of every node of an expression stand together in those of the expression. -/
theorem spans_nodes : ∀ x : Expr, c.Spans x.nodes (c.tokens? x)
  | .constant s => .cons nofun
  | .list values => nofun
  | .parameter name => .cons nofun
  | .column ref => .cons nofun
  | .binary op left right => by
    refine .cons fun ts hts y hy => ?_
    obtain ⟨l, hl, h⟩ := Option.bind_eq_some_iff.1 hts
    obtain ⟨r, hr, h⟩ := Option.bind_eq_some_iff.1 h
    obtain ⟨o, -, rfl⟩ := Option.map_eq_some_iff.1 h
    obtain hy | hy := List.mem_append.1 hy
    · obtain ⟨us, hus, hin⟩ := spans_nodes left l hl y hy
      exact ⟨us, hus, hin.trans ⟨[.symbol .open], _, by simp [parenTokens]; rfl⟩⟩
    · obtain ⟨us, hus, hin⟩ := spans_nodes right r hr y hy
      exact ⟨us, hus, hin.trans ⟨.symbol .open :: l ++ _, [.symbol .close], by simp [parenTokens]; rfl⟩⟩
  | .not x => by
    refine .cons fun ts hts y hy => ?_
    obtain ⟨us, hus, rfl⟩ := Option.map_eq_some_iff.1 hts
    obtain ⟨vs, hvs, hin⟩ := spans_nodes x us hus y hy
    exact ⟨vs, hvs, hin.trans ⟨[Keyword.token .not, .symbol .open], [.symbol .close], by simp [parenTokens]⟩⟩
  | .method name receiver args => .cons (.call (.cons (spans_nodes receiver) (spans_nodesEach args)))
  | .call name args => .cons (.call (spans_nodesEach args))
  | .convert x kind => .cons (spans_nodes x)

/-- So do those of operands, one by one. -/
theorem spans_nodesEach : ∀ xs : List Expr, List.Forall₂ c.Spans (Expr.nodesEach xs) (c.tokensEach xs)
  | [] => .nil
  | x :: rest => .cons (spans_nodes x) (spans_nodesEach rest)

end

end Compiler

end SqlMapper
