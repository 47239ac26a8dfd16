import SqlMapper.Engine.Database
import SqlMapper.Proofs.Compiler.Grouping
import SqlMapper.Proofs.Engine.Patterns
import SqlMapper.Proofs.Sql.Filling

/-!
# Searching texts

What the three methods that search a text for a needle keep: the rows whose text is like the needle with percent
signs around it. Nothing in the needle is escaped, so a percent sign or an underscore in it stands for other
characters, and a method tells whether the needle stands in the text if and only if there is none of them in the
needle (`search_holds_iff`).
-/

namespace SqlMapper

namespace Search

/-- The method of a search. -/
def method : Search → Method
  | .contains => .contains
  | .startsWith => .startsWith
  | .endsWith => .endsWith

/-- The expression that searches a text for a needle. -/
def test (k : Search) (text needle : Expr) : Expr :=
  match k with
  | .contains => text.contains needle
  | .startsWith => text.startsWith needle
  | .endsWith => text.endsWith needle

/-- The term of the pattern of a search. -/
def patternTerm (k : Search) (needle : Sql.Term) : Sql.Term :=
  match k with
  | .contains => .binary .concat (.binary .concat (.string "%") needle) (.string "%")
  | .startsWith => .binary .concat needle (.string "%")
  | .endsWith => .binary .concat (.string "%") needle

/-- The term that searches a text for a needle. -/
def term (k : Search) (text needle : Sql.Term) : Sql.Term := .paren (.binary .like text (.paren (k.patternTerm needle)))

variable (k : Search) {c : Compiler} {x needle : Expr} {b n : Bound Sql.Term}

/-- A search is compiled to the term of its text and its needle. -/
theorem compile_test (hx : c.compile x = .ok b) (hneedle : c.compile needle = .ok n) :
    c.compile (k.test x needle) = .ok ⟨k.term b.sql n.sql, b.params ++ n.params⟩ := by
  have hvalues : x.values? = none := by
    cases x with
    | list values =>
      rw [Compiler.compile] at hx
      cases hx
    | _ => rfl
  have hmethod : c.compile (k.test x needle) = c.invoke k.method.name none [c.compile x, c.compile needle] := by
    rw [← hvalues]
    cases k <;> simp [test, Expr.contains, Expr.startsWith, Expr.endsWith, Compiler.compile, Compiler.compileEach,
      method, Method.name]
  have hname : Method.ofName? k.method.name = some k.method := by cases k <;> decide
  have harity : k.method.arity = 2 := by cases k <;> rfl
  rw [hmethod, c.invoke_of_not_member hname (fun h => by cases h.2.1), hx, hneedle, harity]
  cases k <;> simp [Bound.collect, Method.apply, method, Method.term?, Method.params, term, patternTerm, bind,
    Except.bind, pure, Except.pure]

/-- The term of a search on an emitted text that is no negation is read as it is written. -/
theorem grouped_term {m : Emitted} (hm : m.isNot = false) (constant : Sql.WritableConstant) :
    (k.term m.written (.constant constant.1)).grouped = k.term m.written.grouped (.constant constant.1.reread) := by
  let percent : Emitted := .constant (.text "%")
  have hfollowed : ∀ make, m.read.followedBy Sql.BinaryOp.like.level make = make m.read := fun make =>
    Emitted.followedBy_of_not make (by simp [hm])
  rw [m.grouped_written]
  cases k with
  | contains =>
    have hwritten : term .contains m.written (.constant constant.1) =
        (Emitted.contains m (.constant constant)).written := rfl
    rw [hwritten, Emitted.grouped_written, Emitted.read, hfollowed]
    rfl
  | startsWith =>
    have hwritten : term .startsWith m.written (.constant constant.1) =
        (Emitted.binary .like m (.binary .concat (.constant constant) percent)).written := rfl
    rw [hwritten, Emitted.grouped_written, Emitted.read, hfollowed]
    rfl
  | endsWith =>
    have hwritten : term .endsWith m.written (.constant constant.1) =
        (Emitted.binary .like m (.binary .concat percent (.constant constant))).written := rfl
    rw [hwritten, Emitted.grouped_written, Emitted.read, hfollowed]
    rfl

/-- A search holds on a row where the text is like the pattern of the needle. -/
theorem holds_term {text needle : Sql.Term} {f : Frame} {row : List Native} {s t : String}
    (htext : text.eval f row = .text s) (hneedle : needle.eval f row = .text t) :
    (k.term text needle).holds f row = isLike s (k.pattern t) := by
  have hpattern : (k.patternTerm needle).eval f row = .text (k.pattern t) := by
    cases k <;> simp [patternTerm, Sql.Term.eval, Sql.BinaryOp.compares, hneedle, Sql.Term.string, Sql.Constant.value,
      Native.operate, Native.onTexts, Native.toText?, pattern]
  have hlike : (k.term text needle).eval f row = .ofTruth (some (isLike s (k.pattern t))) := by
    simp [term, Sql.Term.eval, Sql.BinaryOp.compares, htext, hpattern, Native.operate, Native.onTexts, Native.toText?]
  have htruth : ∀ b : Bool, ((Native.ofTruth (some b)).truth? == some true) = b := by decide
  rw [Sql.Term.holds, hlike, htruth]

/-! ## Constant needles -/

/-- A constant text is compiled, and is read and filled as itself. -/
theorem compile_text (c : Compiler) (t : String) :
    ∃ constant : Bound Sql.WritableConstant,
      c.compile (.constant (.text t)) = .ok (constant.map fun w => .constant w.1) ∧
      ((Sql.Term.constant constant.sql.1.reread).fill constant.params).1 = .string t := by
  have hconstant : c.constant (.text t) =
      if c.style = .inline then .ok ⟨.literal (.text t), []⟩ else .ok ⟨.placeholder, [.text t]⟩ := by
    have hstored : Error.ofCoercion ((Scalar.text t).toNative c.coercion) = .ok (.text t) := rfl
    rw [Compiler.constant, hstored]
    by_cases hstyle : c.style = .inline <;>
      simp [hstyle, bind, Except.bind, pure, Except.pure, Native.checkLiteral, Native.isNull]
  by_cases hstyle : c.style = .inline
  · refine ⟨⟨.text t, []⟩, ?_, rfl⟩
    rw [Compiler.compile, hconstant, if_pos hstyle]
    rfl
  · refine ⟨⟨⟨.placeholder, trivial⟩, [.text t]⟩, ?_, rfl⟩
    rw [Compiler.compile, hconstant, if_neg hstyle]
    rfl

/-- A search that is filled with values for its text and then with the value of its needle is filled part by part. -/
theorem fill_term {text needle : Sql.Term} {values bound : List Native} (hvalues : values.length = text.places.length) :
    ((k.term text needle).fill (values ++ bound)).1 = k.term (text.fill (values ++ bound)).1 (needle.fill bound).1 := by
  have hrest : (text.fill (values ++ bound)).2 = bound := by rw [Sql.Term.fill_rest, ← hvalues, List.drop_left]
  have hpercent : ∀ vs, (Sql.Term.string "%").fill vs = (.string "%", vs) := fun _ => rfl
  cases k <;> simp only [term, patternTerm, Sql.Term.fill, hrest, hpercent]

end Search

/-- A search for a constant needle holds on the texts that are like the needle with percent signs around it, that
is, in which something stands that the needle matches as a pattern. It is the needle itself, up to case, for every
text if and only if there are no wildcards in the needle. -/
theorem search_holds_iff (k : Search) (c : Compiler) (x : Expr) (b : Bound Sql.Term) (hx : c.compile x = .ok b)
    (hnegation : x.isNegation = false) (needle : String) :
    (∃ search bound, c.compile (k.test x (.constant (.text needle))) = .ok search ∧ search.params = b.params ++ bound ∧
      ∀ (f : Frame) (row values : List Native) (text : String), values.length = b.sql.grouped.places.length →
        (b.sql.grouped.fill (values ++ bound)).1.eval f row = .text text →
          let holds := (search.sql.grouped.fill (values ++ bound)).1.holds f row
          holds = isLike text (k.pattern needle) ∧
          (WithoutNull needle → WithoutNull text →
            (holds = true ↔ ∃ v, k.Finds v text.toList ∧ patternMatches needle.toList v = true) ∧
            ((∀ char ∈ needle.toList, isWildcard char = false) →
              (holds = true ↔ k.Finds (needle.toList.map Char.toLower) (text.toList.map Char.toLower))))) ∧
    (WithoutNull needle →
      ((∀ text, WithoutNull text →
          (isLike text (k.pattern needle) = true ↔
            k.Finds (needle.toList.map Char.toLower) (text.toList.map Char.toLower))) ↔
        ∀ char ∈ needle.toList, isWildcard char = false)) := by
  refine ⟨?_, fun hneedle => k.finds_iff_plain hneedle⟩
  obtain ⟨constant, hconstant, hfill⟩ := Search.compile_text c needle
  obtain ⟨m, hm⟩ := Emitted.compile_emits x b hx
  refine ⟨_, constant.params, k.compile_test hx hconstant, rfl, fun f row values text hvalues htext => ?_⟩
  intro holds
  have hlike : holds = isLike text (k.pattern needle) := by
    have hgrouped := k.grouped_term (hm.isNot.trans hnegation) constant.sql
    rw [← hm.written] at hgrouped
    change Sql.Term.holds
      ((k.term b.sql (.constant constant.sql.1)).grouped.fill (values ++ constant.params)).1 f row = _
    rw [hgrouped, k.fill_term hvalues, hfill]
    exact k.holds_term htext rfl
  refine ⟨hlike, fun hneedle hnull => ⟨?_, fun hplain => ?_⟩⟩
  · rw [hlike]
    exact k.isLike_pattern_iff hneedle hnull
  · rw [hlike]
    exact (k.finds_iff_plain hneedle).2 hplain text hnull

/-- A needle without wildcards is found in a column where it stands, whatever the case. -/
theorem search_holds_iff_column :
    let t : Table := ⟨"note", [{ name := "body", property := "body", kind := .text }], by decide⟩
    let c : Compiler := ⟨.single t, .positional, {}⟩
    ∃ search, c.compile ((Expr.ofColumn "body").contains (.constant (.text "b"))) = .ok search ∧
      (search.sql.grouped.fill search.params).1.holds [⟨"note", "body", false⟩] [.text "aBc"] = true := by
  intro t c
  have hcolumn : c.compile (Expr.ofColumn "body") = .ok (.pure (.column none "body")) := by decide +kernel
  have hgrouped : (Sql.Term.column none "body").grouped = .column none "body" := by decide +kernel
  obtain ⟨⟨search, bound, hsearch, hparams, hholds⟩, -⟩ := search_holds_iff .contains c _ _ hcolumn rfl "b"
  have htext : ((Sql.Term.column none "body").grouped.fill ([] ++ bound)).1.eval [⟨"note", "body", false⟩]
      [.text "aBc"] =
      .text "aBc" := by
    rw [hgrouped]
    rfl
  obtain ⟨-, hplain⟩ :=
    hholds [⟨"note", "body", false⟩] [.text "aBc"] [] "aBc" (by rw [Bound.pure, hgrouped]; rfl) htext
  refine ⟨search, hsearch, ?_⟩
  rw [hparams]
  have hwildcards : ∀ char ∈ "b".toList, isWildcard char = false := by simp [isWildcard]
  exact ((hplain (by decide) (by decide)).2 hwildcards).2 (by decide)

/-- A needle with a wildcard is found where it does not stand. -/
theorem search_takes_wildcards :
    let t : Table := ⟨"note", [{ name := "body", property := "body", kind := .text }], by decide⟩
    let c : Compiler := ⟨.single t, .positional, {}⟩
    ¬ ∀ (k : Search) (needle text : String) (search : Bound Sql.Term),
      c.compile (k.test (Expr.ofColumn "body") (.constant (.text needle))) = .ok search →
        ((search.sql.grouped.fill search.params).1.holds [⟨"note", "body", false⟩] [.text text] = true ↔
          k.Finds (needle.toList.map Char.toLower) (text.toList.map Char.toLower)) := by
  intro t c h
  have hfound : ∃ search, c.compile ((Expr.ofColumn "body").contains (.constant (.text "a_c"))) = .ok search ∧
      (search.sql.grouped.fill search.params).1.holds [⟨"note", "body", false⟩] [.text "abc"] = true := by
    refine ⟨⟨Search.contains.term (.column none "body") (.constant .placeholder), [.text "a_c"]⟩, ?_, ?_⟩ <;>
      decide +kernel
  obtain ⟨search, hsearch, hholds⟩ := hfound
  exact absurd ((h .contains "a_c" "abc" search hsearch).1 hholds) (by decide)

end SqlMapper
