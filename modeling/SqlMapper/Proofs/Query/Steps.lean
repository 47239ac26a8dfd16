import SqlMapper.Query.Chain

/-!
# Steps of a chain

Which steps a chain can take, and what each makes of it, as a relation (`Clause.StepsTo`) that holds of just the
steps that are allowed (`Clause.step_eq_some_iff`). What holds of every table alone and is kept by every such step
holds of all chains (`Clause.ofChain_induction`).
-/

namespace SqlMapper

namespace Clause

/-- The steps that are allowed. A limit, an offset or an index is put on what has no page yet, and of these an
offset may come after a limit and a limit after an offset. -/
inductive StepsTo : Clause → ChainStep → Clause → Prop where
  | join (s : Source) (kind : Sql.JoinKind) (t : Table) (condition : Expr) :
    StepsTo (.source s) (.join kind t condition) (.source (s.join kind t condition))
  | selectAll (s : Source) : StepsTo (.source s) .selectAll (.selection s.selectAll)
  | select (s : Source) (distinct : Bool) (columns : List Expr) :
    StepsTo (.source s) (.select distinct columns)
    (.selection (if distinct then s.selectDistinct columns else s.select columns))
  | whereFirst (s : Selection) (p : Expr) : StepsTo (.selection s) (.where p) (.filter (s.where p))
  | whereMore (f : Filter) (p : Expr) : StepsTo (.filter f) (.where p) (.filter (f.where p))
  | orderSelection (s : Selection) (x : Expr) (descending : Bool) :
    StepsTo (.selection s) (.orderBy x descending) (.ordered (s.toQuery.orderBy x descending))
  | orderFilter (f : Filter) (x : Expr) (descending : Bool) :
    StepsTo (.filter f) (.orderBy x descending) (.ordered (f.toQuery.orderBy x descending))
  | thenBy (q : Query) (x : Expr) (descending : Bool) :
    StepsTo (.ordered q) (.thenBy x descending) (.ordered (q.orderBy x descending))
  | take {k : Clause} {q : Query} (h : k.unpaged? = some q) (n : Nat) : StepsTo k (.take n) (.limited (q.take n))
  | takePaged (q : Query) (n : Nat) : StepsTo (.paged q) (.take n) (.paged (q.take n))
  | skip {k : Clause} {q : Query} (h : k.unpaged? = some q) (n : Nat) : StepsTo k (.skip n) (.paged (q.skip n))
  | skipLimited (q : Query) (n : Nat) : StepsTo (.limited q) (.skip n) (.paged (q.skip n))
  | elementAt {k : Clause} {q : Query} (h : k.unpaged? = some q) (n : Nat) :
    StepsTo k (.elementAt n) (.paged (q.elementAt n))

variable {k l : Clause} {s : ChainStep}

/-- A step that is taken by every chain without a page yet leads to what is made of its query. -/
theorem stepsTo_of_unpaged {make : Query → Clause} (hmake : ∀ q, k.unpaged? = some q → k.StepsTo s (make q))
    (h : k.unpaged?.map make = some l) : k.StepsTo s l := by
  obtain ⟨q, hq, rfl⟩ := Option.map_eq_some_iff.1 h
  exact hmake q hq

/-- What a step makes of a chain is among the steps that the chain takes. -/
theorem stepsTo_of_step (h : k.step s = some l) : k.StepsTo s l := by
  cases s with
  | «from» t => cases h
  | join kind t condition =>
    cases k with
    | source s =>
      obtain rfl := Option.some.inj h
      exact .join s kind t condition
    | _ => cases h
  | selectAll =>
    cases k with
    | source s =>
      obtain rfl := Option.some.inj h
      exact .selectAll s
    | _ => cases h
  | select distinct columns =>
    cases k with
    | source s =>
      obtain rfl := Option.some.inj h
      exact .select s distinct columns
    | _ => cases h
  | «where» p =>
    cases k with
    | selection s =>
      obtain rfl := Option.some.inj h
      exact .whereFirst s p
    | filter f =>
      obtain rfl := Option.some.inj h
      exact .whereMore f p
    | _ => cases h
  | orderBy x descending =>
    cases k with
    | selection s =>
      obtain rfl := Option.some.inj h
      exact .orderSelection s x descending
    | filter f =>
      obtain rfl := Option.some.inj h
      exact .orderFilter f x descending
    | _ => cases h
  | thenBy x descending =>
    cases k with
    | ordered q =>
      obtain rfl := Option.some.inj h
      exact .thenBy q x descending
    | _ => cases h
  | take n =>
    cases k with
    | paged q =>
      obtain rfl := Option.some.inj h
      exact .takePaged q n
    | _ => exact stepsTo_of_unpaged (fun _ hq => .take hq n) h
  | skip n =>
    cases k with
    | limited q =>
      obtain rfl := Option.some.inj h
      exact .skipLimited q n
    | _ => exact stepsTo_of_unpaged (fun _ hq => .skip hq n) h
  | elementAt n => exact stepsTo_of_unpaged (fun _ hq => .elementAt hq n) h

/-- A step that a chain takes is made. -/
theorem StepsTo.step_eq (h : k.StepsTo s l) : k.step s = some l := by
  cases h with
  | take hq n => cases k <;> cases hq <;> rfl
  | skip hq n => cases k <;> cases hq <;> rfl
  | elementAt hq n => cases k <;> cases hq <;> rfl
  | _ => rfl

theorem step_eq_some_iff : k.step s = some l ↔ k.StepsTo s l := ⟨stepsTo_of_step, StepsTo.step_eq⟩

/-- What holds of a table alone and is kept by every step holds of every chain. -/
theorem ofChain_induction {P : Clause → Prop} (hsource : ∀ t, P (.source (.ofTable t)))
    (hstep : ∀ {k l : Clause} {s : ChainStep}, P k → k.StepsTo s l → P l) {steps : List ChainStep} {k : Clause}
    (h : Clause.ofChain steps = some k) : P k := by
  have hall : ∀ (steps : List ChainStep) (start : Option Clause), (∀ k, start = some k → P k) →
      ∀ k, steps.foldl Clause.start start = some k → P k := by
    intro steps
    induction steps with
    | nil => exact fun _ h => h
    | cons s steps ih =>
      intro start hstart
      refine ih _ fun k hk => ?_
      unfold Clause.start at hk
      split at hk
      · obtain rfl := Option.some.inj hk
        exact hsource _
      · obtain ⟨l, hl, hk⟩ := Option.bind_eq_some_iff.1 hk
        exact hstep (hstart l hl) (step_eq_some_iff.1 hk)
  exact hall steps none (fun _ h => nomatch h) k h

end Clause

end SqlMapper
