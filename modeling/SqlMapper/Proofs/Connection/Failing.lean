import SqlMapper.Proofs.Connection.Exchange
import SqlMapper.Proofs.Connection.Insertion

/-!
# Operations that fail

A data operation that fails leaves the tables, the open levels and the stack as they were, on a connection in any
state. For the operations that send one statement this is because nothing is sent or the statement has no effect
(`exchange_failed`); for the insertion of many rows it is because its scope is undone, whichever row fails and
whichever batch of the scope is refused (`insertAllOver_keeps`).
-/

namespace SqlMapper

/-- Inserts rows in a scope of their own, on a store that may refuse batches. -/
def Connection.insertAllOver (x : Executor Database) (t : Table) (rows : List (List Scalar)) :
    Operation Connection Nat :=
  fun c => Session.scope x c.config.defaultMode
    (Operation.andThen (Connection.insertEach t rows) fun _ => Connection.yield (.ok rows.length)) c

/-- The rows of an insertion are inserted beside the levels. -/
theorem insertEach_besideLevels (t : Table) (rows : List (List Scalar)) (n : Nat) :
    Connection.BesideLevels (Operation.andThen (Connection.insertEach t rows) fun _ => Connection.yield (.ok n)) := by
  intro c
  have hrows := insertEach_beside t rows c
  unfold Operation.andThen
  rcases h : Connection.insertEach t rows c with ⟨_ | _, d⟩ <;> rw [h] at hrows <;> exact hrows

/-- An insertion of many rows that fails keeps the contents, and one that succeeds has inserted all rows in their
order. -/
theorem insertAllOver_keeps {x : Executor Database} (hx : x.RunsOrRefuses) (t : Table) (rows : List (List Scalar))
    (c : Connection) :
    (∀ e, (Connection.insertAllOver x t rows c).1 = .error e → c.SameContents (Connection.insertAllOver x t rows c).2) ∧
      ∀ n, (Connection.insertAllOver x t rows c).1 = .ok n → n = rows.length ∧
        t.insertRows c.coercion c.store.tables rows = .ok (Connection.insertAllOver x t rows c).2.store.tables ∧
        (Connection.insertAllOver x t rows c).2.store.levels = c.store.levels ∧
        (Connection.insertAllOver x t rows c).2.stack = c.stack := by
  obtain ⟨hfailed, hkept⟩ := scope_keeps hx c.config.defaultMode (insertEach_besideLevels t rows rows.length) c
  refine ⟨hfailed, fun n hn => ?_⟩
  obtain ⟨u, htables, hsettings, hu, hleft, hlevels, hstack⟩ := hkept n hn
  unfold Operation.andThen at hu hleft
  rcases heach : Connection.insertEach t rows u with ⟨e | ⟨⟩, v⟩
  · rw [heach] at hu
    cases hu
  · rw [heach] at hu hleft
    have hrows := insertEach_ok heach
    have hcoercion : u.coercion = c.coercion := congrArg Config.coercion hsettings
    rw [hcoercion, htables] at hrows
    refine ⟨(Except.ok.inj hu).symm, ?_, hlevels, hstack⟩
    rw [hrows]
    exact congrArg _ hleft.symm

/-- A data operation that fails changes nothing, on a connection in any state. An insertion, a query, a count and a
deletion send the statement of their exchange and no other. When one of them fails, the tables, the open levels and
the stack are as before, and either the failure is one of the engine, or the rows of a query could not be made into
scalars of a table, or nothing was sent at all; so nothing is sent when an expression or a value or a parameter is
at fault. An insertion of many rows that fails keeps tables, levels and stack too, whichever batches of its scope
the store refuses, and when it succeeds it has inserted all rows in their order. -/
theorem failing_operation_changes_nothing (c : Connection) :
    (∀ (a : Action) (x : Exchange), a.exchange? c = some x → a.run c = x.run c ∧
      ∀ e, (a.run c).1 = .error e → c.SameContents (a.run c).2 ∧ a.Failure c e (a.run c).2) ∧
    (∀ (t : Table) (rows : List (List Scalar)),
      Connection.insertAll t rows = Connection.insertAllOver Database.executor t rows) ∧
    ∀ x : Executor Database, x.RunsOrRefuses → ∀ (t : Table) (rows : List (List Scalar)),
      let r := Connection.insertAllOver x t rows c
      (∀ e, r.1 = .error e → c.SameContents r.2) ∧
        ∀ n, r.1 = .ok n → n = rows.length ∧ t.insertRows c.coercion c.store.tables rows = .ok r.2.store.tables ∧
          r.2.store.levels = c.store.levels ∧ r.2.stack = c.stack := by
  refine ⟨fun a x h => ⟨run_eq_exchange h, fun e he => exchange_failed h he⟩, fun _ _ => rfl, ?_⟩
  intro x hx t rows r
  exact insertAllOver_keeps hx t rows c

/-- In memory: a deletion by a parameter without a value is not sent; the insertion of two rows of which the second
violates a unique column inserts neither; and so does the insertion of one row on a store that refuses to commit. -/
theorem failing_operation_changes_nothing_inMemory :
    let t : Table := ⟨"t", [{ name := "a", property := "a", kind := .text }], by decide +kernel⟩
    let c := (Connection.createTable t ["a"] (Connection.open none .inMemory)).2
    let f := (Source.ofTable t).selectAll.where ((Expr.ofColumn "a").eq (.parameter "p"))
    let busy : Executor Database :=
      ⟨fun b db => if b = .commit then (.error (.custom "busy"), db) else Database.executor.run b db⟩
    let row : List Scalar := [.text "x"]
    (Action.exchange? c (.delete f [])).isSome = true ∧ ((Action.delete f []).run c).1.isOk = false ∧
      c.SameContents ((Action.delete f []).run c).2 ∧
      (Connection.insertAll t [row, row] c).1.isOk = false ∧ c.SameContents (Connection.insertAll t [row, row] c).2 ∧
      (Connection.insertAllOver busy t [row] c).1.isOk = false ∧
        c.SameContents (Connection.insertAllOver busy t [row] c).2 := by
  intro t c f busy row
  obtain ⟨hexchange, -, hall⟩ := failing_operation_changes_nothing c
  have failed : ∀ {α : Type} (result : Except Error α), result.isOk = false → ∃ e, result = .error e := by
    rintro α (e | a) h
    · exact ⟨e, rfl⟩
    · cases h
  have hbusy : busy.RunsOrRefuses := by
    intro b db
    by_cases hb : b = .commit
    · exact Or.inr ⟨by rw [hb]; rfl, .custom "busy", if_pos hb⟩
    · exact Or.inl (if_neg hb)
  have hdelete : ((Action.delete f []).run c).1.isOk = false := by decide +kernel
  have htwice : (Connection.insertAllOver Database.executor t [row, row] c).1.isOk = false := by decide +kernel
  have hrefused : (Connection.insertAllOver busy t [row] c).1.isOk = false := by decide +kernel
  obtain ⟨e, he⟩ := failed _ hdelete
  obtain ⟨e', he'⟩ := failed _ htwice
  obtain ⟨e'', he''⟩ := failed _ hrefused
  exact ⟨rfl, hdelete, ((hexchange (.delete f []) _ rfl).2 e he).1, htwice,
    (hall _ runsOrRefuses_executor t [row, row]).1 e' he', hrefused, (hall _ hbusy t [row]).1 e'' he''⟩

end SqlMapper
