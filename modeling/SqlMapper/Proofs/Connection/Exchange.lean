import SqlMapper.Connection.Action
import SqlMapper.Proofs.Compiler.Compile
import SqlMapper.Proofs.Connection.Scope

/-!
# Exchanges with the database

An insertion, a query, a count and a deletion each send one statement at most, and make a reply of its outcome
(`Action.exchange?`, `run_eq_exchange`). Everything that can be wrong before is found while the request is made, and
then nothing is sent. What is sent fails without effect on tables and levels (`execute_failed`), and only what the
rows of a query are made into can fail after the statement has succeeded (`reply_fails_on_query`).
-/

namespace SqlMapper

/-! ## Statements that fail, and queries -/

/-- A change of the tables that is refused leaves them as they are. -/
theorem change_failed {α : Type} {count : α → Nat} {step : Tables → Except EngineError (Tables × α)} {db : Database}
    {e : EngineError} (h : (Database.change count step db).1 = .error e) :
    (Database.change count step db).2.tables = db.tables := by
  unfold Database.change at h ⊢
  split
  · rename_i heq
    rw [heq] at h
    cases h
  · rfl

/-- A step on the levels that gives nothing fails when its outcome does. -/
theorem ofUnit_failed {r : Except EngineError Unit × Database} {e : EngineError} (h : (Outcome.ofUnit r).1 = .error e) :
    r = (.error e, r.2) := by
  obtain ⟨_ | _, db⟩ := r
  · obtain rfl := Except.error.inj h
    rfl
  · cases h

/-- A value made of an outcome is there only if the outcome is. -/
theorem error_of_map {ε α β : Type} {f : α → β} {r : Except ε α} {e : ε} (h : r.map f = .error e) : r = .error e := by
  cases r with
  | error e' => exact congrArg _ (Except.error.inj h)
  | ok a => cases h

/-- A statement that fails when it is run leaves the tables and the levels as they are. -/
theorem run_failed {titles : List String} {s : Sql.Statement} {db : Database} {e : EngineError}
    (h : (Database.run titles s db).1 = .error e) :
    (Database.run titles s db).2.tables = db.tables ∧ (Database.run titles s db).2.levels = db.levels := by
  cases hlevel : s.levelStep? with
  | some step =>
    have hrun : Database.run titles s db = Outcome.ofUnit (step db) := by
      cases s <;> simp only [Sql.Statement.levelStep?, Option.some.injEq, reduceCtorEq] at hlevel <;>
        subst hlevel <;> rfl
    rw [hrun] at h ⊢
    have hsame := levelStep_failed hlevel (ofUnit_failed h)
    rw [show (Outcome.ofUnit (step db)).2 = db from hsame]
    exact ⟨rfl, rfl⟩
  | none =>
    refine ⟨?_, run_levels hlevel titles db⟩
    cases s <;> simp only [Sql.Statement.levelStep?, reduceCtorEq] at hlevel
    case delete => exact change_failed (error_of_map h)
    case insert => exact change_failed (error_of_map h)
    case insertDefaults => exact change_failed (error_of_map h)
    case update => exact change_failed (error_of_map h)
    case setting name =>
      unfold Database.run
      dsimp only
      split <;> rfl
    all_goals rfl

/-- A statement that fails leaves the tables and the levels as they are. -/
theorem execute_failed {s : Sql.Statement} {values : List Native} {db db' : Database} {e : EngineError}
    (h : Database.execute s values db = (.error e, db')) : db'.tables = db.tables ∧ db'.levels = db.levels := by
  unfold Database.execute at h
  split at h
  · rw [← (Prod.mk.inj h).2]
    exact ⟨rfl, rfl⟩
  · dsimp only at h
    split at h
    · have hfailed := run_failed (congrArg Prod.fst h)
      rwa [h] at hfailed
    · rw [← (Prod.mk.inj h).2]
      exact ⟨rfl, rfl⟩

/-- A statement that only returns rows. -/
def Sql.Statement.isQuery : Sql.Statement → Bool
  | .select _ | .countOf _ | .countRows .. => true
  | _ => false

/-- A query leaves the database as it is. -/
theorem execute_query {s : Sql.Statement} (h : s.isQuery = true) (values : List Native) (db : Database) :
    (Database.execute s values db).2 = db := by
  have hrun : ∀ titles, (Database.run titles (s.bind values) db).2 = db := by
    intro titles
    cases s <;> first | rfl | cases h
  unfold Database.execute
  split
  · rfl
  · dsimp only
    split
    · exact hrun _
    · rfl

theorem isQuery_grouped (s : Sql.Statement) : s.grouped.isQuery = s.isQuery := by cases s <;> rfl

/-! ## Exchanges -/

/-- A statement with values for its parameters. -/
abbrev Request := Sql.Statement × List Native

/-- What is asked of a database, unless something is wrong with it, and what is made of the outcome. -/
structure Exchange where
  request : Except Error Request
  reply : Outcome → Except Error (Answer Reply)

/-- Sends what is asked; nothing, when something is wrong with it. -/
def Connection.submit (request : Except Error Request) : Operation Connection Outcome := fun c =>
  match request with
  | .error e => (.error e, c)
  | .ok (s, values) => Connection.step (Database.execute s values) c

/-- Sends what is asked and makes the reply. -/
def Exchange.run (x : Exchange) : Operation Connection (Answer Reply) := fun c =>
  let r := Connection.submit x.request c
  (r.1.bind x.reply, r.2)

/-- The request that a compiled statement is, with values for its named parameters. -/
def Connection.requestOf (c : Connection) (named : NamedValues) (b : Except Error (Bound Sql.Statement)) :
    Except Error Request := do
  let b ← b
  let values ← c.bindOrder named b
  return (b.sql.grouped, values)

/-- The rows of an outcome as a reply. -/
def Outcome.rowsReply (coercion : Coercion) (o : Outcome) : Except Error (List Row) :=
  Error.ofEngine (o.toRows coercion)

/-- What an action exchanges with the database, for the actions that send one statement of their own. -/
def Action.exchange? (c : Connection) : Action → Option Exchange
  | .insert t values => some
    { request := (t.insertValues c.coercion values).map fun params => (t.insertStatement, params)
      reply := fun o => .ok (.data (.number o.rowNumber.toInt)) }
  | .query q named => some
    { request := c.requestOf named (q.statement c.rendering)
      reply := fun o => (o.rowsReply c.coercion).map fun rows => .data (.rows rows) }
  | .queryAs t q named => some
    { request := c.requestOf named (q.statement c.rendering)
      reply := fun o => ((o.rowsReply c.coercion).bind fun rows => rows.mapM t.scalarsOf).map fun rows =>
      .data (.scalars rows) }
  | .count s predicate named => some
    { request := c.requestOf named (s.countWhere predicate c.rendering)
      reply := fun o => .ok (.data (.number o.firstNumber)) }
  | .delete f named => some
    { request := c.requestOf named (f.deleteStatement c.rendering)
      reply := fun o => .ok (.count o.count) }
  | _ => none

/-- A compiled statement is sent when it is bound, and nothing is sent when it is not. -/
theorem send_eq_submit (c : Connection) (named : NamedValues) (b : Except Error (Bound Sql.Statement)) :
    Connection.send named b c = Connection.submit (c.requestOf named b) c := by
  unfold Connection.send Connection.requestOf
  cases b with
  | error e => rfl
  | ok b =>
    cases hvalues : c.bindOrder named b <;>
      simp [hvalues, Bind.bind, Except.bind, Pure.pure, Except.pure, Connection.submit]

/-- Each of these actions is its exchange. -/
theorem run_eq_exchange {c : Connection} {a : Action} {x : Exchange} (h : a.exchange? c = some x) :
    a.run c = x.run c := by
  cases a with
  | insert t values =>
    obtain rfl := Option.some.inj h
    simp only [Action.run, Operation.answer, Connection.insert, Exchange.run, Connection.submit]
    cases t.insertValues c.coercion values with
    | error e => rfl
    | ok params =>
      simp only [Except.map]
      cases (Connection.step (Database.execute t.insertStatement params) c).1 <;> rfl
  | query q named =>
    obtain rfl := Option.some.inj h
    simp only [Action.run, Operation.answer, Connection.query, Exchange.run, send_eq_submit]
    cases (Connection.submit (c.requestOf named (q.statement c.rendering)) c).1 <;> rfl
  | queryAs t q named =>
    obtain rfl := Option.some.inj h
    simp only [Action.run, Operation.answer, Connection.queryAs, Operation.andThen, Connection.query, Exchange.run,
      send_eq_submit, Outcome.rowsReply]
    obtain ⟨_ | o, d⟩ := Connection.submit (c.requestOf named (q.statement c.rendering)) c
    · rfl
    · simp only [Except.bind]
      cases Error.ofEngine (o.toRows c.coercion) <;> rfl
  | count s predicate named =>
    obtain rfl := Option.some.inj h
    simp only [Action.run, Operation.answer, Connection.count, Exchange.run, send_eq_submit]
    cases (Connection.submit (c.requestOf named (s.countWhere predicate c.rendering)) c).1 <;> rfl
  | delete f named =>
    obtain rfl := Option.some.inj h
    simp only [Action.run, Operation.answer, Connection.delete, Exchange.run, send_eq_submit]
    cases (Connection.submit (c.requestOf named (f.deleteStatement c.rendering)) c).1 <;> rfl
  | _ => cases h

/-! ## How an exchange fails -/

/-- The statement of a selection is a query. -/
theorem isQuery_statement {q : Query} {r : Rendering} {b : Bound Sql.Statement} (h : q.statement r = .ok b) :
    b.sql.isQuery = true := by
  obtain ⟨select, -, h⟩ := bind_eq_ok h
  obtain rfl := Except.ok.inj h
  rfl

/-- Only what the rows of a query are made into can fail after the statement has succeeded. -/
theorem reply_fails_on_query {c : Connection} {a : Action} {x : Exchange} (h : a.exchange? c = some x)
    {s : Sql.Statement} {values : List Native} (hx : x.request = .ok (s, values)) {o : Outcome} {e : Error}
    (he : x.reply o = .error e) :
    s.isQuery = true := by
  have hgrouped : ∀ {named q}, c.requestOf named (Query.statement q c.rendering) = .ok (s, values) →
      s.isQuery = true := by
    intro named q hrequest
    obtain ⟨b, hb, hrequest⟩ := bind_eq_ok hrequest
    obtain ⟨vs, -, hrequest⟩ := bind_eq_ok hrequest
    obtain ⟨rfl, -⟩ := Prod.mk.inj (Except.ok.inj hrequest)
    rw [isQuery_grouped, isQuery_statement hb]
  cases a with
  | query q named =>
    obtain rfl := Option.some.inj h
    exact hgrouped hx
  | queryAs t q named =>
    obtain rfl := Option.some.inj h
    exact hgrouped hx
  | insert t values =>
    obtain rfl := Option.some.inj h
    cases he
  | count s predicate named =>
    obtain rfl := Option.some.inj h
    cases he
  | delete f named =>
    obtain rfl := Option.some.inj h
    cases he
  | _ => cases h

/-- How an action that sends one statement fails: nothing is sent, or the engine rejects what is sent or cannot read
the rows of it, or the rows of a query cannot be made into scalars of a table. -/
inductive Action.Failure (a : Action) (c : Connection) : Error → Connection → Prop where
  | unsent {x : Exchange} {e : Error} (hx : a.exchange? c = some x) (he : x.request = .error e) : Failure a c e c
  | engine {e : EngineError} {d : Connection} : Failure a c (.engine e) d
  | undecoded {t : Table} {q : Query} {named : NamedValues} {rows : List Row} {e : Error} (ha : a = .queryAs t q named)
    (hrows : (Connection.query q named c).1 = .ok rows) (he : rows.mapM t.scalarsOf = .error e) : Failure a c e c

/-- A failure of the engine stays one. -/
theorem ofEngine_failed {α : Type} {r : Except EngineError α} {e : Error} (h : Error.ofEngine r = .error e) :
    ∃ err, e = .engine err := by
  cases r with
  | error err => exact ⟨err, (Except.error.inj h).symm⟩
  | ok a => cases h

/-- A reply that fails, to a query that left the connection as it was. -/
theorem failure_of_reply {c : Connection} {a : Action} {x : Exchange} (h : a.exchange? c = some x)
    {o : Outcome} {e : Error} (hsent : Connection.submit x.request c = (.ok o, c)) (he : x.reply o = .error e) :
    a.Failure c e c := by
  cases a with
  | query q named =>
    obtain rfl := Option.some.inj h
    obtain ⟨err, rfl⟩ := ofEngine_failed (error_of_map he)
    exact .engine
  | queryAs t q named =>
    obtain rfl := Option.some.inj h
    have he := error_of_map he
    rcases hrows : o.rowsReply c.coercion with e' | rows
    · rw [hrows] at he
      obtain rfl := Except.error.inj he
      obtain ⟨err, rfl⟩ := ofEngine_failed hrows
      exact .engine
    · rw [hrows] at he
      refine .undecoded rfl ?_ he
      simp only [Connection.query, send_eq_submit, hsent]
      exact hrows
  | insert t values =>
    obtain rfl := Option.some.inj h
    cases he
  | count s predicate named =>
    obtain rfl := Option.some.inj h
    cases he
  | delete f named =>
    obtain rfl := Option.some.inj h
    cases he
  | _ => cases h

/-- An action that sends one statement and fails leaves the contents as they were. -/
theorem exchange_failed {c : Connection} {a : Action} {x : Exchange} (h : a.exchange? c = some x) {e : Error}
    (he : (a.run c).1 = .error e) : c.SameContents (a.run c).2 ∧ a.Failure c e (a.run c).2 := by
  rw [run_eq_exchange h] at he ⊢
  unfold Exchange.run at he ⊢
  cases hrequest : x.request with
  | error e' =>
    rw [hrequest] at he
    obtain rfl := Except.error.inj he
    exact ⟨⟨rfl, rfl, rfl⟩, .unsent h hrequest⟩
  | ok request =>
    obtain ⟨s, values⟩ := request
    rw [hrequest] at he
    simp only [Connection.submit, Connection.step] at he ⊢
    rcases hx : Database.execute s values c.store with ⟨err | o, db⟩
    · rw [hx] at he
      obtain rfl := Except.error.inj he
      obtain ⟨htables, hlevels⟩ := execute_failed hx
      exact ⟨⟨htables, hlevels, rfl⟩, .engine⟩
    · rw [hx] at he
      have hsame := execute_query (reply_fails_on_query h hrequest he) values c.store
      rw [hx] at hsame
      obtain rfl : db = c.store := hsame
      refine ⟨⟨rfl, rfl, rfl⟩, failure_of_reply h ?_ he⟩
      simp only [hrequest, Connection.submit, Connection.step, hx]
      rfl

/-- An insertion that fails leaves the contents as they were. -/
theorem insert_failed {t : Table} {values : List Scalar} {c d : Connection} {e : Error}
    (h : Connection.insert t values c = (.error e, d)) : c.SameContents d := by
  have hrun : (Action.insert t values).run c = (.error e, d) := by
    simp only [Action.run, Operation.answer, h]
    rfl
  have hsame := (exchange_failed (a := .insert t values) rfl (congrArg Prod.fst hrun)).1
  rwa [hrun] at hsame

/-- So does a deletion that fails. -/
theorem delete_failed {f : Filter} {named : NamedValues} {c d : Connection} {e : Error}
    (h : Connection.delete f named c = (.error e, d)) : c.SameContents d := by
  have hrun : (Action.delete f named).run c = (.error e, d) := by
    simp only [Action.run, Operation.answer, h]
    rfl
  have hsame := (exchange_failed (a := .delete f named) rfl (congrArg Prod.fst hrun)).1
  rwa [hrun] at hsame

end SqlMapper
