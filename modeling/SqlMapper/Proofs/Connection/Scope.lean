import SqlMapper.Connection.Basic
import SqlMapper.Proofs.Savepoint.Owner

/-!
# Scopes on connections

A scope on a connection whose body leaves the levels alone, on a store that may refuse any batch but those that undo
(`Executor.RunsOrRefuses`). It is not assumed that the stack and the levels of the database agree to begin with:
where they do not, because statements about levels were sent as text, a transaction that cannot be opened fails
without effect, and the savepoint of the scope is the innermost level of the database all the same. So the scope
gives back the contents there were when it fails, and those that its body left when it succeeds (`scope_keeps`).
-/

namespace SqlMapper

/-- Two connections have the same tables, and the same levels open. -/
structure Connection.SameContents (c d : Connection) : Prop where
  tables : d.store.tables = c.store.tables
  levels : d.store.levels = c.store.levels
  stack : d.stack = c.stack

/-! ## Stores that may refuse -/

/-- Whether a batch undoes something. -/
def Batch.undoes : Batch → Bool
  | .rollback | .rollbackTo _ => true
  | _ => false

/-- Batches are run as the database runs them, or refused without effect; those that undo are run. -/
def Executor.RunsOrRefuses (x : Executor Database) : Prop :=
  ∀ b db, x.run b db = Database.executor.run b db ∨ b.undoes = false ∧ ∃ e, x.run b db = (.error e, db)

theorem runsOrRefuses_executor : Database.executor.RunsOrRefuses := fun _ _ => Or.inl rfl

namespace Executor.RunsOrRefuses

variable {x : Executor Database} (hx : x.RunsOrRefuses)

include hx

/-- A batch that undoes is run. -/
theorem run_of_undoes {b : Batch} {db : Database} (hb : b.undoes = true) : x.run b db = Database.executor.run b db := by
  rcases hx b db with h | ⟨h, -⟩
  · exact h
  · rw [hb] at h
    cases h

/-- A batch of one statement about levels fails without effect, or does its step. -/
theorem run_step (b : Batch) (db : Database) {s : Sql.Statement} (hb : b.statements = [s]) {step : DatabaseStep Unit}
    (hs : s.levelStep? = some step) :
    (∃ e, x.run b db = (.error e, db)) ∨ ∃ db', x.run b db = (.ok (), db') ∧ step db = (.ok (), db') := by
  rcases hx b db with hrun | ⟨-, hrefused⟩
  · rw [hrun]
    simp only [Database.executor, hb, Database.executeAll]
    by_cases hsend : isSendable s.text = true
    · rw [executeUnbound_of_levelStep hs hsend]
      rcases hstep : step db with ⟨e | ⟨⟩, db'⟩
      · rw [levelStep_failed hs hstep]
        exact Or.inl ⟨.engine e, rfl⟩
      · exact Or.inr ⟨db', rfl, rfl⟩
    · have hprepare : db.prepare s = .error .malformed := by
        simp only [Database.prepare, hsend]
        rfl
      simp only [Database.executeUnbound, hprepare]
      exact Or.inl ⟨.engine .malformed, rfl⟩
  · exact Or.inl hrefused

/-- A rollback goes back to where the outermost level was opened. -/
theorem run_rollback {l : OpenLevel} {inner : List OpenLevel} (h : db.levels = l :: inner) :
    x.run .rollback db = (.ok (), { db with tables := l.before, levels := [] }) := by
  rw [hx.run_of_undoes rfl]
  simp only [Database.executor, Batch.statements, Database.executeAll,
    executeUnbound_of_levelStep (s := .rollback) rfl (by decide), Database.rollback, h]
  rfl

/-- A rollback to the innermost level goes back to where it was opened, and closes it. -/
theorem run_rollbackTo {name : String} (hn : Minted name) {below : List OpenLevel} {before : Tables}
    (h : db.levels = below ++ [⟨some name, before⟩]) :
    x.run (.rollbackTo name) db = (.ok (), { db with tables := before, levels := below }) := by
  obtain ⟨-, hrelease, hback⟩ := isSendable_namedText hn
  have hfind : OpenLevel.find? name (below ++ [⟨some name, before⟩]) = some (below, ⟨some name, before⟩) :=
    OpenLevels.find?_append below (by simp [OpenLevel.isNamed, Sql.sameWord]) (by simp)
  rw [hx.run_of_undoes rfl]
  simp only [Database.executor, Batch.statements, Database.executeAll,
    executeUnbound_of_levelStep (s := .rollbackTo name) rfl hback,
    executeUnbound_of_levelStep (s := .release name) rfl hrelease, Database.rollbackTo, h, hfind,
      Outcome.ofUnit, Except.map,
    Database.release]
  rfl

end Executor.RunsOrRefuses

/-! ## The steps of a scope -/

/-- Where a scope stands after it is entered: in the transaction that it opened around itself, or in the levels
there were. -/
inductive Session.Entered (c : Connection) : Connection → Prop where
  | own {d : Connection} (mode : Sql.LockMode) (hc : c.stack = []) (hlevels : c.store.levels = [])
    (hstack : d.stack = [.transaction mode]) (hstore : d.store = { c.store with levels := [⟨none, c.store.tables⟩] }) :
    Entered c d
  | nested (hc : c.stack ≠ []) : Entered c c

/-- Where the body of a scope runs: in a savepoint inside the transaction or the levels. -/
structure Session.Within (outer : Connection) (name : String) (d : Connection) : Prop where
  stack : d.stack = outer.stack ++ [.savepoint name]
  levels : d.store.levels = outer.store.levels ++ [⟨some name, outer.store.tables⟩]

namespace Session

variable {x : Executor Database} (hx : x.RunsOrRefuses) {c d v w : Connection} {name : String} {e : Error}

include hx

/-- A scope is entered, or the connection stays as it was. -/
theorem enter_connection (mode : Sql.LockMode) :
    (∃ e, Session.enter x c.stack.isEmpty mode c = (.error e, c)) ∨
      ∃ d, Session.enter x c.stack.isEmpty mode c = (.ok (), d) ∧ Entered c d := by
  by_cases hc : c.stack = []
  · have hempty : c.stack.isEmpty = true := List.isEmpty_iff.2 hc
    simp only [Session.enter, Session.begin, Session.send, hempty, if_true]
    rcases hx.run_step (.begin mode) c.store rfl rfl with ⟨e, hrun⟩ | ⟨db, hrun, hstep⟩
    · rw [hrun]
      exact Or.inl ⟨e, rfl⟩
    · rw [hrun]
      unfold Database.begin at hstep
      split at hstep
      · rename_i hlevels
        refine Or.inr ⟨_, rfl, .own mode hc (List.isEmpty_iff.1 hlevels) (by simp [hc]) ?_⟩
        exact (Prod.mk.inj hstep).2.symm
      · cases hstep
  · exact Or.inr ⟨c, Session.enter_nested x mode hc, .nested hc⟩

/-- A savepoint is refused without effect on the contents, or opened under a minted name. -/
theorem savepoint_connection (d : Connection) :
    (∃ e u, Session.savepoint x d = (.error e, u) ∧ u.store = d.store ∧ u.stack = d.stack) ∨
      ∃ name u, Session.savepoint x d = (.ok name, u) ∧ Minted name ∧ Within d name u ∧
        u.store.tables = d.store.tables ∧ u.store.settings = d.store.settings := by
  have hminted := mintedAt_mint d.stack.length d.stack.isLive d.stack.length d.names
  simp only [Session.savepoint, Session.send]
  generalize d.names.mint d.stack.length d.stack.isLive d.stack.length = minted at hminted ⊢
  rcases hx.run_step (.savepoint minted.1) d.store rfl rfl with ⟨e, hrun⟩ | ⟨db, hrun, hstep⟩
  · rw [hrun]
    exact Or.inl ⟨e, _, rfl, rfl, rfl⟩
  · rw [hrun]
    obtain rfl := (Prod.mk.inj hstep).2
    exact Or.inr ⟨_, _, rfl, ⟨_, hminted⟩, ⟨rfl, rfl⟩, rfl, rfl⟩

/-- The owner of a transaction goes back to where it was opened. -/
theorem undo_owner (name : Option String) (hc : c.stack = []) (hlevels : c.store.levels = []) (hstack : d.stack ≠ [])
    {inner : List OpenLevel} (hd : d.store.levels = ⟨none, c.store.tables⟩ :: inner) :
    c.SameContents (Session.undo x true name d) := by
  have hempty : d.stack.isEmpty = false := by simpa using hstack
  simp only [Session.undo, Session.rollback, Session.send, hempty, if_true, hx.run_rollback hd]
  exact ⟨rfl, hlevels.symm, hc.symm⟩

/-- Undoing a scope from within its savepoint brings back the contents there were before it. -/
theorem undo_within (hentered : Entered c d) (hn : Minted name) (hv : Within d name v) :
    c.SameContents (Session.undo x c.stack.isEmpty (some name) v) := by
  cases hentered with
  | own mode hc hlevels hstack hstore =>
    rw [List.isEmpty_iff.2 hc]
    exact undo_owner hx _ hc hlevels (by simp [hv.stack]) (by rw [hv.levels, hstore]; rfl)
  | nested hc =>
    have hempty : c.stack.isEmpty = false := by simpa using hc
    have hbelow : v.stack.below? name = some c.stack := by rw [hv.stack, SavepointStack.below?_push]
    have hlive := SavepointStack.isLive_of_below? hbelow
    simp only [Session.undo, Session.rollbackTo, Session.send, hempty, hlive, hbelow, if_true,
      Bool.false_eq_true, if_false, hx.run_rollbackTo hn hv.levels]
    exact ⟨rfl, rfl, rfl⟩

/-- The savepoint of a scope is released, or stays as it was. -/
theorem release_within (hv : Within d name v) :
    (∃ e, Session.release x name v = (.error e, v)) ∨
      ∃ w, Session.release x name v = (.ok (), w) ∧ w.stack = d.stack ∧
        w.store = { v.store with levels := d.store.levels } := by
  have hbelow : v.stack.below? name = some d.stack := by rw [hv.stack, SavepointStack.below?_push]
  have hfind : OpenLevel.find? name v.store.levels = some (d.store.levels, ⟨some name, d.store.tables⟩) := by
    rw [hv.levels]
    exact OpenLevels.find?_append _ (by simp [OpenLevel.isNamed, Sql.sameWord]) (by simp)
  simp only [Session.release, Session.send, hbelow]
  rcases hx.run_step (.release name) v.store rfl rfl with ⟨e, hrun⟩ | ⟨db, hrun, hstep⟩
  · rw [hrun]
    exact Or.inl ⟨e, rfl⟩
  · rw [hrun]
    simp only [Database.release, hfind] at hstep
    obtain rfl := (Prod.mk.inj hstep).2
    exact Or.inr ⟨_, rfl, rfl, rfl⟩

/-- A commit inside the transaction of a scope is refused without effect, or keeps the tables and closes all levels. -/
theorem commit_own (hstack : v.stack ≠ []) :
    (∃ e, Session.commit x v = (.error e, v)) ∨
      ∃ w, Session.commit x v = (.ok (), w) ∧ w.stack = [] ∧ w.store = { v.store with levels := [] } := by
  have hempty : v.stack.isEmpty = false := by simpa using hstack
  simp only [Session.commit, Session.send, hempty, Bool.false_eq_true, if_false]
  rcases hx.run_step .commit v.store rfl rfl with ⟨e, hrun⟩ | ⟨db, hrun, hstep⟩
  · rw [hrun]
    exact Or.inl ⟨e, rfl⟩
  · rw [hrun]
    unfold Database.commit at hstep
    split at hstep
    · cases hstep
    · obtain rfl := (Prod.mk.inj hstep).2
      exact Or.inr ⟨_, rfl, rfl, rfl⟩

/-- Closing a scope fails, and undoing it then brings back the contents there were; or it keeps the tables, and the
levels are those there were. -/
theorem leave_within (hentered : Entered c d) (hn : Minted name) (hv : Within d name v) :
    (∃ e w, Session.leave x c.stack.isEmpty name v = (.error e, w) ∧
        c.SameContents (Session.undo x c.stack.isEmpty (some name) w)) ∨
      ∃ w, Session.leave x c.stack.isEmpty name v = (.ok (), w) ∧ w.stack = c.stack ∧ w.store.levels = c.store.levels ∧
        w.store.tables = v.store.tables := by
  rcases release_within hx hv with ⟨e, hrelease⟩ | ⟨u, hrelease, hstack, hstore⟩
  · refine Or.inl ⟨e, v, ?_, undo_within hx hentered hn hv⟩
    simp only [Session.leave, hrelease]
  · simp only [Session.leave, hrelease]
    cases hentered with
    | nested hc =>
      have hempty : c.stack.isEmpty = false := by simpa using hc
      simp only [hempty, Bool.false_eq_true, if_false]
      exact Or.inr ⟨u, rfl, hstack, by rw [hstore], by rw [hstore]⟩
    | own mode hc hlevels hdstack hdstore =>
      have hnonempty : u.stack ≠ [] := by simp [hstack, hdstack]
      simp only [hc, List.isEmpty_nil, if_true]
      rcases commit_own hx hnonempty with ⟨e, hcommit⟩ | ⟨w, hcommit, hw, hwstore⟩
      · have hopened : u.store.levels = [⟨none, c.store.tables⟩] := by rw [hstore, hdstore]
        exact Or.inl ⟨e, u, hcommit, undo_owner hx _ hc hlevels hnonempty hopened⟩
      · exact Or.inr ⟨w, hcommit, hw, by rw [hwstore, hlevels], by rw [hwstore, hstore]⟩

end Session

/-! ## Scopes -/

/-- An operation that leaves the stack and the levels of the database alone. -/
def Connection.BesideLevels {α : Type} (op : Operation Connection α) : Prop :=
  ∀ c, (op c).2.stack = c.stack ∧ (op c).2.store.levels = c.store.levels

/-- A scope whose body leaves the levels alone keeps the contents when it fails. When it succeeds, the stack and the
levels are what they were, and the tables are those that the body made of the tables there were. -/
theorem scope_keeps {x : Executor Database} (hx : x.RunsOrRefuses) (mode : Sql.LockMode) {α : Type}
    {body : Operation Connection α} (hbody : Connection.BesideLevels body) (c : Connection) :
    (∀ e, (Session.scope x mode body c).1 = .error e → c.SameContents (Session.scope x mode body c).2) ∧
      ∀ a, (Session.scope x mode body c).1 = .ok a → ∃ u, u.store.tables = c.store.tables ∧
        u.store.settings = c.store.settings ∧ (body u).1 = .ok a ∧
        (Session.scope x mode body c).2.store.tables = (body u).2.store.tables ∧
        (Session.scope x mode body c).2.store.levels = c.store.levels ∧
        (Session.scope x mode body c).2.stack = c.stack := by
  rcases Session.enter_connection hx (c := c) mode with ⟨e, henter⟩ | ⟨d, henter, hentered⟩
  · simp only [Session.scope, henter]
    exact ⟨fun _ _ => ⟨rfl, rfl, rfl⟩, fun a ha => by cases ha⟩
  have hd : d.store.tables = c.store.tables ∧ d.store.settings = c.store.settings := by
    cases hentered with
    | own _ _ _ _ hstore => exact ⟨by rw [hstore], by rw [hstore]⟩
    | nested => exact ⟨rfl, rfl⟩
  rcases Session.savepoint_connection hx d with ⟨e, u, hsave, hstore, hstack⟩ |
    ⟨name, u, hsave, hn, hwithin, htables, hsettings⟩
  · simp only [Session.scope, henter, hsave]
    refine ⟨fun _ _ => ?_, fun a ha => by cases ha⟩
    cases hentered with
    | own mode hc hlevels hdstack hdstore =>
      have hopened : u.store.levels = [⟨none, c.store.tables⟩] := by rw [hstore, hdstore]
      rw [List.isEmpty_iff.2 hc]
      exact Session.undo_owner hx _ hc hlevels (by simp [hstack, hdstack]) hopened
    | nested hc =>
      have hempty : c.stack.isEmpty = false := by simpa using hc
      simp only [Session.undo, hempty]
      exact ⟨by rw [← hstore]; rfl, by rw [← hstore]; rfl, hstack⟩
  obtain ⟨hbstack, hblevels⟩ := hbody u
  rcases hb : body u with ⟨e | a, v⟩
  all_goals
    rw [hb] at hbstack hblevels
    have hv : Session.Within d name v := ⟨hbstack.trans hwithin.stack, hblevels.trans hwithin.levels⟩
  · simp only [Session.scope, henter, hsave, hb]
    exact ⟨fun _ _ => Session.undo_within hx hentered hn hv, fun a ha => by cases ha⟩
  · rcases Session.leave_within hx hentered hn hv with ⟨e, w, hleave, hundone⟩ | ⟨w, hleave, hstack, hlevels, hkept⟩
    · simp only [Session.scope, henter, hsave, hb, hleave]
      exact ⟨fun _ _ => hundone, fun a ha => by cases ha⟩
    · simp only [Session.scope, henter, hsave, hb, hleave]
      refine ⟨fun e he => (by cases he),
        fun a' ha => ⟨u, htables.trans hd.1, hsettings.trans hd.2, ?_, ?_, hlevels, hstack⟩⟩
      · rw [hb]
        exact ha
      · rw [hb]
        exact hkept

end SqlMapper
