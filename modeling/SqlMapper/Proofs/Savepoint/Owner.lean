import SqlMapper.Proofs.Savepoint.Bodies
import SqlMapper.Proofs.Savepoint.Refusals

/-!
# Scopes that own their transaction

A scope on an idle session opens the transaction around itself. Its body may do with savepoints whatever it likes,
its own and those of enclosing scopes included, and may leave the stack and the levels of the database in
disagreement when a release is refused: as long as it neither commits nor rolls back, the outermost level of the
database is the transaction that the scope opened, with the tables there were before it (`Session.Owned`). A
rollback of everything goes back to them, so it does not matter what the body did to the savepoints in between.
-/

namespace SqlMapper

/-! ## What a statement about levels does -/

/-- A step that opens, keeps or closes levels and fails does so without effect. -/
theorem levelStep_failed {s : Sql.Statement} {step : DatabaseStep Unit} (h : s.levelStep? = some step)
    {db db' : Database} {e : EngineError} (hstep : step db = (.error e, db')) : db' = db := by
  cases s <;> simp only [Sql.Statement.levelStep?, Option.some.injEq, reduceCtorEq] at h <;> subst h
  case begin mode =>
    unfold Database.begin at hstep
    split at hstep <;> simp_all
  case commit =>
    unfold Database.commit at hstep
    split at hstep <;> simp_all
  case rollback =>
    unfold Database.rollback at hstep
    split at hstep <;> simp_all
  case savepoint name => simp [Database.savepoint] at hstep
  case release name =>
    unfold Database.release at hstep
    split at hstep <;> simp_all
  case rollbackTo name =>
    unfold Database.rollbackTo at hstep
    split at hstep <;> simp_all

/-- A statement about levels fails without effect, as when its text cannot be read, or does its step. -/
theorem execute_levelStep {s : Sql.Statement} {step : DatabaseStep Unit} (h : s.levelStep? = some step)
    (u : Unreliable) :
    (∃ e, (Unreliable.execute s u).1 = .error e) ∧ (Unreliable.execute s u).2.database = u.database ∨
      (Unreliable.execute s u).1 = .ok () ∧ step u.database = (.ok (), (Unreliable.execute s u).2.database) := by
  unfold Unreliable.execute
  by_cases hs : isSendable s.text = true
  · rw [executeUnbound_of_levelStep h hs]
    rcases hstep : step u.database with ⟨e | ⟨⟩, db⟩
    · exact Or.inl ⟨⟨_, rfl⟩, levelStep_failed h hstep⟩
    · exact Or.inr ⟨rfl, rfl⟩
  · have hp : u.database.prepare s = .error .malformed := by
      simp only [Database.prepare, hs]
      rfl
    have hx : Database.executeUnbound s u.database = (.error .malformed, u.database) := by
      simp only [Database.executeUnbound, hp]
    rw [hx]
    exact Or.inl ⟨⟨_, rfl⟩, rfl⟩

/-- A statement about levels that may be refused fails without effect or does its step. -/
theorem submit_levelStep (f : Refusals) {s : Sql.Statement} {step : DatabaseStep Unit} (h : s.levelStep? = some step)
    (u : Unreliable) :
    (∃ e, (f.submit s u).1 = .error e) ∧ (f.submit s u).2.database = u.database ∨
      (f.submit s u).1 = .ok () ∧ step u.database = (.ok (), (f.submit s u).2.database) := by
  unfold Refusals.submit
  cases f.batches u.asked with
  | some e => exact Or.inl ⟨⟨e, rfl⟩, rfl⟩
  | none => exact execute_levelStep h { u with asked := u.asked + 1 }

theorem follow_levelStep (f : Refusals) {s : Sql.Statement} {step : DatabaseStep Unit} (h : s.levelStep? = some step)
    (u : Unreliable) :
    (∃ e, (f.follow s u).1 = .error e) ∧ (f.follow s u).2.database = u.database ∨
      (f.follow s u).1 = .ok () ∧ step u.database = (.ok (), (f.follow s u).2.database) := by
  unfold Refusals.follow
  cases f.followers u.followed with
  | some e => exact Or.inl ⟨⟨e, rfl⟩, rfl⟩
  | none => exact execute_levelStep h { u with followed := u.followed + 1 }

/-- A change of the tables leaves the levels alone. -/
theorem change_levels {α : Type} (count : α → Nat) (step : Tables → Except EngineError (Tables × α)) (db : Database) :
    (Database.change count step db).2.levels = db.levels := by
  unfold Database.change
  split <;> rfl

/-- Filling the places of a statement does not make it one about levels. -/
theorem levelStep?_bind (s : Sql.Statement) (values : List Native) : (s.bind values).levelStep? = s.levelStep? := by
  cases s <;> rfl

/-- A statement that is not about levels leaves them alone when it is run. -/
theorem run_levels {s : Sql.Statement} (h : s.levelStep? = none) (titles : List String) (db : Database) :
    (Database.run titles s db).2.levels = db.levels := by
  cases s <;> simp only [Sql.Statement.levelStep?, reduceCtorEq] at h
  case delete => exact change_levels _ _ db
  case insert => exact change_levels _ _ db
  case insertDefaults => exact change_levels _ _ db
  case update => exact change_levels _ _ db
  case setting name =>
    unfold Database.run
    dsimp only
    split <;> rfl
  all_goals rfl

/-- A statement that is not about levels leaves them alone, whether it succeeds or fails. -/
theorem execute_levels {s : Sql.Statement} (h : s.levelStep? = none) (u : Unreliable) :
    (Unreliable.execute s u).2.database.levels = u.database.levels := by
  have hexecute : (Database.executeUnbound s u.database).2.levels = u.database.levels := by
    unfold Database.executeUnbound
    split
    · rfl
    · exact run_levels (by rw [levelStep?_bind, h]) _ _
  unfold Unreliable.execute
  split <;> rename_i heq <;> rw [heq] at hexecute <;> exact hexecute

/-! ## The outermost level -/

/-- The outermost level of a database is a transaction that was opened on given tables. -/
def Database.Outermost (before : Tables) (db : Database) : Prop := ∃ inner, db.levels = ⟨none, before⟩ :: inner

namespace Database.Outermost

variable {before : Tables} {db db' : Database} {name : String}

/-- A name never means the outermost level, so that level is outside whatever the name does mean. -/
theorem outside (h : db.Outermost before) {outer : List OpenLevel} {l : OpenLevel}
    (hfind : OpenLevel.find? name db.levels = some (outer, l)) : ∃ inner, outer = ⟨none, before⟩ :: inner := by
  obtain ⟨rest, hrest⟩ := h
  obtain ⟨hnamed, inner, hlevels⟩ := OpenLevels.eq_append_of_find? hfind
  rw [hrest] at hlevels
  cases outer with
  | nil =>
    rw [List.nil_append] at hlevels
    rw [← (List.cons.inj hlevels).1] at hnamed
    simp [OpenLevel.isNamed] at hnamed
  | cons first outer => exact ⟨outer, by rw [(List.cons.inj hlevels).1]⟩

theorem savepoint (h : db.Outermost before) (hstep : Database.savepoint name db = (.ok (), db')) :
    db'.Outermost before := by
  obtain ⟨inner, hinner⟩ := h
  rw [← (Prod.mk.inj hstep).2]
  exact ⟨inner ++ [⟨some name, db.tables⟩], by simp [hinner]⟩

theorem release (h : db.Outermost before) (hstep : Database.release name db = (.ok (), db')) :
    db'.Outermost before ∧ db'.tables = db.tables := by
  unfold Database.release at hstep
  split at hstep
  · rename_i outer l hfind
    rw [← (Prod.mk.inj hstep).2]
    exact ⟨h.outside hfind, rfl⟩
  · simp at hstep

theorem rollbackTo (h : db.Outermost before) (hstep : Database.rollbackTo name db = (.ok (), db')) :
    db'.Outermost before := by
  unfold Database.rollbackTo at hstep
  split at hstep
  · rename_i outer l hfind
    obtain ⟨inner, rfl⟩ := h.outside hfind
    rw [← (Prod.mk.inj hstep).2]
    exact ⟨inner ++ [l], rfl⟩
  · simp at hstep

end Database.Outermost

section Batches

variable (f : Refusals) {before : Tables} {u : Unreliable}

/-- A savepoint keeps the outermost level, refused or not. -/
theorem run_savepoint_outermost (name : String) (h : u.database.Outermost before) :
    (f.executor.run (.savepoint name) u).2.database.Outermost before := by
  rcases submit_levelStep f (s := .savepoint name) rfl u with ⟨-, hdb⟩ | ⟨-, hstep⟩
  · exact hdb ▸ h
  · exact h.savepoint hstep

/-- A release keeps the outermost level and the tables, refused or not. -/
theorem run_release_outermost (name : String) (h : u.database.Outermost before) :
    (f.executor.run (.release name) u).2.database.Outermost before ∧
      (f.executor.run (.release name) u).2.database.tables = u.database.tables := by
  rcases submit_levelStep f (s := .release name) rfl u with ⟨-, hdb⟩ | ⟨-, hstep⟩
  · exact ⟨hdb ▸ h, congrArg Database.tables hdb⟩
  · exact h.release hstep

/-- A rollback to a savepoint keeps the outermost level, whether the savepoint is there or not and whether the
release after it is refused or not. -/
theorem run_rollbackTo_outermost (name : String) (h : u.database.Outermost before) :
    (f.executor.run (.rollbackTo name) u).2.database.Outermost before := by
  have hback := execute_levelStep (s := .rollbackTo name) rfl u
  simp only [Refusals.executor]
  rcases hx : Unreliable.execute (.rollbackTo name) u with ⟨e | ⟨⟩, v⟩
  · rw [hx] at hback
    rcases hback with ⟨-, hdb⟩ | ⟨hok, -⟩
    · exact hdb ▸ h
    · cases hok
  · rw [hx] at hback
    rcases hback with ⟨⟨e, he⟩, -⟩ | ⟨-, hstep⟩
    · cases he
    · have hv : v.database.Outermost before := h.rollbackTo hstep
      rcases follow_levelStep f (s := .release name) rfl v with ⟨-, hdb⟩ | ⟨-, hstep⟩
      · exact hdb ▸ hv
      · exact (hv.release hstep).1

end Batches

/-! ## Inside the transaction -/

/-- A property of sessions inside a transaction that the operations on savepoints keep. -/
structure Session.InnerInvariant {σ : Type} (x : Executor σ) (I : Session σ → Prop) : Prop where
  inside : ∀ s, I s → s.stack ≠ []
  savepoint : ∀ s, I s → I (Session.savepoint x s).2
  release : ∀ name s, I s → I (Session.release x name s).2
  rollbackTo : ∀ name s, I s → I (Session.rollbackTo x name s).2

namespace Session.InnerInvariant

variable {σ α : Type} {x : Executor σ} {I : Session σ → Prop}

/-- No transaction is opened inside another. -/
theorem begin (h : Session.InnerInvariant x I) (mode : Sql.LockMode) (s : Session σ) (hs : I s) :
    I (Session.begin x mode s).2 := by
  have hempty : s.stack.isEmpty = false := by simpa using h.inside s hs
  simp only [Session.begin, hempty]
  exact hs

theorem onSavepoints (h : Session.InnerInvariant x I) {op : Operation (Session σ) α} (ho : Session.OnSavepoints x op)
    (s : Session σ) (hs : I s) : I (op s).2 := by
  cases ho with
  | begin mode => exact h.begin mode s hs
  | savepoint => exact h.savepoint s hs
  | release name => exact h.release name s hs
  | rollbackTo name => exact h.rollbackTo name s hs

/-- A nested scope neither commits nor rolls back everything, so it keeps what its body and the operations on
savepoints keep. -/
theorem scope (h : Session.InnerInvariant x I) (mode : Sql.LockMode) {body : Operation (Session σ) α}
    (hb : ∀ s, I s → I (body s).2) (s : Session σ) (hs : I s) : I (Session.scope x mode body s).2 := by
  have hundo : ∀ name t, I t → I (Session.undo x false (some name) t) := by
    intro name t ht
    unfold Session.undo
    rw [if_neg (by simp)]
    dsimp only
    split
    · exact h.rollbackTo name t ht
    · exact ht
  have hrun := Session.nestedRun x mode body (h.inside s hs)
  generalize Session.scope x mode body s = r at hrun
  cases hrun with
  | notSaved hu => exact holds_after h.savepoint hs hu
  | bodyFailed hu hv => exact hundo _ _ (holds_after hb (holds_after h.savepoint hs hu) hv)
  | notReleased hu hv hw =>
    exact hundo _ _ (holds_after (h.release _) (holds_after hb (holds_after h.savepoint hs hu) hv) hw)
  | kept hu hv hw => exact holds_after (h.release _) (holds_after hb (holds_after h.savepoint hs hu) hv) hw

end Session.InnerInvariant

/-- A session inside a transaction that was opened on given tables: the stack and the database have it outermost.
What there is inside it may differ. -/
structure Session.Owned (before : Tables) (s : Session Unreliable) : Prop where
  stack : ∃ mode inner, s.stack = .transaction mode :: inner
  database : s.store.database.Outermost before

namespace Session.Owned

variable {f : Refusals} {before : Tables} {s : Session Unreliable}

theorem stack_ne_nil (h : s.Owned before) : s.stack ≠ [] := by
  obtain ⟨mode, inner, hstack⟩ := h.stack
  simp [hstack]

/-- The levels below a savepoint have the transaction outermost too. -/
theorem below (h : s.Owned before) {name : String} {outer : SavepointStack} (hb : s.stack.below? name = some outer) :
    ∃ mode inner, outer = .transaction mode :: inner := by
  obtain ⟨mode, rest, hrest⟩ := h.stack
  obtain ⟨inner, hstack, -⟩ := SavepointStack.below?_eq_some_iff.1 hb
  rw [hrest] at hstack
  cases outer with
  | nil => exact absurd (List.cons.inj hstack).1 nofun
  | cons first outer => exact ⟨mode, outer, by rw [(List.cons.inj hstack).1]⟩

theorem invariant (f : Refusals) (before : Tables) : Session.InnerInvariant f.executor (Session.Owned before) where
  inside _ h := h.stack_ne_nil
  savepoint s h := by
    refine ⟨?_, ?_⟩
    · obtain ⟨mode, inner, hinner⟩ := h.stack
      obtain ⟨-, ⟨-, hstack⟩ | ⟨-, hstack⟩⟩ := savepoint_stack f.executor s
      · exact ⟨mode, inner, by rw [hstack, hinner]⟩
      · rw [hinner, List.cons_append] at hstack
        exact ⟨mode, _, hstack⟩
    · rw [savepoint_store]
      exact run_savepoint_outermost f _ h.database
  release name s h := by
    refine ⟨?_, ?_⟩
    · obtain ⟨-, ⟨-, hstack⟩ | ⟨-, hstack⟩⟩ := release_stack f.executor s name
      · rw [hstack]
        exact h.stack
      · exact h.below hstack
    · rw [release_store]
      split
      · exact (run_release_outermost f name h.database).1
      · exact h.database
  rollbackTo name s h := by
    refine ⟨?_, ?_⟩
    · rw [(rollbackTo_stack f.executor s name).2]
      cases hb : s.stack.below? name with
      | none => exact h.stack
      | some outer => exact h.below hb
    · rw [rollbackTo_store]
      split
      · exact run_rollbackTo_outermost f name h.database
      · exact h.database

/-- Undoing everything goes back to the tables that the transaction was opened on. -/
theorem undo (h : s.Owned before) (name : Option String) :
    (Session.undo f.executor true name s).stack = [] ∧
      (Session.undo f.executor true name s).store.database.isIdle = true ∧
      (Session.undo f.executor true name s).store.database.tables = before := by
  have hempty : s.stack.isEmpty = false := by simpa using h.stack_ne_nil
  obtain ⟨inner, hl⟩ := h.database
  simp only [Session.undo, Session.rollback, Session.send, hempty, if_true, run_rollback f hl]
  exact ⟨rfl, rfl, rfl⟩

/-- A release keeps the tables, refused or not. -/
theorem release_tables (h : s.Owned before) (name : String) :
    (Session.release f.executor name s).2.store.database.tables = s.store.database.tables := by
  rw [release_store]
  split
  · exact (run_release_outermost f name h.database).2
  · rfl

/-- A commit is refused without effect, or keeps the tables and closes all levels. -/
theorem commit (h : s.Owned before) :
    (∃ e, (Session.commit f.executor s).1 = .error e) ∧ (Session.commit f.executor s).2.Owned before ∨
      (Session.commit f.executor s).1 = .ok () ∧ (Session.commit f.executor s).2.stack = [] ∧
        (Session.commit f.executor s).2.store.database.isIdle = true ∧
        (Session.commit f.executor s).2.store.database.tables = s.store.database.tables := by
  have hempty : s.stack.isEmpty = false := by simpa using h.stack_ne_nil
  have hopen : s.store.database.levels ≠ [] := by
    obtain ⟨inner, hl⟩ := h.database
    simp [hl]
  simp only [Session.commit, Session.send, hempty, run_commit f hopen, Refusals.answer]
  cases f.batches s.store.asked with
  | some e => exact Or.inl ⟨⟨e, rfl⟩, h.stack, h.database⟩
  | none => exact Or.inr ⟨rfl, rfl, rfl, rfl⟩

/-- Leaving the scope that owns the transaction is refused inside the transaction, or keeps the tables and closes
all levels. -/
theorem leave (h : s.Owned before) (name : String) :
    (∃ e, (Session.leave f.executor true name s).1 = .error e) ∧ (Session.leave f.executor true name s).2.Owned before ∨
      (Session.leave f.executor true name s).1 = .ok () ∧ (Session.leave f.executor true name s).2.stack = [] ∧
        (Session.leave f.executor true name s).2.store.database.isIdle = true ∧
        (Session.leave f.executor true name s).2.store.database.tables = s.store.database.tables := by
  have hreleased := (Session.Owned.invariant f before).release name s h
  have htables := h.release_tables (f := f) name
  unfold Session.leave
  rcases hr : Session.release f.executor name s with ⟨e | ⟨⟩, t⟩
  · rw [hr] at hreleased
    exact Or.inl ⟨⟨e, rfl⟩, hreleased⟩
  · rw [hr] at hreleased htables
    rcases hreleased.commit (f := f) with hrefused | ⟨hok, hstack, hidle, hkept⟩
    · exact Or.inl hrefused
    · exact Or.inr ⟨hok, hstack, hidle, hkept.trans htables⟩

end Session.Owned

/-! ## Owning scopes -/

/-- An operation beside the levels, such as a change of the tables: it opens and closes nothing, in the session or
in the database. -/
def Session.BesideLevels {γ : Type} (op : Operation (Session Unreliable) γ) : Prop :=
  ∀ s, (op s).2.stack = s.stack ∧ (op s).2.store.database.levels = s.store.database.levels

/-- Sending a statement that is not about levels is an operation beside them. -/
theorem besideLevels_execute {s : Sql.Statement} (h : s.levelStep? = none) :
    Session.BesideLevels fun t =>
      ((Unreliable.execute s t.store).1, { t with store := (Unreliable.execute s t.store).2 }) :=
  fun t => ⟨rfl, execute_levels h t.store⟩

/-- A body that neither commits nor rolls back everything: it is made of operations on savepoints by any names, of
operations beside the levels, and of scopes. -/
abbrev Session.InnerBody {α : Type} (f : Refusals) (body : Operation (Session Unreliable) α) : Prop :=
  Session.Composed f.executor (fun _ op => Session.OnSavepoints f.executor op ∨ Session.BesideLevels op) body

variable {α : Type} {f : Refusals} {s : Session Unreliable}

/-- A body that neither commits nor rolls back stays inside the transaction. -/
theorem Session.InnerBody.owned {body : Operation (Session Unreliable) α} (hbody : Session.InnerBody f body)
    {before : Tables} (hs : s.Owned before) : (body s).2.Owned before := by
  refine hbody.keeps ?_ (fun mode _ hb t ht => (Session.Owned.invariant f before).scope mode hb t ht) s hs
  intro γ op ho t ht
  rcases ho with ho | ho
  · exact (Session.Owned.invariant f before).onSavepoints ho t ht
  · obtain ⟨hstack, hlevels⟩ := ho t
    obtain ⟨inner, hl⟩ := ht.database
    exact ⟨by rw [hstack]; exact ht.stack, inner, by rw [hlevels, hl]⟩

/-- A transaction is refused on an idle session without effect, or opened on the tables at hand. -/
theorem begin_owned (mode : Sql.LockMode) (hs : s.stack = []) (hidle : s.store.database.isIdle = true) :
    (∃ e, (Session.begin f.executor mode s).1 = .error e) ∧ (Session.begin f.executor mode s).2.stack = [] ∧
        (Session.begin f.executor mode s).2.store.database = s.store.database ∨
      (Session.begin f.executor mode s).1 = .ok () ∧
        (Session.begin f.executor mode s).2.Owned s.store.database.tables := by
  have hlevels : s.store.database.levels = [] := List.isEmpty_iff.1 hidle
  simp only [Session.begin, Session.send, hs, List.isEmpty_nil, if_true, run_begin f mode hlevels, Refusals.answer]
  cases f.batches s.store.asked with
  | some e => exact Or.inl ⟨⟨e, rfl⟩, rfl, rfl⟩
  | none => exact Or.inr ⟨rfl, ⟨mode, [], rfl⟩, ⟨[], rfl⟩⟩

/-- A scope on an idle session is atomic, whatever its body does with savepoints and whatever is refused: when it
fails the tables are those there were, when it succeeds they are those its body left, and no level is open after it
in the session or in the database. -/
theorem owning_scope_atomic (f : Refusals) (mode : Sql.LockMode) {body : Operation (Session Unreliable) α}
    (hbody : Session.InnerBody f body) (s : Session Unreliable) (hs : s.stack = [])
    (hidle : s.store.database.isIdle = true) :
    let r := Session.scope f.executor mode body s
    r.2.stack = [] ∧ r.2.store.database.isIdle = true ∧
      (∀ e, r.1 = .error e → r.2.store.database.tables = s.store.database.tables) ∧
      ∀ a, r.1 = .ok a → ∃ t name u, Session.begin f.executor mode s = (.ok (), t) ∧
        Session.savepoint f.executor t = (.ok name, u) ∧ (body u).1 = .ok a ∧
        r.2.store.database.tables = (body u).2.store.database.tables := by
  intro r
  have henter : Session.enter f.executor s.stack.isEmpty mode s = Session.begin f.executor mode s := by rw [hs]; rfl
  have hentered : ∀ {t}, Session.enter f.executor s.stack.isEmpty mode s = (.ok (), t) →
      t.Owned s.store.database.tables := by
    intro t ht
    rw [henter] at ht
    rcases begin_owned (f := f) mode hs hidle with ⟨hfail, -⟩ | ⟨-, howned⟩
    · exact absurd hfail (not_error_of_ok ht)
    · rwa [ht] at howned
  have hended : ∀ {t u result₁ result₂ v}, t.Owned s.store.database.tables →
      Session.savepoint f.executor t = (result₁, u) →
      body u = (result₂, v) → v.Owned s.store.database.tables := fun ht hu hv =>
    holds_after (fun _ => hbody.owned) (holds_after (Session.Owned.invariant f _).savepoint ht hu) hv
  have howner : s.stack.isEmpty = true := List.isEmpty_iff.2 hs
  -- A step that fails after the first leaves the session inside the transaction, and everything is rolled back.
  have hundone : ∀ {v : Session Unreliable} (name : Option String), v.Owned s.store.database.tables →
      (Session.undo f.executor s.stack.isEmpty name v).stack = [] ∧
        (Session.undo f.executor s.stack.isEmpty name v).store.database.isIdle = true ∧
        (Session.undo f.executor s.stack.isEmpty name v).store.database.tables = s.store.database.tables := by
    intro v name hv
    rw [howner]
    exact hv.undo name
  have hrun : Session.ScopeRun f.executor mode body s r := Session.scopeRun f.executor mode body s
  generalize r = r at hrun
  cases hrun with
  | notEntered he =>
    rw [henter] at he
    rcases begin_owned (f := f) mode hs hidle with ⟨-, hstack, hdb⟩ | ⟨hok, -⟩
    · rw [he] at hstack hdb
      exact ⟨hstack, by rw [hdb, hidle], fun _ _ => by rw [hdb], nofun⟩
    · rw [he] at hok
      cases hok
  | notSaved he hu =>
    have howned := holds_after (Session.Owned.invariant f _).savepoint (hentered he) hu
    obtain ⟨hstack, hidle, htables⟩ := hundone none howned
    exact ⟨hstack, hidle, fun _ _ => htables, nofun⟩
  | bodyFailed he hu hv =>
    obtain ⟨hstack, hidle, htables⟩ := hundone (some _) (hended (hentered he) hu hv)
    exact ⟨hstack, hidle, fun _ _ => htables, nofun⟩
  | notLeft he hu hv hl =>
    rcases (hended (hentered he) hu hv).leave (f := f) _ with ⟨-, howned⟩ | ⟨hok, -⟩
    · rw [← howner, hl] at howned
      obtain ⟨hstack, hidle, htables⟩ := hundone (some _) howned
      exact ⟨hstack, hidle, fun _ _ => htables, nofun⟩
    · rw [← howner, hl] at hok
      cases hok
  | @kept name a t u v w he hu hv hl =>
    rw [howner] at hl
    rcases (hended (hentered he) hu hv).leave (f := f) name with ⟨hfail, -⟩ | ⟨-, hstack, hidle, htables⟩
    · exact absurd hfail (not_error_of_ok hl)
    · rw [hl] at hstack hidle htables
      refine ⟨hstack, hidle, nofun, ?_⟩
      rintro b hb
      obtain rfl := Except.ok.inj hb
      exact ⟨t, name, u, henter ▸ he, hu, by rw [hv], by rw [hv]; exact htables⟩

/-- On a database in memory, with a body that releases the savepoint of its scope and then creates a table: the
scope finds its savepoint gone, and the table is gone with it. -/
theorem owning_scope_atomic_releasedWithin :
    let f := Refusals.ofBatches fun _ => none
    let body : Operation (Session Unreliable) (Answer Unit) := fun s =>
      Unreliable.change (fun ts =>
        (.ok .none, ts ++ [⟨"t", [], []⟩])) (Session.release f.executor (savepointName 1 1) s).2
    let s := Session.idle .counter (.fresh (Database.empty none .inMemory))
    Session.InnerBody f body ∧ s.stack = [] ∧ s.store.database.isIdle = true ∧
      (Session.scope f.executor .immediate body s).1.isOk = false ∧
      (Session.scope f.executor .immediate body s).2.stack = [] ∧
      (Session.scope f.executor .immediate body s).2.store.database.tables = [] := by
  intro f body s
  have hbody : Session.InnerBody f body :=
    .next (Session.release f.executor (savepointName 1 1))
      (fun _ => Unreliable.change fun ts => (.ok .none, ts ++ [⟨"t", [], []⟩]))
      (.basic (.inl (.release _))) fun _ => .basic (.inr fun _ => ⟨rfl, rfl⟩)
  have failed : ∀ result : Except Error (Answer Unit), result.isOk = false → ∃ e, result = .error e := by
    rintro (e | a) h
    · exact ⟨e, rfl⟩
    · cases h
  have herror : (Session.scope f.executor .immediate body s).1.isOk = false := by decide +kernel
  obtain ⟨e, he⟩ := failed _ herror
  obtain ⟨hstack, -, htables, -⟩ := owning_scope_atomic f .immediate hbody s rfl rfl
  exact ⟨hbody, rfl, rfl, herror, hstack, htables e he⟩

end SqlMapper
