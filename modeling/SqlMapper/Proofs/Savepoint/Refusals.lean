import SqlMapper.Connection.Basic
import SqlMapper.Proofs.Savepoint.Names
import SqlMapper.Savepoint.Script

/-!
# A database that may refuse

The database of the engine decides by its own rules whether a level can be opened, released or closed. Beyond that
it may refuse any batch that opens, releases or commits, and then nothing happens; a rollback that the rules allow
always succeeds. Which batches are refused, and with which errors, is a sequence given from outside, so a statement
about all sequences is one about every pattern of failures. The release that follows a rollback to a savepoint is
refused by a sequence of its own.

`LevelStep` names the statements about levels. What the database does with each of them is said by one equation
(`executeUnbound_of_levelStep`), and what the store does with each batch that its rules allow by one lemma per
batch.
-/

namespace SqlMapper

/-! ## Statements about levels -/

/-- What a statement does with the levels of a database, for the statements that open, keep or close levels. -/
def Sql.Statement.levelStep? : Sql.Statement → Option (DatabaseStep Unit)
  | .begin _ => some Database.begin
  | .commit => some Database.commit
  | .rollback => some Database.rollback
  | .savepoint name => some (Database.savepoint name)
  | .release name => some (Database.release name)
  | .rollbackTo name => some (Database.rollbackTo name)
  | _ => none

/-- A statement about levels needs no tables and has no parameters: once its text can be read, it is run as it
stands. -/
theorem executeUnbound_of_levelStep {s : Sql.Statement} {step : DatabaseStep Unit} (h : s.levelStep? = some step)
    (hs : isSendable s.text = true) (db : Database) : Database.executeUnbound s db = Outcome.ofUnit (step db) := by
  have hp : db.prepare s = .ok () := by
    cases s <;> first | (simp [Sql.Statement.levelStep?] at h; done) | (simp [Database.prepare, hs]; rfl)
  unfold Database.executeUnbound
  rw [hp]
  cases s <;> simp only [Sql.Statement.levelStep?, Option.some.injEq, reduceCtorEq] at h <;> subst h <;> rfl

/-! ## The store -/

/-- What is refused beyond the rules: the `k`-th batch that opens, releases or commits, and the `k`-th release that
follows a rollback to a savepoint. -/
structure Refusals where
  batches : Nat → Option Error
  followers : Nat → Option Error

/-- Refusals of whole batches: a rollback to a savepoint is not cut short. -/
def Refusals.ofBatches (batches : Nat → Option Error) : Refusals := ⟨batches, fun _ => none⟩

/-- A database with the number of batches and of following releases that have been up for refusal, and the
statements that the rules of the database itself have rejected. -/
structure Unreliable where
  database : Database
  asked : Nat
  followed : Nat
  rejected : List Sql.Statement

/-- A database of which nothing has been asked. -/
def Unreliable.fresh (db : Database) : Unreliable := ⟨db, 0, 0, []⟩

/-- Runs a statement by the rules of the database, and keeps it on record when they reject it. -/
def Unreliable.execute (s : Sql.Statement) : Operation Unreliable Unit := fun u =>
  match Database.executeUnbound s u.database with
  | (.ok _, db) => (.ok (), { u with database := db })
  | (.error e, db) => (.error (.engine e), { u with database := db, rejected := u.rejected ++ [s] })

/-- Runs a statement unless it is refused. -/
def Refusals.submit (f : Refusals) (s : Sql.Statement) : Operation Unreliable Unit := fun u =>
  match f.batches u.asked with
  | some e => (.error e, { u with asked := u.asked + 1 })
  | none => Unreliable.execute s { u with asked := u.asked + 1 }

/-- Runs a statement that follows another in a batch, unless it is refused. -/
def Refusals.follow (f : Refusals) (s : Sql.Statement) : Operation Unreliable Unit := fun u =>
  match f.followers u.followed with
  | some e => (.error e, { u with followed := u.followed + 1 })
  | none => Unreliable.execute s { u with followed := u.followed + 1 }

/-- Runs the batches of a session. -/
def Refusals.executor (f : Refusals) : Executor Unreliable where
  run
    | .begin mode => f.submit (.begin mode)
    | .savepoint name => f.submit (.savepoint name)
    | .release name => f.submit (.release name)
    | .commit => f.submit .commit
    | .rollback => Unreliable.execute .rollback
    | .rollbackTo name => fun u =>
      match Unreliable.execute (.rollbackTo name) u with
      | (.ok _, u) => f.follow (.release name) u
      | (.error e, u) => (.error e, u)

/-! ## Scripts -/

/-- A change of the tables, as a step of a script makes it. -/
abbrev Change (β : Type) := Tables → Except Error (Answer β) × Tables

/-- Makes a change on the tables of a session. -/
def Unreliable.change {β : Type} (c : Change β) : Operation (Session Unreliable) (Answer β) := fun s =>
  let r := c s.store.database.tables
  (r.1, { s with store := { s.store with database := { s.store.database with tables := r.2 } } })

/-- Scripts of changes on a database that may refuse batches, and what is seen of it. -/
def Refusals.stage {ω : Type} (f : Refusals) (β : Type) (see : Unreliable → ω) : Stage Unreliable (Change β) β ω where
  executor := f.executor
  act := Unreliable.change
  look u := (see u, u)

/-! ## What the rules allow -/

/-- A statement that the rules allow changes the database and leaves no record. -/
theorem execute_of_ok {s : Sql.Statement} {step : DatabaseStep Unit} (h : s.levelStep? = some step)
    (hs : isSendable s.text = true) {u : Unreliable} {db : Database} (hstep : step u.database = (.ok (), db)) :
    Unreliable.execute s u = (.ok (), { u with database := db }) := by
  unfold Unreliable.execute
  rw [executeUnbound_of_levelStep h hs, hstep]
  rfl

/-- The answer to a batch that the rules allow and that leads to a database: refused without effect, or done. -/
def Refusals.answer (f : Refusals) (u : Unreliable) (db : Database) : Except Error Unit × Unreliable :=
  match f.batches u.asked with
  | some e => (.error e, { u with asked := u.asked + 1 })
  | none => (.ok (), { u with asked := u.asked + 1, database := db })

theorem submit_of_ok (f : Refusals) {s : Sql.Statement} {step : DatabaseStep Unit} (h : s.levelStep? = some step)
    (hs : isSendable s.text = true) {u : Unreliable} {db : Database} (hstep : step u.database = (.ok (), db)) :
    f.submit s u = f.answer u db := by
  unfold Refusals.submit Refusals.answer
  split
  · rfl
  · exact execute_of_ok (u := { u with asked := u.asked + 1 }) h hs hstep

/-- A statement is run as the database runs it. -/
theorem execute_eq_executeAll (s : Sql.Statement) (u : Unreliable) :
    (Unreliable.execute s u).1 = Error.ofEngine (Database.executeAll [s] u.database).1 ∧
      (Unreliable.execute s u).2.database = (Database.executeAll [s] u.database).2 := by
  unfold Unreliable.execute Database.executeAll Database.executeAll
  rcases Database.executeUnbound s u.database with ⟨_ | _, db⟩ <;> exact ⟨rfl, rfl⟩

/-- Where nothing is refused beyond the rules, batches are run as the database runs them. -/
theorem run_unrefused (b : Batch) (u : Unreliable) :
    ((Refusals.ofBatches fun _ => none).executor.run b u).1 = (Database.executor.run b u.database).1 ∧
      ((Refusals.ofBatches fun _ => none).executor.run b u).2.database = (Database.executor.run b u.database).2 := by
  have hsubmit : ∀ s : Sql.Statement, (Refusals.ofBatches fun _ => none).submit s u =
      Unreliable.execute s { u with asked := u.asked + 1 } := fun _ => rfl
  have hasked := fun s => execute_eq_executeAll s { u with asked := u.asked + 1 }
  cases b with
  | begin mode =>
    simp only [Database.executor, Refusals.executor, Batch.statements, hsubmit]
    exact hasked _
  | savepoint name =>
    simp only [Database.executor, Refusals.executor, Batch.statements, hsubmit]
    exact hasked _
  | release name =>
    simp only [Database.executor, Refusals.executor, Batch.statements, hsubmit]
    exact hasked _
  | commit =>
    simp only [Database.executor, Refusals.executor, Batch.statements, hsubmit]
    exact hasked _
  | rollback =>
    simp only [Database.executor, Refusals.executor, Batch.statements]
    exact execute_eq_executeAll _ u
  | rollbackTo name =>
    have hfollow : ∀ u : Unreliable, (Refusals.ofBatches fun _ => none).follow (.release name) u =
        Unreliable.execute (.release name) { u with followed := u.followed + 1 } := fun _ => rfl
    have hback : Unreliable.execute (.rollbackTo name) u =
        match Database.executeUnbound (.rollbackTo name) u.database with
        | (.ok _, db) => (.ok (), { u with database := db })
        | (.error e, db) =>
          (.error (.engine e), { u with database := db, rejected := u.rejected ++ [.rollbackTo name] }) := rfl
    simp only [Database.executor, Refusals.executor, Batch.statements, Database.executeAll, hfollow, hback]
    rcases Database.executeUnbound (.rollbackTo name) u.database with ⟨_ | _, db⟩
    · exact ⟨rfl, rfl⟩
    · have hrelease := execute_eq_executeAll (.release name) { u with database := db, followed := u.followed + 1 }
      simp only [Database.executeAll] at hrelease ⊢
      exact hrelease

/-! ## Finding a level by its name -/

namespace OpenLevels

/-- No level is found when none has the name. -/
theorem find?_eq_none {name : String} {levels : List OpenLevel} (h : ∀ l ∈ levels, l.isNamed name = false) :
    OpenLevel.find? name levels = none := by
  induction levels with
  | nil => rfl
  | cons l levels ih =>
    have hl := h l List.mem_cons_self
    simp [OpenLevel.find?, ih fun k hk => h k (List.mem_cons_of_mem _ hk), hl]

/-- The level that is found is the innermost one of the name. -/
theorem find?_append {name : String} {l : OpenLevel} (outer : List OpenLevel) {inner : List OpenLevel}
    (hl : l.isNamed name = true) (hi : ∀ k ∈ inner, k.isNamed name = false) :
    OpenLevel.find? name (outer ++ l :: inner) = some (outer, l) := by
  induction outer with
  | nil => simp [OpenLevel.find?, find?_eq_none hi, hl]
  | cons k outer ih => simp [OpenLevel.find?, ih]

/-- The level that is found has the name, and the levels outside it are those before it. -/
theorem eq_append_of_find? {name : String} {levels outer : List OpenLevel} {l : OpenLevel}
    (h : OpenLevel.find? name levels = some (outer, l)) :
    l.isNamed name = true ∧ ∃ inner, levels = outer ++ l :: inner := by
  induction levels generalizing outer with
  | nil => simp [OpenLevel.find?] at h
  | cons k levels ih =>
    unfold OpenLevel.find? at h
    split at h
    · rename_i outer' found hf
      simp only [Option.some.injEq, Prod.mk.injEq] at h
      obtain ⟨rfl, rfl⟩ := h
      obtain ⟨hn, inner, rfl⟩ := ih hf
      exact ⟨hn, inner, rfl⟩
    · split at h
      · rename_i hk
        simp only [Option.some.injEq, Prod.mk.injEq] at h
        obtain ⟨rfl, rfl⟩ := h
        exact ⟨hk, levels, rfl⟩
      · cases h

end OpenLevels

/-! ## Batches that the rules allow -/

/-- The text of a statement that names a minted savepoint can be read. -/
theorem isSendable_namedText {name : String} (h : Minted name) :
    isSendable (Sql.Statement.savepoint name).text = true ∧ isSendable (Sql.Statement.release name).text = true ∧
      isSendable (Sql.Statement.rollbackTo name).text = true := by
  have hq := isSendable_quoteIdentifier (isSendable_savepointName h)
  exact ⟨isSendable_append (by decide) hq, isSendable_append (by decide) hq, isSendable_append (by decide) hq⟩

variable (f : Refusals) {u : Unreliable}

/-- `BEGIN` opens a transaction when no level is open, unless it is refused. -/
theorem run_begin (mode : Sql.LockMode) (h : u.database.levels = []) :
    f.executor.run (.begin mode) u =
      f.answer u { u.database with levels := [⟨none, u.database.tables⟩] } := by
  refine submit_of_ok f rfl (by cases mode <;> decide) ?_
  simp [Database.begin, h]

/-- `SAVEPOINT` opens a level anywhere, unless it is refused. -/
theorem run_savepoint {name : String} (hn : Minted name) :
    f.executor.run (.savepoint name) u =
      f.answer u { u.database with levels := u.database.levels ++ [⟨some name, u.database.tables⟩] } :=
  submit_of_ok f rfl (isSendable_namedText hn).1 rfl

/-- `RELEASE` closes the innermost level of the name and those inside it, unless it is refused. -/
theorem run_release {name : String} (hn : Minted name) {outer : List OpenLevel} {l : OpenLevel}
    (h : OpenLevel.find? name u.database.levels = some (outer, l)) :
    f.executor.run (.release name) u = f.answer u { u.database with levels := outer } := by
  refine submit_of_ok f rfl (isSendable_namedText hn).2.1 ?_
  simp [Database.release, h]

/-- `COMMIT` closes all levels, unless it is refused. -/
theorem run_commit (h : u.database.levels ≠ []) :
    f.executor.run .commit u = f.answer u { u.database with levels := [] } := by
  refine submit_of_ok f rfl (by decide) ?_
  simp [Database.commit, h]

/-- `ROLLBACK` goes back to where the outermost level was opened. -/
theorem run_rollback {l : OpenLevel} {inner : List OpenLevel} (h : u.database.levels = l :: inner) :
    f.executor.run .rollback u =
      (.ok (), { u with database := { u.database with tables := l.before, levels := [] } }) := by
  refine execute_of_ok (s := .rollback) rfl (by decide) ?_
  simp [Database.rollback, h]

/-- `ROLLBACK TO` goes back to where the level was opened; the level stays open only if the release after it is
refused. -/
theorem run_rollbackTo {name : String} (hn : Minted name) {outer : List OpenLevel} {l : OpenLevel}
    (h : OpenLevel.find? name u.database.levels = some (outer, l)) :
    f.executor.run (.rollbackTo name) u =
      match f.followers u.followed with
      | some e =>
        (.error e, { u with
          followed := u.followed + 1, database := { u.database with tables := l.before, levels := outer ++ [l] } })
      | none =>
        (.ok (), { u with
          followed := u.followed + 1, database := { u.database with tables := l.before, levels := outer } }) := by
  obtain ⟨-, hr, ht⟩ := isSendable_namedText hn
  have hback : Unreliable.execute (.rollbackTo name) u =
      (.ok (), { u with database := { u.database with tables := l.before, levels := outer ++ [l] } }) := by
    refine execute_of_ok rfl ht ?_
    simp [Database.rollbackTo, h]
  have hagain : OpenLevel.find? name (outer ++ [l]) = some (outer, l) :=
    OpenLevels.find?_append outer (OpenLevels.eq_append_of_find? h).1 (by simp)
  simp only [Refusals.executor, hback, Refusals.follow]
  split
  · rfl
  · refine execute_of_ok rfl hr ?_
    simp [Database.release, hagain]

end SqlMapper
