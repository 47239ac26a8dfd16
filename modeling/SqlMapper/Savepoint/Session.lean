import SqlMapper.Error
import SqlMapper.Savepoint.Naming
import SqlMapper.Savepoint.Stack

/-!
# Sessions: nested transactions over an executor

A session keeps the stack of open levels beside a store that runs batches of statements. The store
may refuse any batch. A level is entered on the stack after the store has opened it, a release and a
commit take effect on the stack after the store has accepted them, and a rollback takes effect on
the stack before it is sent.

A scope runs a body inside a savepoint, and opens the transaction around it when none is open. When
the body and the statements that close the scope succeed, its work is kept. Otherwise the scope is
undone, by a rollback of everything when it opened the transaction and by a rollback to its own
savepoint when it did not, and its error is the first one there was.
-/

namespace SqlMapper

/-- What a session sends at once. -/
inductive Batch where
  | begin (mode : Sql.LockMode)
  | savepoint (name : String)
  | release (name : String)
  | rollbackTo (name : String)
  | commit
  | rollback
  deriving DecidableEq, Repr

/-- The statements of a batch. A rollback to a savepoint leaves the savepoint open, so it is
released after it. -/
def Batch.statements : Batch → List Sql.Statement
  | .begin mode => [.begin mode]
  | .savepoint name => [.savepoint name]
  | .release name => [.release name]
  | .rollbackTo name => [.rollbackTo name, .release name]
  | .commit => [.commit]
  | .rollback => [.rollback]

/-- The text of a batch. -/
def Batch.text (b : Batch) : String := ";\n".intercalate (b.statements.map Sql.Statement.text)

/-- What runs batches: a step on the store that may fail. -/
structure Executor (σ : Type) where
  run : Batch → σ → Except Error Unit × σ

/-- The open levels, the source of names, and the store. -/
structure Session (σ : Type) where
  stack : SavepointStack
  names : NameSource
  store : σ

/-- An operation: it ends in a value or in an error, and in a state either way. -/
abbrev Operation (σ α : Type) := σ → Except Error α × σ

/-- An operation that goes on after another, unless that one fails. -/
def Operation.andThen {σ α β : Type} (first : Operation σ α) (next : α → Operation σ β) : Operation σ β := fun s =>
  match first s with
  | (.ok a, s) => next a s
  | (.error e, s) => (.error e, s)

variable {σ α : Type}

/-- The session before anything is opened. -/
def Session.idle (naming : SavepointNaming) (store : σ) : Session σ := ⟨[], naming.source, store⟩

/-- Runs a batch on the store. -/
def Session.send (x : Executor σ) (b : Batch) : Operation (Session σ) Unit := fun s =>
  let r := x.run b s.store
  (r.1, { s with store := r.2 })

/-- Opens a transaction; none may be open. -/
def Session.begin (x : Executor σ) (mode : Sql.LockMode) : Operation (Session σ) Unit := fun s =>
  if s.stack.isEmpty then
    match Session.send x (.begin mode) s with
    | (.ok _, s) => (.ok (), { s with stack := s.stack ++ [.transaction mode] })
    | (.error e, s) => (.error e, s)
  else (.error (.operation (.beginInside s.stack.length)), s)

/-- Opens a savepoint under a new name. -/
def Session.savepoint (x : Executor σ) : Operation (Session σ) String := fun s =>
  let minted := s.names.mint s.stack.length s.stack.isLive s.stack.length
  match Session.send x (.savepoint minted.1) { s with names := minted.2 } with
  | (.ok _, s) => (.ok minted.1, { s with stack := s.stack ++ [.savepoint minted.1] })
  | (.error e, s) => (.error e, s)

/-- Releases a savepoint and the levels inside it. -/
def Session.release (x : Executor σ) (name : String) : Operation (Session σ) Unit := fun s =>
  match s.stack.below? name with
  | none => (.error (.unknownSavepoint name), s)
  | some outer =>
    match Session.send x (.release name) s with
    | (.ok _, s) => (.ok (), { s with stack := outer })
    | (.error e, s) => (.error e, s)

/-- Undoes what was done since a savepoint, and closes it and the levels inside it. -/
def Session.rollbackTo (x : Executor σ) (name : String) : Operation (Session σ) Unit := fun s =>
  match s.stack.below? name with
  | none => (.error (.unknownSavepoint name), s)
  | some outer => Session.send x (.rollbackTo name) { s with stack := outer }

/-- Commits everything; nothing is sent when no level is open. -/
def Session.commit (x : Executor σ) : Operation (Session σ) Unit := fun s =>
  if s.stack.isEmpty then (.ok (), s)
  else
    match Session.send x .commit s with
    | (.ok _, s) => (.ok (), { s with stack := [] })
    | (.error e, s) => (.error e, s)

/-- Undoes everything; nothing is sent when no level is open. -/
def Session.rollback (x : Executor σ) : Operation (Session σ) Unit := fun s =>
  if s.stack.isEmpty then (.ok (), s) else Session.send x .rollback { s with stack := [] }

/-! ## Scopes -/

/-- Undoes a scope. An error of the rollback is not reported; a savepoint that is gone needs none.
-/
def Session.undo (x : Executor σ) (owner : Bool) (name : Option String) (s : Session σ) :
    Session σ :=
  if owner then (Session.rollback x s).2
  else
    match name with
    | some name => if s.stack.isLive name then (Session.rollbackTo x name s).2 else s
    | none => s

/-- Opens the transaction around a scope, if the scope owns one. -/
def Session.enter (x : Executor σ) (owner : Bool) (mode : Sql.LockMode) :
    Operation (Session σ) Unit := fun s =>
  if owner then Session.begin x mode s else (.ok (), s)

/-- Closes a scope whose body succeeded: releases its savepoint, and commits if the scope owns the
transaction. -/
def Session.leave (x : Executor σ) (owner : Bool) (name : String) :
    Operation (Session σ) Unit := fun s =>
  match Session.release x name s with
  | (.ok _, s) => if owner then Session.commit x s else (.ok (), s)
  | (.error e, s) => (.error e, s)

/-- Runs a body in a scope. -/
def Session.scope (x : Executor σ) (mode : Sql.LockMode) (body : Operation (Session σ) α) :
    Operation (Session σ) α := fun s =>
  let owner := s.stack.isEmpty
  match Session.enter x owner mode s with
  | (.error e, s) => (.error e, s)
  | (.ok _, s) =>
    match Session.savepoint x s with
    | (.error e, s) => (.error e, Session.undo x owner none s)
    | (.ok name, s) =>
      match body s with
      | (.error e, s) => (.error e, Session.undo x owner (some name) s)
      | (.ok a, s) =>
        match Session.leave x owner name s with
        | (.error e, s) => (.error e, Session.undo x owner (some name) s)
        | (.ok _, s) => (.ok a, s)

end SqlMapper
