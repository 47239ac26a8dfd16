import SqlMapper.Savepoint.Session

/-!
# Scripts

A script is a tree of steps on a session: the operations on its levels, actions on its store, and
scopes with steps as their bodies. A step of a body that fails ends the body, unless the failure is
caught; at the top every step is run. Running a script records what each step gave and what the
session looked like after it.
-/

namespace SqlMapper

/-- The savepoint that a step is about: by name, by the order in which the script opened it, or by
its place among the open ones. -/
inductive SavepointRef where
  | name (name : String)
  | minted (index : Nat)
  | live (index : Nat)
  deriving DecidableEq, Repr

/-- A step; `α` are the actions on the store. -/
inductive Step (α : Type) where
  | act (action : α)
  | begin (mode : Sql.LockMode)
  | save
  | release (ref : SavepointRef)
  | rollbackTo (ref : SavepointRef)
  | isLive (ref : SavepointRef)
  | commit
  | rollback
  | inTransaction
  | scope (attempt : Bool) (mode : Sql.LockMode) (failure : Option String) (body : List (Step α))
  | caught (step : Step α)

/-- What a step gives; `β` is what actions give. -/
inductive Answer (β : Type) where
  | none
  | name (name : String)
  | flag (value : Bool)
  | count (value : Nat)
  | data (value : β)

/-- A session as it is seen after a step; `ω` is what is seen of the store. -/
structure View (ω : Type) where
  depth : Nat
  savepoints : List String
  seen : ω

/-- The record of a step. The body of a scope is recorded from the moment it is entered. -/
inductive Record (β ω : Type) where
  | entered (view : View ω)
  | step (outcome : Except Error (Answer β)) (view : View ω)
  | scope (attempt : Bool) (outcome : Except Error (Answer β)) (body : List (Record β ω)) (view : View ω)

/-- A store with the names the script has minted and the records of the steps since the innermost
open scope. -/
structure Recorded (σ β ω : Type) where
  store : σ
  minted : List String
  trace : List (Record β ω)

/-- What a script runs on: how the store runs batches and actions, and what is looked at after a
step. Looking may change the store, as when a log is read out. -/
structure Stage (σ α β ω : Type) where
  executor : Executor σ
  act : α → Operation (Session σ) (Answer β)
  look : σ → ω × σ

variable {σ α β ω : Type}

/-- A session whose steps are recorded. -/
abbrev RecordedSession (σ β ω : Type) := Session (Recorded σ β ω)

/-- Batches on a recorded store. -/
def Stage.recordedExecutor (g : Stage σ α β ω) : Executor (Recorded σ β ω) where
  run b r :=
    let result := g.executor.run b r.store
    (result.1, { r with store := result.2 })

/-- Runs an operation of the session proper. -/
def RecordedSession.lift {γ : Type} (op : Operation (Session σ) γ) :
    Operation (RecordedSession σ β ω) γ := fun s =>
  let result := op { stack := s.stack, names := s.names, store := s.store.store }
  (result.1, { stack := result.2.stack, names := result.2.names, store := { s.store with store := result.2.store } })

/-- Looks at the session, and adds a record of what is seen to the trace. -/
def Stage.record (g : Stage σ α β ω) (make : View ω → Record β ω) (s : RecordedSession σ β ω) :
    RecordedSession σ β ω :=
  let seen := g.look s.store.store
  let view : View ω := { depth := s.stack.length, savepoints := SavepointStack.names s.stack, seen := seen.1 }
  { s with store := { s.store with store := seen.2, trace := s.store.trace ++ [make view] } }

/-- The name that a reference means; a reference to nothing means the empty name, which no savepoint
has. -/
def SavepointRef.resolve (ref : SavepointRef) (s : RecordedSession σ β ω) : String :=
  match ref with
  | .name n => n
  | .minted index => s.store.minted[index]?.getD ""
  | .live index => (SavepointStack.names s.stack)[index]?.getD ""

/-- Forgets the value of an operation. -/
def Answer.ofUnit (r : Except Error Unit) : Except Error (Answer β) :=
  match r with
  | .ok _ => .ok .none
  | .error e => .error e

/-- Runs an operation that gives nothing. -/
def RecordedSession.plain (op : Operation (RecordedSession σ β ω) Unit) :
    Operation (RecordedSession σ β ω) (Answer β) := fun s =>
  let r := op s
  (Answer.ofUnit r.1, r.2)

/-- Opens a savepoint and remembers its name. -/
def RecordedSession.save (x : Executor (Recorded σ β ω)) :
    Operation (RecordedSession σ β ω) (Answer β) := fun s =>
  match Session.savepoint x s with
  | (.ok name, s) => (.ok (.name name), { s with store := { s.store with minted := s.store.minted ++ [name] } })
  | (.error e, s) => (.error e, s)

mutual

/-- Runs a step, without a record of it but with those of a body in it. -/
def Stage.outcome (g : Stage σ α β ω) : Step α → Operation (RecordedSession σ β ω) (Answer β)
  | .act a => RecordedSession.lift (g.act a)
  | .begin mode => RecordedSession.plain (Session.begin g.recordedExecutor mode)
  | .save => RecordedSession.save g.recordedExecutor
  | .release ref => fun s => RecordedSession.plain (Session.release g.recordedExecutor (ref.resolve s)) s
  | .rollbackTo ref => fun s => RecordedSession.plain (Session.rollbackTo g.recordedExecutor (ref.resolve s)) s
  | .isLive ref => fun s => (.ok (.flag (SavepointStack.isLive s.stack (ref.resolve s))), s)
  | .commit => RecordedSession.plain (Session.commit g.recordedExecutor)
  | .rollback => RecordedSession.plain (Session.rollback g.recordedExecutor)
  | .inTransaction => fun s => (.ok (.flag (!s.stack.isEmpty)), s)
  | .scope _ mode failure body =>
    Session.scope g.recordedExecutor mode fun s =>
      match Stage.runBody g body (g.record .entered s) with
      | (.ok _, s) =>
        match failure with
        | some message => (.error (.custom message), s)
        | none => (.ok (.count body.length), s)
      | (.error e, s) => (.error e, s)
  | .caught step => Stage.outcome g step

/-- Runs a step and records it. A scope is recorded with the records of its body. -/
def Stage.run (g : Stage σ α β ω) : Step α → Operation (RecordedSession σ β ω) (Answer β)
  | .scope attempt mode failure body => fun s =>
    let before := s.store.trace
    let r := Stage.outcome g (.scope attempt mode failure body) { s with store := { s.store with trace := [] } }
    let inner := r.2.store.trace
    (r.1, g.record (.scope attempt r.1 inner) { r.2 with store := { r.2.store with trace := before } })
  | .caught step => Stage.run g step
  | step => fun s =>
    let r := Stage.outcome g step s
    (r.1, g.record (.step r.1) r.2)

/-- Runs the steps of a body up to the first failure that is not caught. -/
def Stage.runBody (g : Stage σ α β ω) : List (Step α) → Operation (RecordedSession σ β ω) Unit
  | [] => fun s => (.ok (), s)
  | .caught step :: rest => fun s => Stage.runBody g rest (Stage.run g step s).2
  | step :: rest => fun s =>
    match Stage.run g step s with
    | (.ok _, s) => Stage.runBody g rest s
    | (.error e, s) => (.error e, s)

end

/-- Runs the steps of a script, whatever fails. -/
def Stage.runScript (g : Stage σ α β ω) (steps : List (Step α)) (s : RecordedSession σ β ω) :
    RecordedSession σ β ω :=
  steps.foldl (fun s step => (Stage.run g step s).2) s

/-- The records of a script on a session, and the session after it. -/
def Stage.records (g : Stage σ α β ω) (steps : List (Step α)) (s : Session σ) :
    List (Record β ω) × Session σ :=
  let start : RecordedSession σ β ω := { stack := s.stack, names := s.names, store := ⟨s.store, [], []⟩ }
  let r := g.runScript steps start
  (r.store.trace, { stack := r.stack, names := r.names, store := r.store.store })

end SqlMapper
