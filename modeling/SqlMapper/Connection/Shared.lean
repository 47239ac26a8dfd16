import SqlMapper.Connection.Action

/-!
# Shared connections

A connection that is shared is used by one holder at a time, for the whole of an operation. Who
comes while it is held waits for as long as it takes, or gives up after a time of their own.
-/

namespace SqlMapper

/-- Something that is shared, and whether somebody holds it. -/
structure Shared (σ : Type) where
  value : σ
  held : Bool

variable {σ α β ω : Type}

/-- Runs an operation once the value is free. -/
def Shared.with (op : Operation σ α) : Operation (Shared σ) α := fun s =>
  let r := op s.value
  (r.1, { s with value := r.2 })

/-- Runs an operation, unless the value stays held for so many milliseconds. -/
def Shared.withTimeout (milliseconds : Nat) (op : Operation σ α) :
    Operation (Shared σ) α := fun s =>
  if s.held then (.error (.operation (.busy milliseconds)), s) else Shared.with op s

/-- Runs an operation in a scope of a session that is shared. -/
def Shared.scope (x : Executor σ) (mode : Sql.LockMode) (op : Operation (Session σ) α) :
    Operation (Shared (Session σ)) α :=
  Shared.with (Session.scope x mode op)

/-- The ways of getting at what is shared. -/
inductive Access where
  | wait
  | within (milliseconds : Nat)
  | transaction (mode : Sql.LockMode)
  deriving DecidableEq, Repr

/-- Runs an operation on a session that is shared. -/
def Access.run (x : Executor σ) (a : Access) (op : Operation (Session σ) α) :
    Operation (Shared (Session σ)) α :=
  match a with
  | .wait => Shared.with op
  | .within milliseconds => Shared.withTimeout milliseconds op
  | .transaction mode => Shared.scope x mode op

/-- A call: a script that is run by one holder and then fails or gives the number of its steps. -/
structure Call (α : Type) where
  access : Access
  /-- Whether somebody else holds the connection all the while. -/
  held : Bool
  steps : List (Step α)
  failure : Option String

/-- What a call gives, and the records of its steps if they were run. -/
structure CallRecord (β ω : Type) where
  outcome : Except Error Nat
  steps : Option (List (Record β ω))

/-- The script of a call as one operation; it begins with a record of its own. -/
def Stage.whole (g : Stage σ α β ω) (steps : List (Step α)) (failure : Option String) :
    Operation (RecordedSession σ β ω) Nat := fun s =>
  let s := g.runScript steps (g.record .entered s)
  match failure with
  | some message => (.error (.custom message), s)
  | none => (.ok steps.length, s)

/-- Makes a call on a session. -/
def Stage.call (g : Stage σ α β ω) (c : Call α) (s : Session σ) : CallRecord β ω × Session σ :=
  let start : RecordedSession σ β ω := { stack := s.stack, names := s.names, store := ⟨s.store, [], []⟩ }
  let r := c.access.run g.recordedExecutor (g.whole c.steps c.failure) ⟨start, c.held⟩
  let after := r.2.value
  let steps :=
    match after.store.trace with
    | [] => none
    | _ :: records => some records
  (⟨r.1, steps⟩, { stack := after.stack, names := after.names, store := after.store.store })

/-- Makes calls one after another. -/
def Stage.calls (g : Stage σ α β ω) : List (Call α) → Session σ → List (CallRecord β ω)
  | [], _ => []
  | c :: rest, s =>
    let r := g.call c s
    r.1 :: g.calls rest r.2

end SqlMapper
