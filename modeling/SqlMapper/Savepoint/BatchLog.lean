import SqlMapper.Savepoint.Script

/-!
# A log in place of a store

A store that keeps nothing but the texts of the batches it was sent, and refuses those that begin as
one of its failing texts says. A refused batch is logged like any other. Looking at the log empties
it.
-/

namespace SqlMapper

/-- The batches since the log was last looked at, and the beginnings of the batches that are
refused. -/
structure BatchLog where
  entries : List String
  failing : List String
  deriving DecidableEq, Repr

/-- Whether a batch of this text is refused. -/
def BatchLog.refuses (log : BatchLog) (text : String) : Bool :=
  log.failing.any fun start => text.startsWith start

/-- Logs a batch, and refuses it if it is one of the failing ones. -/
def BatchLog.executor : Executor BatchLog where
  run b log :=
    let log' := { log with entries := log.entries ++ [b.text] }
    if log.refuses b.text then (.error (.custom ("injected failure on " ++ b.text)), log') else (.ok (), log')

/-- Sets the beginnings of the batches that are refused from now on. -/
def BatchLog.failOn (starts : List String) : Operation (Session BatchLog) (Answer Empty) := fun s =>
  (.ok .none, { s with store := { s.store with failing := starts } })

/-- Scripts on a log; their actions set what is refused, and a look takes the entries out. -/
def BatchLog.stage : Stage BatchLog (List String) Empty (List String) where
  executor := BatchLog.executor
  act := BatchLog.failOn
  look log := (log.entries, { log with entries := [] })

/-- The records of a script on an empty log. -/
def BatchLog.records (naming : SavepointNaming) (steps : List (Step (List String))) :
    List (Record Empty (List String)) :=
  (BatchLog.stage.records steps (Session.idle naming ⟨[], []⟩)).1

end SqlMapper
