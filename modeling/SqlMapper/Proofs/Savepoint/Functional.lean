import SqlMapper.Proofs.Savepoint.Invariant
import SqlMapper.Proofs.Savepoint.Refusals

/-!
# Scopes as functions

What scopes mean, without levels and snapshots: a scope runs its body on the tables at hand, and the tables are
those the body left when the body and the statements that open and close the scope all succeed, and those there were
before it otherwise.

The statements still have to be asked for, as any of them may be refused, and the stack is needed to name the
savepoints; but it is only the nesting of the scopes, handed down from each to its body, and nothing is ever taken
off it.
-/

namespace SqlMapper

/-- A program: changes of the tables, failures, and scopes around programs. A failure in a body ends it unless it is
caught. -/
inductive Program (β : Type) where
  | change (c : Change β)
  | fail (e : Error)
  | scope (attempt : Bool) (mode : Sql.LockMode) (failure : Option String) (body : List (Program β))
  | caught (p : Program β)

variable {β : Type}

mutual

/-- A program as a step of a script. -/
def Program.step : Program β → Step (Change β)
  | .change c => .act c
  | .fail e => .act fun ts => (.error e, ts)
  | .scope attempt mode failure body => .scope attempt mode failure (Program.steps body)
  | .caught p => .caught p.step

/-- Programs as the steps of a script. -/
def Program.steps : List (Program β) → List (Step (Change β))
  | [] => []
  | p :: ps => p.step :: Program.steps ps

end

/-- What a program runs on: the tables, the source of names, how many batches were up for refusal, and the records
of the steps since the innermost open scope. -/
structure Moment (β : Type) where
  tables : Tables
  names : NameSource
  asked : Nat
  trace : List (Record β Tables)

namespace Moment

/-- Asks for a batch, which may be refused. -/
def ask (f : Refusals) : Operation (Moment β) Unit := fun m =>
  match f.batches m.asked with
  | some e => (.error e, { m with asked := m.asked + 1 })
  | none => (.ok (), { m with asked := m.asked + 1 })

/-- Adds a record of what is seen. -/
def record (make : View Tables → Record β Tables) (stack : SavepointStack) (m : Moment β) : Moment β :=
  { m with trace := m.trace ++ [make ⟨stack.length, stack.names, m.tables⟩] }

/-- Opens the transaction around a scope when there is none; the levels then. -/
def enter (f : Refusals) (mode : Sql.LockMode) (stack : SavepointStack) :
    Operation (Moment β) SavepointStack := fun m =>
  if stack.isEmpty then Operation.andThen (ask f) (fun _ m => (.ok [.transaction mode], m)) m else (.ok stack, m)

/-- Opens the savepoint of a scope; the levels then. -/
def save (f : Refusals) (stack : SavepointStack) : Operation (Moment β) SavepointStack := fun m =>
  let minted := m.names.mint stack.length stack.isLive stack.length
  Operation.andThen (ask f) (fun _ m => (.ok (stack ++ [.savepoint minted.1]), m)) { m with names := minted.2 }

/-- Closes the savepoint of a scope, and the transaction when it is the scope's own. -/
def leave (f : Refusals) (stack : SavepointStack) : Operation (Moment β) Unit :=
  Operation.andThen (ask f) fun _ m => if stack.isEmpty then ask f m else (.ok (), m)

/-- Opens a scope, runs the body inside it, and closes the scope, up to the first failure. -/
def attempt {γ : Type} (f : Refusals) (mode : Sql.LockMode) (stack : SavepointStack)
    (body : SavepointStack → Operation (Moment β) γ) : Operation (Moment β) γ :=
  Operation.andThen (enter f mode stack) fun outer =>
    Operation.andThen (save f outer) fun inner =>
      Operation.andThen (body inner) fun a =>
        Operation.andThen (leave f stack) fun _ m => (.ok a, m)

/-- A scope does all of it or nothing: a failure anywhere leaves the tables as they were. -/
def scope {γ : Type} (f : Refusals) (mode : Sql.LockMode) (stack : SavepointStack)
    (body : SavepointStack → Operation (Moment β) γ) : Operation (Moment β) γ := fun m =>
  match attempt f mode stack body m with
  | (.ok a, n) => (.ok a, n)
  | (.error e, n) => (.error e, { n with tables := m.tables })

end Moment

mutual

/-- Runs a program under some levels, and records it. -/
def Program.run (f : Refusals) (stack : SavepointStack) : Program β → Operation (Moment β) (Answer β)
  | .change c => fun m =>
    let r := c m.tables
    (r.1, Moment.record (.step r.1) stack { m with tables := r.2 })
  | .fail e => fun m => (.error e, Moment.record (.step (.error e)) stack m)
  | .scope attempt mode failure body => fun m =>
    let r := Moment.scope f mode stack (fun inner m =>
      Operation.andThen (Program.runBody f inner body) (fun _ => Operation.conclude failure body.length)
        (m.record .entered inner)) { m with trace := [] }
    (r.1, Moment.record (.scope attempt r.1 r.2.trace) stack { r.2 with trace := m.trace })
  | .caught p => Program.run f stack p

/-- Runs the programs of a body up to the first failure that is not caught. -/
def Program.runBody (f : Refusals) (stack : SavepointStack) : List (Program β) → Operation (Moment β) Unit
  | [] => fun m => (.ok (), m)
  | .caught p :: rest => fun m => Program.runBody f stack rest (Program.run f stack p m).2
  | p :: rest => Operation.andThen (Program.run f stack p) fun _ => Program.runBody f stack rest

end

/-- Runs programs one after another, whatever fails. -/
def Program.runAll (f : Refusals) (stack : SavepointStack) (ps : List (Program β)) (m : Moment β) : Moment β :=
  ps.foldl (fun m p => (p.run f stack m).2) m

/-- A body has one step for each program in it. -/
theorem Program.length_steps (ps : List (Program β)) : (Program.steps ps).length = ps.length := by
  induction ps with
  | nil => rfl
  | cons p ps ih => rw [Program.steps, List.length_cons, List.length_cons, ih]

end SqlMapper
