import SqlMapper.Proofs.Savepoint.Functional

/-!
# Scopes do all or nothing

The scopes of a session do on the database what scopes as functions do on the tables. The relation between the two
(`At`) is the tables, the names and the records being the same and the stack being the nesting of the scopes. The
levels of the database are not told by it: below the stack of a scope they are what they were, and above it levels
may linger, of savepoints that were rolled back to and could not be released (`Lingers`). A lingering level is
deeper than every savepoint the session still knows, so no name of the session means it.
-/

namespace SqlMapper

variable {β γ : Type}

/-- A session with records over a database that may refuse. -/
abbrev Recording (β : Type) := RecordedSession Unreliable β Tables

/-- The tables, names and records of a session. -/
def Session.moment (s : Recording β) : Moment β :=
  ⟨s.store.store.database.tables, s.names, s.store.store.asked, s.store.trace⟩

/-- The levels that are open in the database of a session. -/
def Session.levels (s : Recording β) : List OpenLevel := s.store.store.database.levels

/-- A session has come to a moment, with such a stack and such levels open. -/
structure Session.At (s : Recording β) (m : Moment β) (stack : SavepointStack) (levels : List OpenLevel) : Prop where
  moment : s.moment = m
  stack : s.stack = stack
  levels : s.levels = levels

/-- A level that may linger at a depth: it was a savepoint at this depth or deeper, and not the outermost level. -/
def OpenLevel.Lingers (depth : Nat) (l : OpenLevel) : Prop :=
  0 < depth ∧ ∃ d name, depth ≤ d ∧ MintedAt d name ∧ l.name = some name

/-- An operation on sessions does under a stack what a function does on moments, and leaves the levels as they were
but for lingering ones. -/
def Refines (stack : SavepointStack) (op : Operation (Recording β) γ) (function : Operation (Moment β) γ) : Prop :=
  ∀ (s : Recording β) (m : Moment β) (levels : List OpenLevel), s.At m stack levels → (stack = [] ↔ levels = []) →
    (op s).1 = (function m).1 ∧
      ∃ extra, (op s).2.At (function m).2 stack (levels ++ extra) ∧ ∀ l ∈ extra, l.Lingers stack.length

/-! ## Lingering levels -/

/-- A name minted for a smaller depth means no lingering level. -/
theorem OpenLevel.Lingers.isNamed_eq_false {depth d : Nat} {name : String} {l : OpenLevel} (h : l.Lingers depth)
    (hn : MintedAt d name) (hd : d < depth) : l.isNamed name = false := by
  obtain ⟨-, d', other, hle, ho, hl⟩ := h
  simp only [OpenLevel.isNamed, hl, Option.map_some, Option.getD_some]
  exact not_sameWord_of_mintedAt hn ho (by omega)

/-- The savepoint of a scope is found below all that linger in it. -/
theorem find?_scope {depth : Nat} {name : String} (hn : MintedAt depth name) (outside extra : List OpenLevel)
    (before : Tables) (hx : ∀ l ∈ extra, l.Lingers (depth + 1)) :
    OpenLevel.find? name (outside ++ ⟨some name, before⟩ :: extra) = some (outside, ⟨some name, before⟩) := by
  refine OpenLevels.find?_append outside ?_ ?_
  · simp [OpenLevel.isNamed, Sql.sameWord]
  · intro l hl
    exact (hx l hl).isNamed_eq_false hn (Nat.lt_succ_self depth)

/-! ## Asking for one statement -/

section Statements

variable (f : Refusals)

/-- The batches of a session with records. -/
abbrev Refusals.recording (β : Type) : Executor (Recorded Unreliable β Tables) :=
  (f.stage β fun u => u.database.tables).recordedExecutor

variable {f} {s : Recording β} {m : Moment β} {stack : SavepointStack} {levels : List OpenLevel}

/-- A batch runs on the store under the records. -/
theorem send_recording (b : Batch) (s : Recording β) :
    Session.send (f.recording β) b s =
      ((f.executor.run b s.store.store).1,
        { s with store := { s.store with store := (f.executor.run b s.store.store).2 } }) := rfl

/-- A batch that the rules allow and that keeps the tables is asked for: it is refused, or done. -/
theorem send_asks (h : s.At m stack levels) {b : Batch} {levels' : List OpenLevel}
    (hrun : f.executor.run b s.store.store = f.answer s.store.store { s.store.store.database with levels := levels' }) :
    (∃ e t n, Session.send (f.recording β) b s = (.error e, t) ∧ m.ask f = (.error e, n) ∧ t.At n stack levels ∧
        n.tables = m.tables) ∨
      ∃ t n, Session.send (f.recording β) b s = (.ok (), t) ∧ m.ask f = (.ok (), n) ∧ t.At n stack levels' ∧
        n.tables = m.tables := by
  obtain ⟨rfl, rfl, rfl⟩ := h
  rw [send_recording, hrun]
  unfold Moment.ask Refusals.answer Session.moment
  cases f.batches s.store.store.asked with
  | some e => exact Or.inl ⟨e, _, _, rfl, rfl, ⟨rfl, rfl, rfl⟩, rfl⟩
  | none => exact Or.inr ⟨_, _, rfl, rfl, ⟨rfl, rfl, rfl⟩, rfl⟩

/-- The stack of a session is no part of its moment. -/
theorem Session.At.restack (h : s.At m stack levels) (stack' : SavepointStack) :
    Session.At { s with stack := stack' } m stack' levels :=
  ⟨h.moment, rfl, h.levels⟩

/-- Where a scope stands: it owns the transaction around it, or it is nested in the levels that were open. -/
inductive Around (mode : Sql.LockMode) (tables : Tables) :
    SavepointStack → List OpenLevel → SavepointStack → List OpenLevel → Prop where
  | own : Around mode tables [] [] [.transaction mode] [⟨none, tables⟩]
  | nested {outer : SavepointStack} {below : List OpenLevel} (hs : outer ≠ []) (hl : below ≠ []) :
    Around mode tables outer below outer below

/-- Entering a scope asks for a transaction when none is open. -/
theorem enter_asks (mode : Sql.LockMode) (h : s.At m stack levels) (hidle : stack = [] ↔ levels = []) :
    (∃ e t n, Session.enter (f.recording β) stack.isEmpty mode s = (.error e, t) ∧
        m.enter f mode stack = (.error e, n) ∧ t.At n stack levels ∧ n.tables = m.tables) ∨
      ∃ t n outer below, Session.enter (f.recording β) stack.isEmpty mode s = (.ok (), t) ∧
        m.enter f mode stack = (.ok outer, n) ∧ t.At n outer below ∧ n.tables = m.tables ∧
        Around mode m.tables stack levels outer below := by
  by_cases hs : stack = []
  · have hl := hidle.1 hs
    subst hs hl
    have hdb : s.store.store.database.levels = [] := h.levels
    have htables : s.store.store.database.tables = m.tables := by rw [← h.moment]; rfl
    simp only [Session.enter, Session.begin, Moment.enter, h.stack, List.isEmpty_nil, if_true, Operation.andThen]
    rcases send_asks h (run_begin f mode hdb) with ⟨e, t, n, ht, hn, hat, hkeep⟩ | ⟨t, n, ht, hn, hat, hkeep⟩
    · refine Or.inl ⟨e, t, n, ?_, ?_, hat, hkeep⟩
      · simp only [ht]
      · simp only [hn]
    · refine Or.inr ⟨{ t with stack := t.stack ++ [.transaction mode] }, n, _, _, ?_, ?_, ?_, hkeep, Around.own⟩
      · simp only [ht]
      · simp only [hn]
      · rw [hat.stack, ← htables]
        exact hat.restack _
  · have hl : levels ≠ [] := fun e => hs (hidle.2 e)
    have hempty : stack.isEmpty = false := by simpa using hs
    refine Or.inr ⟨s, m, stack, levels, ?_, ?_, h, rfl, Around.nested hs hl⟩
    · simp [Session.enter, hempty]
    · simp [Moment.enter, hempty]

/-- A savepoint is asked for under a minted name, and opened above all that linger. -/
theorem savepoint_asks (h : s.At m stack levels) :
    (∃ e t n, Session.savepoint (f.recording β) s = (.error e, t) ∧ m.save f stack = (.error e, n) ∧
        t.At n stack levels ∧ n.tables = m.tables) ∨
      ∃ name t n, Session.savepoint (f.recording β) s = (.ok name, t) ∧
        m.save f stack = (.ok (stack ++ [.savepoint name]), n) ∧ MintedAt stack.length name ∧
        t.At n (stack ++ [.savepoint name]) (levels ++ [⟨some name, m.tables⟩]) ∧ n.tables = m.tables := by
  obtain ⟨rfl, rfl, rfl⟩ := h
  have hn := mintedAt_mint s.stack.length (SavepointStack.isLive s.stack) s.stack.length s.names
  have hnames : s.moment.names = s.names := rfl
  simp only [Session.savepoint, Moment.save, hnames]
  generalize s.names.mint s.stack.length (SavepointStack.isLive s.stack) s.stack.length = minted at hn ⊢
  have hat : Session.At { s with names := minted.2 } { s.moment with names := minted.2 } s.stack s.levels :=
    ⟨rfl, rfl, rfl⟩
  rcases send_asks hat (run_savepoint f ⟨_, hn⟩) with ⟨e, t, n, ht, hm, hat, hkeep⟩ | ⟨t, n, ht, hm, hat, hkeep⟩
  · refine Or.inl ⟨e, t, n, ?_, ?_, hat, hkeep⟩
    · simp only [ht]
    · simp only [Operation.andThen, hm]
  · refine Or.inr ⟨minted.1, { t with stack := t.stack ++ [.savepoint minted.1] }, n, ?_, ?_, hn, ?_, hkeep⟩
    · simp only [ht]
    · simp only [Operation.andThen, hm]
    · rw [hat.stack]
      exact hat.restack _

end Statements

/-! ## Undoing a scope -/

section Undo

variable {f : Refusals} {s : Recording β} {m : Moment β}

/-- The owner of a transaction undoes all of it. -/
theorem undo_own {stack : SavepointStack} {l : OpenLevel} {inner : List OpenLevel} (h : s.At m stack (l :: inner))
    (hs : stack ≠ []) (name : Option String) :
    (Session.undo (f.recording β) true name s).At { m with tables := l.before } [] [] := by
  obtain ⟨rfl, rfl, hl⟩ := h
  have hempty : s.stack.isEmpty = false := by simpa using hs
  simp only [Session.undo, Session.rollback, hempty, if_true, send_recording, run_rollback f hl]
  exact ⟨rfl, rfl, rfl⟩

/-- A nested scope goes back to its savepoint, whatever lingers in it; if the savepoint cannot be released, it
lingers itself. -/
theorem undo_nested {stack : SavepointStack} {below extra : List OpenLevel} {name : String} {before : Tables}
    (h : s.At m (stack ++ [.savepoint name]) (below ++ ⟨some name, before⟩ :: extra)) (hs : stack ≠ [])
    (hn : MintedAt stack.length name) (hx : ∀ l ∈ extra, l.Lingers (stack.length + 1)) :
    ∃ rest, (Session.undo (f.recording β) false (some name) s).At { m with tables := before } stack (below ++ rest) ∧
      ∀ l ∈ rest, l.Lingers stack.length := by
  obtain ⟨rfl, hstack, hl⟩ := h
  have hbelow : s.stack.below? name = some stack := by rw [hstack, SavepointStack.below?_push]
  have hlive := SavepointStack.isLive_of_below? hbelow
  have hfind : OpenLevel.find? name s.store.store.database.levels = some (below, ⟨some name, before⟩) := by
    have hl : s.store.store.database.levels = below ++ ⟨some name, before⟩ :: extra := hl
    rw [hl, find?_scope hn below extra before hx]
  simp only [Session.undo, Session.rollbackTo, hlive, hbelow, if_true, Bool.false_eq_true, if_false, send_recording,
    run_rollbackTo f ⟨_, hn⟩ hfind]
  cases f.followers s.store.store.followed with
  | some e =>
    refine ⟨[⟨some name, before⟩], ⟨rfl, rfl, rfl⟩, ?_⟩
    intro l hl
    rw [List.mem_singleton.1 hl]
    exact ⟨List.length_pos_iff.2 hs, _, _, Nat.le_refl _, hn, rfl⟩
  | none => exact ⟨[], ⟨rfl, rfl, by simp [Session.levels]⟩, by simp⟩

/-- However a scope stands, undoing it from within its savepoint brings back the tables there were before it. -/
theorem undo_within {mode : Sql.LockMode} {stack outer : SavepointStack} {levels below extra : List OpenLevel}
    {name : String} {before : Tables} (ha : Around mode before stack levels outer below)
    (h : s.At m (outer ++ [.savepoint name]) (below ++ ⟨some name, before⟩ :: extra)) (hn : MintedAt outer.length name)
    (hx : ∀ l ∈ extra, l.Lingers (outer.length + 1)) :
    ∃ rest, (Session.undo (f.recording β) stack.isEmpty (some name) s).At
      { m with tables := before } stack (levels ++ rest) ∧
      ∀ l ∈ rest, l.Lingers stack.length := by
  cases ha with
  | own => exact ⟨[], undo_own h (by simp) _, by simp⟩
  | nested hs hl =>
    have hempty : stack.isEmpty = false := by simpa using hs
    rw [hempty]
    exact undo_nested h hs hn hx

end Undo

/-! ## Closing a scope -/

section Leave

variable {f : Refusals} {s : Recording β} {m : Moment β}

/-- The savepoint of a scope is released with all that lingers in it, and the transaction is committed if it is the
scope's own. If either is refused, undoing the scope brings back the tables there were before it. -/
theorem leave_asks {mode : Sql.LockMode} {stack outer : SavepointStack} {levels below extra : List OpenLevel}
    {name : String} {before : Tables} (ha : Around mode before stack levels outer below)
    (h : s.At m (outer ++ [.savepoint name]) (below ++ ⟨some name, before⟩ :: extra)) (hn : MintedAt outer.length name)
    (hx : ∀ l ∈ extra, l.Lingers (outer.length + 1)) :
    (∃ e t n, Session.leave (f.recording β) stack.isEmpty name s = (.error e, t) ∧ m.leave f stack = (.error e, n) ∧
        ∃ rest, (Session.undo (f.recording β) stack.isEmpty (some name) t).At { n with tables := before } stack
            (levels ++ rest) ∧ ∀ l ∈ rest, l.Lingers stack.length) ∨
      ∃ t n, Session.leave (f.recording β) stack.isEmpty name s = (.ok (), t) ∧ m.leave f stack = (.ok (), n) ∧
        t.At n stack levels := by
  have hbelow : s.stack.below? name = some outer := by rw [h.stack, SavepointStack.below?_push]
  have hfind : OpenLevel.find? name s.store.store.database.levels = some (below, ⟨some name, before⟩) := by
    have hl : s.store.store.database.levels = below ++ ⟨some name, before⟩ :: extra := h.levels
    rw [hl, find?_scope hn below extra before hx]
  simp only [Session.leave, Session.release, hbelow, Moment.leave, Operation.andThen]
  rcases send_asks h (run_release f ⟨_, hn⟩ hfind) with ⟨e, t, n, ht, hm, hat, hkeep⟩ | ⟨t, n, ht, hm, hat, hkeep⟩
  · refine Or.inl ⟨e, t, n, ?_, ?_, undo_within ha hat hn hx⟩
    · simp only [ht]
    · simp only [hm]
  · simp only [ht, hm]
    have hat : Session.At { t with stack := outer } n outer below := hat.restack outer
    cases ha with
    | nested hs hl =>
      have hempty : stack.isEmpty = false := by simpa using hs
      simp only [hempty, Bool.false_eq_true, if_false]
      exact Or.inr ⟨_, _, rfl, rfl, hat⟩
    | own =>
      have hopen : t.store.store.database.levels ≠ [] := by
        have hl : t.store.store.database.levels = [⟨none, before⟩] := hat.levels
        simp [hl]
      simp only [List.isEmpty_nil, if_true, Session.commit, List.isEmpty_cons, Bool.false_eq_true, if_false]
      rcases send_asks hat (run_commit f hopen) with ⟨e, u, k, hu, hk, hat, -⟩ | ⟨u, k, hu, hk, hat, -⟩
      · refine Or.inl ⟨e, u, k, ?_, hk, [], undo_own hat (by simp) _, by simp⟩
        simp only [hu]
      · refine Or.inr ⟨{ u with stack := [] }, k, ?_, hk, hat.restack []⟩
        simp only [hu]

end Leave

/-! ## Scopes and programs -/

section Programs

variable {f : Refusals}

/-- A scope does all or nothing when its body does what a function does, wherever the scope stands. -/
theorem refines_scope (mode : Sql.LockMode) (stack : SavepointStack) {body : Operation (Recording β) γ}
    {function : SavepointStack → Operation (Moment β) γ}
    (hb : ∀ inner : SavepointStack, inner ≠ [] → Refines inner body (function inner)) :
    Refines stack (Session.scope (f.recording β) mode body) (Moment.scope f mode stack function) := by
  intro s m levels h hidle
  simp only [Session.scope, h.stack, Moment.scope, Moment.attempt, Operation.andThen]
  rcases enter_asks (f := f) mode h hidle with ⟨e, t, n, ht, hn, hat, hkeep⟩ | ⟨t, n, outer, below, ht, hn,
    hat, hkeep, ha⟩
  · simp only [ht, hn]
    refine ⟨trivial, [], ?_, by simp⟩
    rw [← hkeep, List.append_nil]
    exact hat
  simp only [ht, hn]
  rcases savepoint_asks (f := f) hat with ⟨e, t, n, ht, hn, hat, hkeep'⟩ | ⟨name, t, n, ht, hn, hname, hat, hkeep'⟩
  · simp only [ht, hn]
    refine ⟨trivial, [], ?_, by simp⟩
    cases ha with
    | own => exact undo_own hat (by simp) none
    | nested hs hl =>
      have hempty : stack.isEmpty = false := by simpa using hs
      rw [← hkeep, ← hkeep', List.append_nil, hempty]
      exact hat
  simp only [ht, hn]
  obtain ⟨hresult, extra, hat, hx⟩ := hb _ (by simp) t n _ hat (by simp)
  rw [List.append_assoc, List.singleton_append, hkeep] at hat
  rw [List.length_append, List.length_singleton] at hx
  generalize body t = r at hresult hat ⊢
  generalize function (outer ++ [.savepoint name]) n = q at hresult hat ⊢
  obtain ⟨result, t⟩ := r
  obtain ⟨result', n⟩ := q
  obtain rfl : result = result' := hresult
  cases result with
  | error e => exact ⟨rfl, undo_within ha hat hname hx⟩
  | ok a =>
    dsimp only
    rcases leave_asks (f := f) ha hat hname hx with ⟨e, u, k, hu, hk, hundone⟩ | ⟨u, k, hu, hk, hat⟩
    · simp only [hu, hk]
      exact ⟨trivial, hundone⟩
    · simp only [hu, hk]
      exact ⟨trivial, [], by simpa using hat, by simp⟩

/-- What is recorded of a session is what is recorded of its moment. -/
theorem at_record {s : Recording β} {m : Moment β} {stack : SavepointStack} {levels : List OpenLevel}
    (h : s.At m stack levels) (make : View Tables → Record β Tables) :
    ((f.stage β fun u => u.database.tables).record make s).At (m.record make stack) stack levels := by
  obtain ⟨rfl, rfl, rfl⟩ := h
  exact ⟨rfl, rfl, rfl⟩

/-- Nothing lingers on an idle session. -/
theorem idle_append {stack : SavepointStack} {levels extra : List OpenLevel} (hidle : stack = [] ↔ levels = [])
    (hx : ∀ l ∈ extra, l.Lingers stack.length) : stack = [] ↔ levels ++ extra = [] := by
  rw [List.append_eq_nil_iff, ← hidle]
  refine ⟨fun hs => ⟨hs, ?_⟩, And.left⟩
  rw [List.eq_nil_iff_forall_not_mem]
  intro l hl
  have hpos := (hx l hl).1
  simp [hs] at hpos

/-- One operation after another does what one function after another does. -/
theorem Refines.andThen {γ' : Type} {stack : SavepointStack} {op : Operation (Recording β) γ}
    {op' : Operation (Recording β) γ'} {function : Operation (Moment β) γ} {function' : Operation (Moment β) γ'}
    (h : Refines stack op function) (h' : Refines stack op' function') :
    Refines stack (Operation.andThen op fun _ => op') (Operation.andThen function fun _ => function') := by
  intro s m levels hat hidle
  obtain ⟨hresult, extra, hat, hx⟩ := h s m levels hat hidle
  unfold Operation.andThen
  generalize op s = r at hresult hat ⊢
  generalize function m = q at hresult hat ⊢
  obtain ⟨result, t⟩ := r
  obtain ⟨result', n⟩ := q
  obtain rfl : result = result' := hresult
  cases result with
  | error e => exact ⟨rfl, extra, hat, hx⟩
  | ok a =>
    obtain ⟨hresult, extra', hat, hx'⟩ := h' t n _ hat (idle_append hidle hx)
    refine ⟨hresult, extra ++ extra', by rwa [← List.append_assoc], ?_⟩
    intro l hl
    exact (List.mem_append.1 hl).elim (hx l) (hx' l)

/-- A change is made on the tables of a session as on tables, and recorded alike. -/
theorem refines_change (stack : SavepointStack) (c : Change β) :
    Refines stack ((f.stage β fun u => u.database.tables).run (.act c)) fun m =>
      ((c m.tables).1, Moment.record (.step (c m.tables).1) stack { m with tables := (c m.tables).2 }) := by
  rintro s m levels ⟨rfl, rfl, rfl⟩ _
  rw [Stage.run_of_isPlain rfl, Stage.outcome]
  refine ⟨rfl, [], ?_, by simp⟩
  rw [List.append_nil]
  exact ⟨rfl, rfl, rfl⟩

/-- One operation after another, whatever the first gives, does what one function after another does. -/
theorem Refines.after {γ' : Type} {stack : SavepointStack} {op : Operation (Recording β) γ}
    {op' : Operation (Recording β) γ'} {function : Operation (Moment β) γ} {function' : Operation (Moment β) γ'}
    (h : Refines stack op function) (h' : Refines stack op' function') :
    Refines stack (fun s => op' (op s).2) fun m => function' (function m).2 := by
  intro s m levels hat hidle
  obtain ⟨-, extra, hat, hx⟩ := h s m levels hat hidle
  obtain ⟨hresult, extra', hat, hx'⟩ := h' _ _ _ hat (idle_append hidle hx)
  refine ⟨hresult, extra ++ extra', by rwa [← List.append_assoc], ?_⟩
  intro l hl
  exact (List.mem_append.1 hl).elim (hx l) (hx' l)

/-- A body goes on after a program that is not caught as it goes on after its step. -/
theorem refines_cons {p : Program β} {rest : List (Program β)} {stack : SavepointStack} (hp : ∀ q, p ≠ .caught q)
    (h : Refines stack ((f.stage β fun u => u.database.tables).run p.step) (p.run f stack))
    (hrest : Refines stack ((f.stage β fun u => u.database.tables).runBody (Program.steps rest))
      (Program.runBody f stack rest)) :
    Refines stack ((f.stage β fun u => u.database.tables).runBody (Program.steps (p :: rest)))
      (Program.runBody f stack (p :: rest)) := by
  have hstep : ∀ q, p.step ≠ .caught q := by
    cases p with
    | caught q => exact absurd rfl (hp q)
    | _ => simp [Program.step]
  rw [Program.steps, Stage.runBody_of_not_caught hstep, Program.runBody]
  · exact h.andThen hrest
  · exact hp

/-- The body of a scope is recorded from the moment it is entered, and may end in a failure of its own. -/
theorem refines_body {stack : SavepointStack} {op : Operation (Recording β) γ} {function : Operation (Moment β) γ}
    (h : Refines stack op function) (failure : Option String) (steps : Nat) :
    Refines stack
      (fun s => Operation.andThen op (fun _ => Operation.conclude (β := β) failure steps)
        ((f.stage β fun u => u.database.tables).record .entered s))
      fun m => Operation.andThen function (fun _ => Operation.conclude failure steps) (m.record .entered stack) := by
  have hconclude : Refines (β := β) stack (Operation.conclude (β := β) failure steps)
    (Operation.conclude failure steps) := by
    intro s m levels hat _
    rw [← List.append_nil levels] at hat
    cases failure <;> exact ⟨rfl, [], hat, by simp⟩
  intro s m levels hat hidle
  exact h.andThen hconclude _ _ levels (at_record hat .entered) hidle

/-- The records of a body are kept in the record of its scope, and those before it stay in front. -/
theorem refines_scope_step (attempt : Bool) (mode : Sql.LockMode) (failure : Option String) (stack : SavepointStack)
    {body : List (Program β)}
    (h : ∀ inner, Refines inner ((f.stage β fun u => u.database.tables).runBody (Program.steps body))
      (Program.runBody f inner body)) :
    Refines stack ((f.stage β fun u => u.database.tables).run (.scope attempt mode failure (Program.steps body)))
      ((Program.scope attempt mode failure body).run f stack) := by
  intro s m levels hat hidle
  have hempty : Session.At (β := β) { s with store := { s.store with trace := [] } }
    { m with trace := [] } stack levels := by
    obtain ⟨rfl, rfl, rfl⟩ := hat
    exact ⟨rfl, rfl, rfl⟩
  have htrace : s.store.trace = m.trace := by rw [← hat.moment]; rfl
  have hscope := refines_scope (f := f) mode stack fun inner _ => refines_body (f := f) (h inner) failure body.length
  obtain ⟨hresult, extra, hat, hx⟩ := hscope _ _ _ hempty hidle
  rw [Stage.run, Program.run, Stage.outcome_scope, Program.length_steps]
  dsimp only
  generalize Session.scope _ mode _ _ = r at hresult hat ⊢
  generalize Moment.scope f mode stack _ _ = q at hresult hat ⊢
  obtain ⟨result, t⟩ := r
  obtain ⟨result', n⟩ := q
  obtain rfl : result = result' := hresult
  obtain ⟨rfl, rfl, hl⟩ := hat
  rw [htrace]
  exact ⟨rfl, extra, ⟨rfl, rfl, hl⟩, hx⟩

variable (f)

mutual

/-- A step of a script does what its program does. -/
theorem refines_run : ∀ (p : Program β) (stack : SavepointStack),
    Refines stack ((f.stage β fun u => u.database.tables).run p.step) (p.run f stack)
  | .change c, stack => by
    rw [Program.step]
    exact refines_change stack c
  | .fail e, stack => by
    rw [Program.step]
    exact refines_change stack fun ts => (.error e, ts)
  | .scope attempt mode failure body, stack => by
    rw [Program.step]
    exact refines_scope_step attempt mode failure stack (refines_runBody body)
  | .caught p, stack => by
    rw [Program.step, Stage.run, Program.run]
    exact refines_run p stack

/-- The steps of a body do what its programs do. -/
theorem refines_runBody : ∀ (ps : List (Program β)) (stack : SavepointStack),
    Refines stack ((f.stage β fun u => u.database.tables).runBody (Program.steps ps)) (Program.runBody f stack ps)
  | [], stack => by
    intro s m levels h _
    rw [Program.steps, Stage.runBody, Program.runBody]
    exact ⟨rfl, [], by simpa using h, by simp⟩
  | .caught p :: rest, stack => by
    rw [Program.steps, Program.step, Stage.runBody, Program.runBody]
    exact Refines.after (refines_run p stack) (refines_runBody rest stack)
  | .change c :: rest, stack => refines_cons nofun (refines_run (.change c) stack) (refines_runBody rest stack)
  | .fail e :: rest, stack => refines_cons nofun (refines_run (.fail e) stack) (refines_runBody rest stack)
  | .scope attempt mode failure body :: rest, stack =>
    refines_cons nofun (refines_run (.scope attempt mode failure body) stack) (refines_runBody rest stack)

end

/-- A script does what its programs do, one after another. -/
theorem refines_runScript (stack : SavepointStack) (ps : List (Program β)) :
    ∀ (s : Recording β) (m : Moment β) (levels : List OpenLevel), s.At m stack levels → (stack = [] ↔ levels = []) →
      ∃ extra, ((f.stage β fun u => u.database.tables).runScript (Program.steps ps) s).At
        (Program.runAll f stack ps m) stack (levels ++ extra) ∧ ∀ l ∈ extra, l.Lingers stack.length := by
  induction ps with
  | nil =>
    intro s m levels hat _
    rw [← List.append_nil levels] at hat
    exact ⟨[], hat, by simp⟩
  | cons p ps ih =>
    intro s m levels hat hidle
    obtain ⟨-, extra, hat, hx⟩ := refines_run f p stack s m levels hat hidle
    obtain ⟨extra', hat, hx'⟩ := ih _ _ _ hat (idle_append hidle hx)
    rw [Program.steps]
    refine ⟨extra ++ extra', by rwa [← List.append_assoc], ?_⟩
    intro l hl
    exact (List.mem_append.1 hl).elim (hx l) (hx' l)

end Programs

/-- Whatever batches are refused, and however scopes, changes and failures are nested and caught: from any session
that is idle exactly when its database is, a script of scopes leaves the tables and the stack, and gives the results
at every step inside and outside of scopes, that scopes as functions give, where each keeps all of what it does or
none of it. -/
theorem scopes_all_or_nothing (f : Refusals) (ps : List (Program β)) (s : Session Unreliable)
    (h : s.stack = [] ↔ s.store.database.isIdle = true) :
    let r := (f.stage β fun u => u.database.tables).records (Program.steps ps) s
    let m := Program.runAll f s.stack ps ⟨s.store.database.tables, s.names, s.store.asked, []⟩
    r.1 = m.trace ∧ r.2.store.database.tables = m.tables ∧ r.2.stack = s.stack ∧ r.2.names = m.names ∧
      (r.2.stack = [] ↔ r.2.store.database.isIdle = true) := by
  rw [Database.isIdle, List.isEmpty_iff] at h
  have hat : Session.At (β := β) ⟨s.stack, s.names, ⟨s.store, [], []⟩⟩
      ⟨s.store.database.tables, s.names, s.store.asked, []⟩ s.stack s.store.database.levels := ⟨rfl, rfl, rfl⟩
  obtain ⟨extra, ⟨hm, hs, hl⟩, hx⟩ := refines_runScript f s.stack ps _ _ _ hat h
  intro r m
  have hstack : r.2.stack = s.stack := hs
  have hlevels : r.2.store.database.levels = s.store.database.levels ++ extra := hl
  refine ⟨congrArg Moment.trace hm, congrArg Moment.tables hm, hs, congrArg Moment.names hm, ?_⟩
  rw [Database.isIdle, List.isEmpty_iff, hstack, hlevels]
  exact idle_append h hx

/-- On an idle database in memory, with a nested scope whose savepoint cannot be released and is not caught. -/
theorem scopes_all_or_nothing_inMemory :
    let f : Refusals := ⟨fun k => if k = 3 then some (.custom "busy") else none, fun _ => none⟩
    let create (name : String) : Program Unit := .change fun ts => (.ok .none, ts ++ [⟨name, [], []⟩])
    let program := .scope false .deferred none [create "a", .scope false .immediate none [create "b"]]
    let s := Session.idle .counter (.fresh (Database.empty none .inMemory))
    let r := (f.stage Unit fun u => u.database.tables).records (Program.steps [program]) s
    (s.stack = [] ↔ s.store.database.isIdle = true) ∧
    r.1 = (Program.runAll f [] [program] ⟨[], .counter 0, 0, []⟩).trace ∧
      r.2.store.database.tables = [] ∧ r.2.stack = [] := by
  intro f create program s r
  have hidle : s.stack = [] ↔ s.store.database.isIdle = true := by
    simp [s, Session.idle, Unreliable.fresh, Database.isIdle, Database.empty]
  obtain ⟨htrace, htables, hstack, -, -⟩ := scopes_all_or_nothing f [program] s hidle
  exact ⟨hidle, htrace, htables, hstack⟩

end SqlMapper
