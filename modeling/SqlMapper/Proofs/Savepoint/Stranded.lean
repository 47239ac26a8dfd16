import SqlMapper.Proofs.Savepoint.Restoring

/-!
# Rollbacks that are refused

A release and a commit take levels off the stack when the database has closed them, so a refused one leaves them to
be rolled back. A rollback takes them off before it is sent. As long as no rollback is refused, all levels that are
open in the database are on the stack (`Session.Listed`). A refused one leaves the database as it was, and from then
on there are levels in it that no operation of the session can roll back: the same rollback again is not sent, and a
commit keeps what a scope that failed has left.
-/

namespace SqlMapper

/-- What is refused when rollbacks may be refused too: the `k`-th batch that opens, releases or commits, and the
`k`-th batch that rolls back. -/
structure Denials where
  batches : Nat → Option Error
  rollbacks : Nat → Option Error

/-- A database that may refuse, with the number of rollbacks that have been up for refusal. -/
structure Denying where
  store : Unreliable
  rollbacks : Nat

/-- Whether a batch rolls back. -/
def Batch.rollsBack : Batch → Bool
  | .rollbackTo _ => true
  | .rollback => true
  | _ => false

/-- Counts a batch that is up for refusal as a rollback. -/
def Denying.count (b : Batch) (u : Denying) : Denying :=
  { u with rollbacks := if b.rollsBack then u.rollbacks + 1 else u.rollbacks }

/-- Runs the batches of a session, unless they are rollbacks that are refused. -/
def Denials.executor (d : Denials) : Executor Denying where
  run b u :=
    match if b.rollsBack then d.rollbacks u.rollbacks else none with
    | some e => (.error e, u.count b)
    | none =>
      let r := (Refusals.ofBatches d.batches).executor.run b u.store
      (r.1, { u.count b with store := r.2 })

/-- No rollback has been refused so far. -/
def Denials.Undenied (d : Denials) (s : Session Denying) : Prop := ∀ k < s.store.rollbacks, d.rollbacks k = none

/-- The session on the database by itself. -/
def Session.bare (s : Session Denying) : Session Unreliable := ⟨s.stack, s.names, s.store.store⟩

/-- The database of a session. -/
abbrev Session.database (s : Session Denying) : Database := s.store.store.database

/-- Every level that is open in the database is on the stack. -/
def Session.Listed (s : Session Denying) : Prop := ∀ l ∈ s.database.levels, ∃ level ∈ s.stack, level.name? = l.name

instance (s : Session Denying) : Decidable s.Listed :=
  inferInstanceAs (Decidable (∀ l ∈ s.database.levels, ∃ level ∈ s.stack, level.name? = l.name))

/-! ## Batches -/

section Batches

variable {d : Denials} {s t : Session Denying} {b : Batch} {u v : Denying}

theorem run_denied (hb : b.rollsBack = true) {e : Error} (hd : d.rollbacks u.rollbacks = some e) :
    d.executor.run b u = (.error e, u.count b) := by
  simp [Denials.executor, hb, hd]

/-- A batch that is not refused as a rollback is run as the database by itself runs it. -/
theorem run_allowed (h : b.rollsBack = true → d.rollbacks u.rollbacks = none) :
    d.executor.run b u =
      (((Refusals.ofBatches d.batches).executor.run b u.store).1,
        { u.count b with store := ((Refusals.ofBatches d.batches).executor.run b u.store).2 }) := by
  have hnone : (if b.rollsBack then d.rollbacks u.rollbacks else none) = none := by
    split
    · exact h ‹_›
    · rfl
  simp only [Denials.executor, hnone]

/-- If no rollback has been refused after a batch, none was before it, and the batch did what the database by itself
makes of it. -/
theorem run_bare {result : Except Error Unit} (h : d.executor.run b u = (result, v))
    (hv : ∀ k < v.rollbacks, d.rollbacks k = none) :
    (Refusals.ofBatches d.batches).executor.run b u.store = (result, v.store) ∧
    ∀ k < u.rollbacks, d.rollbacks k = none := by
  have hle : u.rollbacks ≤ (u.count b).rollbacks := by
    unfold Denying.count
    split <;> simp
  have hallowed : b.rollsBack = true → d.rollbacks u.rollbacks = none := by
    intro hb
    cases he : d.rollbacks u.rollbacks with
    | none => rfl
    | some e =>
      rw [run_denied hb he] at h
      obtain ⟨-, rfl⟩ := Prod.mk.inj h
      rw [hv u.rollbacks (by simp [Denying.count, hb])] at he
      cases he
  rw [run_allowed hallowed] at h
  obtain ⟨rfl, rfl⟩ := Prod.mk.inj h
  exact ⟨rfl, fun k hk => hv k (Nat.lt_of_lt_of_le hk hle)⟩

/-- A session sends what the session on the database by itself sends. -/
theorem Session.Sends.bare {kept closed : SavepointStack} {names : NameSource} (h : s.Sends b kept closed names) :
    s.bare.Sends b kept closed names := by
  cases h with
  | begin mode h => exact .begin mode h
  | savepoint h => exact .savepoint h
  | release h => exact .release h
  | rollbackTo h => exact .rollbackTo h
  | commit h => exact .commit h
  | rollback h => exact .rollback h

/-- If no rollback has been refused after a step, none was before it, and it is a step on the database by itself. -/
theorem Session.Step.bare (hstep : Session.Step d.executor s t) (ht : d.Undenied t) :
    Session.Step (Refusals.ofBatches d.batches).executor s.bare t.bare ∧ d.Undenied s := by
  cases hstep with
  | none => exact ⟨.none, ht⟩
  | refused hb hr =>
    obtain ⟨hrun, hs⟩ := run_bare hr ht
    exact ⟨.refused hb.bare hrun, hs⟩
  | done hb hr =>
    obtain ⟨hrun, hs⟩ := run_bare hr ht
    exact ⟨.done hb.bare hrun, hs⟩

end Batches

/-! ## Levels that are listed -/

/-- What holds of a session as long as no rollback is refused: the stack lists the levels of the database, in their
places. -/
structure Session.Orderly (s : Session Denying) : Prop where
  layered : s.bare.Layered False
  placed : s.stack.Placed

namespace Session.Orderly

variable {d : Denials} {s t : Session Denying}

theorem step (h : s.Orderly) (hstep : Session.Step d.executor s t) (ht : d.Undenied t) : t.Orderly where
  layered := h.layered.step (fun _ _ h => by cases h) (hstep.bare ht).1
  placed := hstep.placed h.placed

/-- The stack stays in order for as long as no rollback is refused. -/
theorem invariant (d : Denials) : Session.Invariant d.executor fun s => d.Undenied s → s.Orderly :=
  .of_step fun hstep h ht => (h (hstep.bare ht).2).step hstep ht

theorem map_name (h : s.Orderly) : s.database.levels.map OpenLevel.name = s.stack.map Level.name? := h.layered.map_name

theorem listed (h : s.Orderly) : s.Listed := fun _ hl => List.mem_map.1 (h.map_name ▸ List.mem_map_of_mem hl)

/-- A session with levels has levels in the database. -/
theorem levels_ne_nil (h : s.Orderly) (hs : s.stack ≠ []) : s.database.levels ≠ [] := by
  intro hnil
  have hmap := h.map_name
  rw [hnil, List.map_nil] at hmap
  exact hs (List.map_eq_nil_iff.1 hmap.symm)

/-- The levels outside an open savepoint do not list it. -/
theorem not_listed_below (h : s.Orderly) {name : String} {outer : SavepointStack}
    (hb : s.stack.below? name = some outer) :
    ∃ l ∈ s.database.levels, ∀ level ∈ outer, level.name? ≠ l.name := by
  obtain ⟨inner, hinner, -⟩ := SavepointStack.below?_eq_some_iff.1 hb
  have hopen : some name ∈ s.database.levels.map OpenLevel.name := by
    rw [h.map_name, hinner]
    exact List.mem_map.2 ⟨.savepoint name, by simp, rfl⟩
  obtain ⟨l, hl, hname⟩ := List.mem_map.1 hopen
  refine ⟨l, hl, fun level hlevel hsame => h.placed.not_mem_below hb ?_⟩
  rw [hname] at hsame
  cases level with
  | transaction mode => cases hsame
  | savepoint other => rwa [← Option.some.inj hsame]

end Session.Orderly

/-! ## Rollbacks -/

section Rollbacks

variable {d : Denials} {s : Session Denying}

/-- A session without refused rollbacks stays one when the next rollback is not refused. -/
theorem Denials.Undenied.next (h : d.Undenied s) (hd : d.rollbacks s.store.rollbacks = none) {t : Session Denying}
    (ht : t.store.rollbacks = s.store.rollbacks + 1) : d.Undenied t := by
  intro k hk
  rw [ht] at hk
  by_cases hlast : k = s.store.rollbacks
  · rw [hlast, hd]
  · exact h k (by omega)

/-- A batch that rolls back is counted, whether it is refused or not. If it is refused, the database stays as it is. -/
theorem send_rollsBack {b : Batch} (hb : b.rollsBack = true) (kept : SavepointStack) :
    let r := Session.send d.executor b { s with stack := kept }
    r.2.stack = kept ∧ r.2.store.rollbacks = s.store.rollbacks + 1 ∧
      ∀ e, d.rollbacks s.store.rollbacks = some e → r.1 = .error e ∧ r.2.database = s.database := by
  have hcount : (s.store.count b).rollbacks = s.store.rollbacks + 1 := by simp [Denying.count, hb]
  unfold Session.send
  cases he : d.rollbacks s.store.rollbacks with
  | some e =>
    rw [run_denied hb he]
    refine ⟨rfl, hcount, fun e' he' => ⟨?_, rfl⟩⟩
    rw [Option.some.inj he']
  | none =>
    rw [run_allowed fun _ => he]
    exact ⟨rfl, hcount, fun e he' => by cases he'⟩

/-- After a batch that rolls back and takes a level off the stack, all open levels are listed exactly if it was not
refused. -/
theorem listed_iff_of_rollsBack (h : s.Orderly) (hd : d.Undenied s) {b : Batch} (hb : b.rollsBack = true)
    {kept : SavepointStack} (hstep : Session.Step d.executor s (Session.send d.executor b { s with stack := kept }).2)
    (hlost : ∃ l ∈ s.database.levels, ∀ level ∈ kept, level.name? ≠ l.name) :
    (Session.send d.executor b { s with stack := kept }).2.Listed ↔ d.rollbacks s.store.rollbacks = none := by
  obtain ⟨hstack, hcount, hrefused⟩ := send_rollsBack (d := d) (s := s) hb kept
  constructor
  · intro hlisted
    cases he : d.rollbacks s.store.rollbacks with
    | none => rfl
    | some e =>
      obtain ⟨l, hl, hnone⟩ := hlost
      obtain ⟨level, hlevel, hname⟩ := hlisted l (by rw [(hrefused e he).2]; exact hl)
      rw [hstack] at hlevel
      exact absurd hname (hnone level hlevel)
  · intro hnone
    exact (h.step hstep (hd.next hnone hcount)).listed

/-- What becomes of a session with a rollback of all its levels. If it is refused, the database stays as it is and
the session knows none of its levels any more, so the rollback is not sent again. -/
theorem rollback_listed_iff (h : s.Orderly) (hd : d.Undenied s) (hs : s.stack ≠ []) :
    let t := (Session.rollback d.executor s).2
    (t.Listed ↔ d.rollbacks s.store.rollbacks = none) ∧ Session.rollback d.executor t = (.ok (), t) ∧
      ∀ e, d.rollbacks s.store.rollbacks = some e → t.database = s.database := by
  have hempty : s.stack.isEmpty = false := by simpa using hs
  have hsent : Session.rollback d.executor s = Session.send d.executor .rollback { s with stack := [] } := by
    simp [Session.rollback, hempty]
  obtain ⟨l, inner, hl⟩ := List.exists_cons_of_ne_nil (h.levels_ne_nil hs)
  have hstep := rollback_step d.executor s
  obtain ⟨hstack, -, hrefused⟩ := send_rollsBack (d := d) (s := s) (b := .rollback) rfl []
  rw [hsent] at hstep ⊢
  refine ⟨listed_iff_of_rollsBack h hd rfl hstep ⟨l, by simp [hl], by simp⟩, ?_, fun e he => (hrefused e he).2⟩
  simp only [Session.rollback, hstack, List.isEmpty_nil, if_true]

/-- What becomes of a session with a rollback to a savepoint. If it is refused, the database stays as it is and the
session does not know the savepoint any more, so the rollback is not sent again. -/
theorem rollbackTo_listed_iff (h : s.Orderly) (hd : d.Undenied s) {name : String} (hlive : s.stack.isLive name = true) :
    let t := (Session.rollbackTo d.executor name s).2
    (t.Listed ↔ d.rollbacks s.store.rollbacks = none) ∧
      Session.rollbackTo d.executor name t = (.error (.unknownSavepoint name), t) ∧
      ∀ e, d.rollbacks s.store.rollbacks = some e → t.database = s.database := by
  obtain ⟨outer, hb⟩ := Option.isSome_iff_exists.1 hlive
  have hsent : Session.rollbackTo d.executor name s = Session.send d.executor (.rollbackTo name)
      { s with stack := outer } := by
    simp [Session.rollbackTo, hb]
  have hstep := rollbackTo_step d.executor s name
  obtain ⟨hstack, -, hrefused⟩ := send_rollsBack (d := d) (s := s) (b := .rollbackTo name) rfl outer
  rw [hsent] at hstep ⊢
  refine ⟨listed_iff_of_rollsBack h hd rfl hstep (h.not_listed_below hb), ?_, fun e he => (hrefused e he).2⟩
  exact (refused_of_not_mem d.executor (by rw [hstack]; exact h.placed.not_mem_below hb)).2

end Rollbacks

/-! ## Scopes -/

/-- An operation beside the levels and the rollbacks, such as a change of the tables. -/
def Session.BesideRollbacks {γ : Type} (op : Operation (Session Denying) γ) : Prop :=
  ∀ s, (op s).2.stack = s.stack ∧ (op s).2.database.levels = s.database.levels ∧
    (op s).2.store.rollbacks = s.store.rollbacks

/-- A run whose calls beside the levels leave those and the count of rollbacks alone. -/
abbrev Session.DenyingRun (d : Denials) (P : Session Denying → Prop) (s t : Session Denying) : Prop :=
  Session.Run d.executor (Session.Call d.executor fun _ op => Session.BesideRollbacks op) P s t

/-- A run throughout which no rollback is refused and a savepoint is open. -/
abbrev Session.OpenRun (d : Denials) (name : String) (s t : Session Denying) : Prop :=
  Session.DenyingRun d (fun u => u.stack.isLive name = true ∧ d.Undenied u) s t

section Scopes

variable {d : Denials} {s t u v w : Session Denying} {name : String}

/-- The stack is in order wherever a run without refused rollbacks ends. -/
theorem Session.Orderly.run {P : Session Denying → Prop} (hrun : Session.DenyingRun d P s t)
    (hs : d.Undenied s → s.Orderly) (ht : d.Undenied t) : t.Orderly := by
  refine (Session.Orderly.invariant d).run (fun γ op ho v hv hd => ?_) hrun hs ht
  obtain ⟨hstack, hlevels, hcount⟩ := ho v
  have h := hv (by rw [Denials.Undenied, ← hcount]; exact hd)
  exact ⟨h.layered.of_same_levels hstack hlevels, by rw [hstack]; exact h.placed⟩

/-- A release is no rollback, and fails without effect on the database. -/
theorem release_refused {e : Error} (h : Session.release d.executor name v = (.error e, w)) :
    w.stack = v.stack ∧ w.store.rollbacks = v.store.rollbacks ∧ w.database = v.database := by
  refine ⟨release_error h, ?_⟩
  unfold Session.release Session.send at h
  rw [run_allowed (b := .release name) nofun] at h
  split at h
  · obtain ⟨-, rfl⟩ := Prod.mk.inj h
    exact ⟨rfl, rfl⟩
  · rcases hr : (Refusals.ofBatches d.batches).executor.run (.release name) v.store.store with ⟨e' | ⟨⟩, store⟩
    · simp only [hr] at h
      obtain ⟨-, rfl⟩ := Prod.mk.inj h
      exact ⟨rfl, database_of_submit_error (s := .release name) rfl hr⟩
    · simp [hr] at h

/-- What there was before a savepoint stays as it is throughout a run in which the savepoint is open and no rollback
is refused. -/
theorem Session.OpenRun.since (hrun : Session.OpenRun d name u v) (h : s.bare.Since name u.bare) :
    s.bare.Since name v.bare := by
  refine hrun.keeps_inside (I := fun w => s.bare.Since name w.bare)
    (fun hstep hi hp => hi.step (hstep.bare hp.2).1 hp.1) ?_ ?_
    (fun _ _ ho w hw => hw.of_same_levels (ho w).1 (ho w).2.1) h
  · rintro w hw hempty
    rw [hempty] at hw
    cases hw.1
  · rintro other e v w hr ⟨hlive, hd⟩
    obtain ⟨hstack, hcount, -⟩ := release_refused hr
    exact ⟨by rw [hstack]; exact hlive, by rw [Denials.Undenied, hcount]; exact hd⟩

/-- A commit keeps the tables, done or not. -/
theorem commit_tables : (Session.commit d.executor s).2.database.tables = s.database.tables := by
  unfold Session.commit Session.send
  rw [run_allowed (b := .commit) nofun]
  split
  · rfl
  · have hcommit : ((Refusals.ofBatches d.batches).executor.run .commit s.store.store).2.database.tables =
        s.store.store.database.tables := by
      rcases submit_levelStep (Refusals.ofBatches d.batches) (s := .commit) rfl s.store.store with ⟨-, hdb⟩ | ⟨-, hstep⟩
      · exact congrArg Database.tables hdb
      · unfold Database.commit at hstep
        split at hstep
        · cases (Prod.mk.inj hstep).1
        · have hkept := congrArg Database.tables (Prod.mk.inj hstep).2
          exact hkept.symm
    split <;> rename_i heq <;> rw [← (Prod.mk.inj heq).2] <;> exact hcommit

/-- A rollback to a savepoint that is not refused is one on the database by itself. -/
theorem rollbackTo_bare (hd : d.rollbacks s.store.rollbacks = none) :
    (Session.rollbackTo d.executor name s).2.bare =
      (Session.rollbackTo (Refusals.ofBatches d.batches).executor name s.bare).2 := by
  simp only [Session.rollbackTo, Session.send, Session.bare]
  cases s.stack.below? name with
  | none => rfl
  | some outer =>
    simp only [run_allowed fun _ => hd]

/-- A scope inside a transaction that fails is undone from a state with the database and the stack that its body has
left. -/
theorem nested_scope_undo {α : Type} (mode : Sql.LockMode) {body : Operation (Session Denying) α} (hs : s.stack ≠ [])
    (hu : Session.savepoint d.executor s = (.ok name, u)) {e : Error}
    (he : (Session.scope d.executor mode body s).1 = .error e) :
    ∃ w, (Session.scope d.executor mode body s).2 = Session.undo d.executor false (some name) w ∧
      Session.Step d.executor (body u).2 w ∧ w.stack = (body u).2.stack ∧
      w.store.rollbacks = (body u).2.store.rollbacks ∧ w.database = (body u).2.database := by
  have hrun := Session.nestedRun d.executor mode body hs
  generalize Session.scope d.executor mode body s = r at hrun he
  cases hrun with
  | notSaved hs =>
    rw [hu] at hs
    cases (Prod.mk.inj hs).1
  | @bodyFailed e name' u' v hs hv =>
    rw [hu] at hs
    obtain ⟨hname, rfl⟩ := Prod.mk.inj hs
    obtain rfl := Except.ok.inj hname
    rw [hv]
    exact ⟨v, rfl, .none, rfl, rfl, rfl⟩
  | @notReleased e name' a u' v w hs hv hw =>
    rw [hu] at hs
    obtain ⟨hname, rfl⟩ := Prod.mk.inj hs
    obtain rfl := Except.ok.inj hname
    rw [hv]
    obtain ⟨hstack, hcount, hdb⟩ := release_refused hw
    exact ⟨w, rfl, Session.Step.of_eq (fun v => release_step d.executor v name) hw, hstack, hcount, hdb⟩
  | kept => cases he

/-- What becomes of a scope inside a transaction that fails, when its savepoint was open all the time and no
rollback was refused until it was undone. If that is not refused either, the tables are those there were. If it is,
they are those its body left, and there are levels in the database that are not listed. -/
theorem nested_scope_failed {α : Type} (mode : Sql.LockMode) {body : Operation (Session Denying) α} (ho : s.Orderly)
    (hs : s.stack ≠ []) (hu : Session.savepoint d.executor s = (.ok name, u))
    (hrun : Session.OpenRun d name u (body u).2) {e : Error}
    (he : (Session.scope d.executor mode body s).1 = .error e) :
    let r := (Session.scope d.executor mode body s).2
    (d.rollbacks (body u).2.store.rollbacks = none → r.database.tables = s.database.tables) ∧
      ∀ e', d.rollbacks (body u).2.store.rollbacks = some e' → r.database = (body u).2.database ∧ ¬ r.Listed := by
  intro r
  obtain ⟨hlive, hdv⟩ := hrun.last
  obtain ⟨w, hw, hstep, hstack, hcount, hdb⟩ := nested_scope_undo mode hs hu he
  have hlivew : w.stack.isLive name = true := by rw [hstack, hlive]
  have hundo : r = (Session.rollbackTo d.executor name w).2 := by
    simp only [r, hw, Session.undo, hlivew, if_true, Bool.false_eq_true, if_false]
  have hdw : d.Undenied w := by rw [Denials.Undenied, hcount]; exact hdv
  have hsaved : Session.Step d.executor s u := Session.Step.of_eq (savepoint_step d.executor) hu
  have hsince : s.bare.Since name u.bare := by
    obtain ⟨names, store, hm, hr, rfl⟩ := savepoint_ok hu
    exact .opened ho.placed hm (run_bare hr hrun.first.2).1
  have how : w.Orderly := (Session.Orderly.run hrun (ho.step hsaved) hdv).step hstep hdw
  rw [← hcount, ← hdb, hundo]
  constructor
  · intro hnone
    have hsincew : s.bare.Since name w.bare := (hrun.since hsince).of_same_levels hstack (congrArg Database.levels hdb)
    have htables := (hsincew.rollbackTo (f := Refusals.ofBatches d.batches)).2.1
    rw [← rollbackTo_bare hnone] at htables
    exact htables
  · intro e' he'
    obtain ⟨hlisted, -, hkept⟩ := rollbackTo_listed_iff how hdw hlivew
    refine ⟨hkept e' he', fun hl => ?_⟩
    rw [hlisted.1 hl] at he'
    cases he'

end Scopes

/-- In every state that calls and scopes come to without a refused rollback, all levels that are open in the
database are listed on the stack. With the next rollback they stay listed exactly if it is not refused. If it is
refused the database stays as it is, while the session knows neither its levels nor the savepoint any more, so the
same rollback is not sent again. A scope inside a transaction that fails is undone by such a rollback: if that is
not refused, a commit of the transaction keeps the tables from before the scope, and if it is, the commit keeps
those that the failed body has left. -/
theorem levels_listed_iff_rollback_done (d : Denials) (names : NameSource) {store : Denying}
    (hidle : store.store.database.isIdle = true) {s : Session Denying}
    (hs : Session.DenyingRun d (fun _ => True) ⟨[], names, store⟩ s) (hd : d.Undenied s) :
    s.Listed ∧
      (s.stack ≠ [] →
        let t := (Session.rollback d.executor s).2
        (t.Listed ↔ d.rollbacks s.store.rollbacks = none) ∧ Session.rollback d.executor t = (.ok (), t) ∧
          ∀ e, d.rollbacks s.store.rollbacks = some e → t.database = s.database) ∧
      (∀ name, s.stack.isLive name = true →
        let t := (Session.rollbackTo d.executor name s).2
        (t.Listed ↔ d.rollbacks s.store.rollbacks = none) ∧
          Session.rollbackTo d.executor name t = (.error (.unknownSavepoint name), t) ∧
          ∀ e, d.rollbacks s.store.rollbacks = some e → t.database = s.database) ∧
      ∀ {α : Type} (mode : Sql.LockMode) (body : Operation (Session Denying) α) (name : String) (u : Session Denying),
        s.stack ≠ [] → Session.savepoint d.executor s = (.ok name, u) → Session.OpenRun d name u (body u).2 →
        ∀ e, (Session.scope d.executor mode body s).1 = .error e →
          let r := (Session.scope d.executor mode body s).2
          (d.rollbacks (body u).2.store.rollbacks = none →
            (Session.commit d.executor r).2.database.tables = s.database.tables) ∧
          ∀ e', d.rollbacks (body u).2.store.rollbacks = some e' →
            (Session.commit d.executor r).2.database.tables = (body u).2.database.tables ∧ ¬ r.Listed := by
  have horderly : s.Orderly := Session.Orderly.run hs (fun _ => ⟨.idle rfl (List.isEmpty_iff.1 hidle), .nil⟩) hd
  refine ⟨horderly.listed, rollback_listed_iff horderly hd, fun _ => rollbackTo_listed_iff horderly hd, ?_⟩
  intro α mode body name u hopen hu hrun e he r
  obtain ⟨hdone, hrefused⟩ := nested_scope_failed mode horderly hopen hu hrun he
  rw [commit_tables]
  exact ⟨hdone, fun e' he' => ⟨congrArg Database.tables (hrefused e' he').1, (hrefused e' he').2⟩⟩

/-- On an idle database in memory whose second rollback is refused: the first rollback closes all levels, and after
the second one the transaction is open in the database and not on the stack. -/
theorem levels_listed_iff_rollback_done_second :
    let d : Denials := ⟨fun _ => none, fun k => if k = 1 then some (.custom "busy") else none⟩
    let start : Session Denying := ⟨[], .counter 0, ⟨.fresh (Database.empty none .inMemory), 0⟩⟩
    let s := (Session.begin d.executor .deferred
      (Session.rollback d.executor (Session.begin d.executor .deferred start).2).2).2
    Session.DenyingRun d (fun _ => True) start s ∧ d.Undenied s ∧ s.Listed ∧
      ¬ (Session.rollback d.executor s).2.Listed := by
  intro d start s
  have hrun : Session.DenyingRun d (fun _ => True) start s :=
    .call (.call (.call (.start trivial) (.inl (.onSavepoints (.begin _))) trivial) (.inl .rollback) trivial)
      (.inl (.onSavepoints (.begin _))) trivial
  have hcount : s.store.rollbacks = 1 := by decide +kernel
  have hd : d.Undenied s := by
    intro k hk
    rw [hcount] at hk
    simp [d, show k ≠ 1 by omega]
  have hidle : start.database.isIdle = true := rfl
  obtain ⟨hlisted, hrollback, -⟩ := levels_listed_iff_rollback_done d (.counter 0) hidle hrun hd
  refine ⟨hrun, hd, hlisted, fun h => ?_⟩
  have hnone := (hrollback (by decide +kernel)).1.1 h
  rw [hcount] at hnone
  cases hnone

/-- A scope that fails inside a transaction, with its rollback refused: its savepoint is still open in the database
and not on the stack, a rollback to it is not sent, and a commit of the transaction keeps the table that the failed
scope has created. -/
theorem failed_scope_committed_after_refused_rollback :
    let d : Denials := ⟨fun _ => none, fun k => if k = 0 then some (.custom "busy") else none⟩
    let body : Operation (Session Denying) Unit := fun s =>
      let u := s.store.store
      (.error (.custom "failed"),
        { s with store := { s.store with store := {
          u with database := { u.database with tables := [⟨"t", [], []⟩] } } } })
    let start : Session Denying := ⟨[], .counter 0, ⟨.fresh (Database.empty none .inMemory), 0⟩⟩
    let r := Session.scope d.executor .deferred body (Session.begin d.executor .deferred start).2
    r.1 = .error (.custom "failed") ∧ ¬ r.2.Listed ∧
      (Session.rollbackTo d.executor (savepointName 1 1) r.2).1 = .error (.unknownSavepoint (savepointName 1 1)) ∧
      (Session.commit d.executor r.2).1 = .ok () ∧
      (Session.commit d.executor r.2).2.database.tables.map StoredTable.name = ["t"] := by
  decide +kernel

end SqlMapper
