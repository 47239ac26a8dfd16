import SqlMapper.Proofs.Savepoint.Bodies

/-!
# Runs of a session

An operation on levels sends at most one batch. `Session.Sends` says which one, and what the stack and the names are
once it is refused and once it is done; with the answer of the store that is all that the operation does to a
session (`Session.Step`).

A run goes from one state of a session to another by calls and by scopes, in any order and to any depth
(`Session.Run`). The body of a scope is any function that makes a run from where the body starts. A run carries a
property along that holds at all of its moments, those inside bodies included, so that a run during which a
savepoint stays open can be told from one that closes it and opens another of its name. What steps keep, runs keep
(`Session.Invariant.run`).
-/

namespace SqlMapper

variable {σ : Type}

/-! ## Steps -/

/-- A batch that a session sends, with the stack that it goes on with when the batch is refused, the stack when it
is done, and the names in either case. -/
inductive Session.Sends (s : Session σ) : Batch → SavepointStack → SavepointStack → NameSource → Prop where
  | begin (mode : Sql.LockMode) (h : s.stack = []) : Sends s (.begin mode) [] [.transaction mode] s.names
  | savepoint {name : String} {names : NameSource}
    (h : s.names.mint s.stack.length s.stack.isLive s.stack.length = (name, names)) :
    Sends s (.savepoint name) s.stack (s.stack ++ [.savepoint name]) names
  | release {name : String} {outer : SavepointStack} (h : s.stack.below? name = some outer) :
    Sends s (.release name) s.stack outer s.names
  | rollbackTo {name : String} {outer : SavepointStack} (h : s.stack.below? name = some outer) :
    Sends s (.rollbackTo name) outer outer s.names
  | commit (h : s.stack ≠ []) : Sends s .commit s.stack [] s.names
  | rollback (h : s.stack ≠ []) : Sends s .rollback [] [] s.names

/-- What an operation on levels may make of a session: nothing, or what is left when its batch is refused or done. -/
inductive Session.Step (x : Executor σ) (s : Session σ) : Session σ → Prop where
  | none : Step x s s
  | refused {b : Batch} {kept closed : SavepointStack} {names : NameSource} {e : Error} {store : σ}
    (hb : s.Sends b kept closed names) (hr : x.run b s.store = (.error e, store)) : Step x s ⟨kept, names, store⟩
  | done {b : Batch} {kept closed : SavepointStack} {names : NameSource} {store : σ} (hb : s.Sends b kept closed names)
    (hr : x.run b s.store = (.ok (), store)) : Step x s ⟨closed, names, store⟩

section Operations

variable (x : Executor σ) (s : Session σ)

/-- Each operation on levels is a step, be it refused or not. -/
theorem begin_step (mode : Sql.LockMode) : Session.Step x s (Session.begin x mode s).2 := by
  unfold Session.begin Session.send
  split
  · rename_i hidle
    have hs := List.isEmpty_iff.1 hidle
    rcases hr : x.run (.begin mode) s.store with ⟨e | ⟨⟩, store⟩
    · simpa [hs] using Session.Step.refused (.begin mode hs) hr
    · simpa [hs] using Session.Step.done (.begin mode hs) hr
  · exact .none

theorem savepoint_step : Session.Step x s (Session.savepoint x s).2 := by
  unfold Session.savepoint Session.send
  rcases hm : s.names.mint s.stack.length s.stack.isLive s.stack.length with ⟨name, names⟩
  dsimp only
  rcases hr : x.run (.savepoint name) s.store with ⟨e | ⟨⟩, store⟩
  · exact .refused (.savepoint hm) hr
  · exact .done (.savepoint hm) hr

theorem release_step (name : String) : Session.Step x s (Session.release x name s).2 := by
  unfold Session.release Session.send
  cases hb : s.stack.below? name with
  | none => exact .none
  | some outer =>
    dsimp only
    rcases hr : x.run (.release name) s.store with ⟨e | ⟨⟩, store⟩
    · exact .refused (.release hb) hr
    · exact .done (.release hb) hr

theorem rollbackTo_step (name : String) : Session.Step x s (Session.rollbackTo x name s).2 := by
  unfold Session.rollbackTo Session.send
  cases hb : s.stack.below? name with
  | none => exact .none
  | some outer =>
    dsimp only
    rcases hr : x.run (.rollbackTo name) s.store with ⟨e | ⟨⟩, store⟩
    · exact .refused (.rollbackTo hb) hr
    · exact .done (.rollbackTo hb) hr

theorem commit_step : Session.Step x s (Session.commit x s).2 := by
  unfold Session.commit Session.send
  split
  · exact .none
  · rename_i hopen
    have hs : s.stack ≠ [] := by simpa using hopen
    rcases hr : x.run .commit s.store with ⟨e | ⟨⟩, store⟩
    · exact .refused (.commit hs) hr
    · exact .done (.commit hs) hr

theorem rollback_step : Session.Step x s (Session.rollback x s).2 := by
  unfold Session.rollback Session.send
  split
  · exact .none
  · rename_i hopen
    have hs : s.stack ≠ [] := by simpa using hopen
    rcases hr : x.run .rollback s.store with ⟨e | ⟨⟩, store⟩
    · exact .refused (.rollback hs) hr
    · exact .done (.rollback hs) hr

end Operations

/-- A call that is about levels makes a step. -/
theorem Session.OnLevels.step {x : Executor σ} {γ : Type} {op : Operation (Session σ) γ} (ho : Session.OnLevels x op)
    (s : Session σ) : Session.Step x s (op s).2 := by
  cases ho with
  | onSavepoints ho =>
    cases ho with
    | begin mode => exact begin_step x s mode
    | savepoint => exact savepoint_step x s
    | release name => exact release_step x s name
    | rollbackTo name => exact rollbackTo_step x s name
  | commit => exact commit_step x s
  | rollback => exact rollback_step x s

/-- An operation that makes a step from everywhere makes one to where it ends. -/
theorem Session.Step.of_eq {x : Executor σ} {γ : Type} {op : Operation (Session σ) γ}
    (hop : ∀ s, Session.Step x s (op s).2) {s t : Session σ} {result : Except Error γ} (h : op s = (result, t)) :
    Session.Step x s t := by
  have hstep := hop s
  rwa [h] at hstep

/-- A savepoint that is opened has a minted name, its batch was done, and it is on top. -/
theorem savepoint_ok {x : Executor σ} {s t : Session σ} {name : String} (h : Session.savepoint x s = (.ok name, t)) :
    ∃ names store, s.names.mint s.stack.length s.stack.isLive s.stack.length = (name, names) ∧
      x.run (.savepoint name) s.store = (.ok (), store) ∧ t = ⟨s.stack ++ [.savepoint name], names, store⟩ := by
  unfold Session.savepoint Session.send at h
  rcases hm : s.names.mint s.stack.length s.stack.isLive s.stack.length with ⟨minted, names⟩
  rw [hm] at h
  dsimp only at h
  rcases hr : x.run (.savepoint minted) s.store with ⟨e | ⟨⟩, store⟩
  · simp [hr] at h
  · simp only [hr, Prod.mk.injEq, Except.ok.injEq] at h
    obtain ⟨rfl, rfl⟩ := h
    exact ⟨names, store, rfl, hr, rfl⟩

/-- A release that fails leaves the stack. -/
theorem release_error {x : Executor σ} {s t : Session σ} {name : String} {e : Error}
    (h : Session.release x name s = (.error e, t)) : t.stack = s.stack := by
  obtain ⟨-, ⟨-, hstack⟩ | ⟨hok, -⟩⟩ := release_stack x s name
  · rwa [h] at hstack
  · rw [h] at hok
    cases hok

/-- What every step keeps is an invariant of sessions. -/
theorem Session.Invariant.of_step {x : Executor σ} {I : Session σ → Prop}
    (h : ∀ {s t : Session σ}, Session.Step x s t → I s → I t) : Session.Invariant x I where
  begin mode s hs := h (begin_step x s mode) hs
  savepoint s hs := h (savepoint_step x s) hs
  release name s hs := h (release_step x s name) hs
  rollbackTo name s hs := h (rollbackTo_step x s name) hs
  commit s hs := h (commit_step x s) hs
  rollback s hs := h (rollback_step x s) hs

/-! ## Runs -/

/-- A savepoint that is open around a scope is open where its body starts. -/
theorem Session.AtBody.isLive {x : Executor σ} {mode : Sql.LockMode} {s u : Session σ} {name : String}
    (he : Session.AtBody x mode s u) (h : s.stack.isLive name = true) : u.stack.isLive name = true := by
  obtain ⟨t, own, ht, hu⟩ := he
  have hmem := SavepointStack.isLive_iff.1 h
  rw [Session.enter_nested x mode (List.ne_nil_of_mem hmem)] at ht
  obtain ⟨-, rfl⟩ := Prod.mk.inj ht
  obtain ⟨names, store, -, -, rfl⟩ := savepoint_ok hu
  exact SavepointStack.isLive_iff.2 (List.mem_append_left _ hmem)

/-- A run of a session from one state to another, of basic operations and of scopes, with `P` at every moment: at
the start, after each call, where the body of a scope starts and throughout the body, and after each scope. A run
may end inside a body. -/
inductive Session.Run (x : Executor σ) (basic : ∀ ⦃γ : Type⦄, Operation (Session σ) γ → Prop) (P : Session σ → Prop) :
    Session σ → Session σ → Prop where
  | start {s : Session σ} (hp : P s) : Run x basic P s s
  | call {s t : Session σ} {γ : Type} {op : Operation (Session σ) γ} (h : Run x basic P s t) (ho : basic op)
    (hp : P (op t).2) : Run x basic P s (op t).2
  | enter {s t u : Session σ} (mode : Sql.LockMode) (h : Run x basic P s t)
    (he : Session.AtBody x mode t u) (hp : P u) :
    Run x basic P s u
  | scope {s t : Session σ} {γ : Type} (mode : Sql.LockMode) {body : Operation (Session σ) γ} (h : Run x basic P s t)
    (hb : ∀ u, Session.AtBody x mode t u → Run x basic P u (body u).2) (hp : P (Session.scope x mode body t).2) :
    Run x basic P s (Session.scope x mode body t).2

/-- A call that is about levels, or is one of those beside them. -/
abbrev Session.Call (x : Executor σ) (beside : ∀ ⦃γ : Type⦄, Operation (Session σ) γ → Prop) ⦃γ : Type⦄
    (op : Operation (Session σ) γ) : Prop :=
  Session.OnLevels x op ∨ beside op

/-- A state that a run of calls and scopes comes to, when the calls beside the levels leave the stack and the names
as they are. -/
abbrev Session.Reaches (x : Executor σ) (s t : Session σ) : Prop :=
  Session.Run x (Session.Call x fun _ op => Session.Beside op) (fun _ => True) s t

section Invariants

variable {x : Executor σ} {basic beside : ∀ ⦃γ : Type⦄, Operation (Session σ) γ → Prop} {I P : Session σ → Prop}
  {s t u : Session σ}

/-- What operations keep holds where the body of a scope starts. -/
theorem Session.Invariant.atBody (h : Session.Invariant x I) {mode : Sql.LockMode} (hs : I s)
    (he : Session.AtBody x mode s u) : I u := by
  obtain ⟨t, name, ht, hu⟩ := he
  exact holds_after h.savepoint (holds_after (h.enter _ mode) hs ht) hu

/-- What operations on levels and the calls beside them keep is kept by every run. -/
theorem Session.Invariant.run (h : Session.Invariant x I)
    (hbeside : ∀ ⦃γ : Type⦄ {op : Operation (Session σ) γ}, beside op → ∀ t, I t → I (op t).2)
    (hrun : Session.Run x (Session.Call x beside) P s t) (hs : I s) : I t := by
  induction hrun with
  | start => exact hs
  | call _ ho _ ih =>
    rcases ho with ho | ho
    · exact h.onLevels ho _ (ih hs)
    · exact hbeside ho _ (ih hs)
  | enter _ _ he _ ih => exact h.atBody (ih hs) he
  | scope mode _ _ _ ih ihb => exact h.scope_of_atBody mode (ih hs) ihb

/-- An invariant of the stack and the names holds wherever a run of any calls comes to. -/
theorem Session.Invariant.reached (h : Session.Invariant x I)
    (hbeside : ∀ {s t : Session σ}, t.stack = s.stack → t.names = s.names → I s → I t) (hrun : Session.Reaches x s t)
    (hs : I s) : I t :=
  h.run (fun _ _ ho v hv => hbeside (ho v).1 (ho v).2 hv) hrun hs

/-- A property that a run carries along holds where it starts. -/
theorem Session.Run.first (h : Session.Run x basic P s t) : P s := by
  induction h with
  | start hp => exact hp
  | call _ _ _ ih => exact ih
  | enter _ _ _ _ ih => exact ih
  | scope _ _ _ _ ih => exact ih

/-- A property that a run carries along holds where it ends. -/
theorem Session.Run.last (h : Session.Run x basic P s t) : P t := by
  cases h <;> assumption

/-- A scope inside levels that stay open keeps what steps inside them keep, when its body keeps it. It opens no
transaction and commits none, so it is made of steps. -/
theorem Session.scope_keeps_inside (hstep : ∀ {v w : Session σ}, Session.Step x v w → I v → P w → I w)
    (hinside : ∀ v, P v → v.stack ≠ [])
    (hrelease : ∀ {name e} {v w : Session σ}, Session.release x name v = (.error e, w) → P v → P w)
    (mode : Sql.LockMode) {α : Type} {body : Operation (Session σ) α} (hs : I s) (hp : P s)
    (hb : ∀ u, Session.AtBody x mode s u → P u ∧ P (body u).2 ∧ (I u → I (body u).2))
    (hend : P (Session.scope x mode body s).2) : I (Session.scope x mode body s).2 := by
  have hundo : ∀ {v : Session σ} {name : String}, I v → P (Session.undo x false (some name) v) →
      I (Session.undo x false (some name) v) := by
    intro v name hv hpv
    unfold Session.undo at hpv ⊢
    rw [if_neg (by simp)] at hpv ⊢
    dsimp only at hpv ⊢
    split at hpv
    · rename_i hlive
      rw [if_pos hlive]
      exact hstep (rollbackTo_step x v name) hv hpv
    · rename_i hdead
      rw [if_neg hdead]
      exact hv
  have hbody : ∀ {u v : Session σ} {name : String} {result : Except Error α}, Session.savepoint x s = (.ok name, u) →
      body u = (result, v) → I v ∧ P v := by
    intro u v name result hu hv
    obtain ⟨hpu, hpv, hkeep⟩ := hb u ⟨s, name, Session.enter_nested x mode (hinside s hp), hu⟩
    have hsaved : Session.Step x s u := Session.Step.of_eq (savepoint_step x) hu
    rw [hv] at hpv hkeep
    exact ⟨hkeep (hstep hsaved hs hpu), hpv⟩
  have hrun := Session.nestedRun x mode body (hinside s hp)
  generalize Session.scope x mode body s = r at hrun hend
  cases hrun with
  | notSaved hu => exact hstep (Session.Step.of_eq (savepoint_step x) hu) hs hend
  | bodyFailed hu hv => exact hundo (hbody hu hv).1 hend
  | @notReleased e name a u v w hu hv hw =>
    obtain ⟨hiv, hpv⟩ := hbody hu hv
    exact hundo (hstep (Session.Step.of_eq (fun v => release_step x v name) hw) hiv (hrelease hw hpv)) hend
  | @kept name a u v w hu hv hw =>
    exact hstep (Session.Step.of_eq (fun v => release_step x v name) hw)
      (hbody hu hv).1 hend

/-- What steps and the calls beside them keep inside levels that stay open is kept by a run throughout which they
are open. -/
theorem Session.Run.keeps_inside (hstep : ∀ {v w : Session σ}, Session.Step x v w → I v → P w → I w)
    (hinside : ∀ v, P v → v.stack ≠ [])
    (hrelease : ∀ {name e} {v w : Session σ}, Session.release x name v = (.error e, w) → P v → P w)
    (hbeside : ∀ ⦃γ : Type⦄ {op : Operation (Session σ) γ}, beside op → ∀ v, I v → I (op v).2)
    (hrun : Session.Run x (Session.Call x beside) P s t) (hs : I s) : I t := by
  induction hrun with
  | start => exact hs
  | call _ ho hp ih =>
    rcases ho with ho | ho
    · exact hstep (ho.step _) (ih hs) hp
    · exact hbeside ho _ (ih hs)
  | @enter _ t u mode h he hp ih =>
    obtain ⟨v, name, hv, hu⟩ := he
    rw [Session.enter_nested x mode (hinside t h.last)] at hv
    obtain ⟨-, rfl⟩ := Prod.mk.inj hv
    exact hstep (Session.Step.of_eq (savepoint_step x) hu) (ih hs) hp
  | scope mode h hb hp ih ihb =>
    exact Session.scope_keeps_inside hstep hinside hrelease mode (ih hs) h.last
      (fun u he => ⟨(hb u he).first, (hb u he).last, ihb u he⟩) hp

end Invariants

end SqlMapper
