import SqlMapper.Savepoint.Script

/-!
# Invariants of sessions

A property of sessions that each of the six operations keeps is kept by a scope around any body that keeps it
(`Session.Invariant.scope`), and from there by every script, at every step of it and inside every body
(`Stage.run_invariant`): so an invariant is proved by six small facts and no induction of its own.

A script runs on sessions that carry their records along. Recording does not change what the operations do: each
operation on a recorded session is the operation on the session proper, lifted (`begin_recorded` and its like).
-/

namespace SqlMapper

/-- A property that each operation of a session keeps, whether it succeeds or fails. -/
structure Session.Invariant {σ : Type} (x : Executor σ) (I : Session σ → Prop) : Prop where
  begin : ∀ mode s, I s → I (Session.begin x mode s).2
  savepoint : ∀ s, I s → I (Session.savepoint x s).2
  release : ∀ name s, I s → I (Session.release x name s).2
  rollbackTo : ∀ name s, I s → I (Session.rollbackTo x name s).2
  commit : ∀ s, I s → I (Session.commit x s).2
  rollback : ∀ s, I s → I (Session.rollback x s).2

/-- Where the body of a scope starts: inside the transaction that the scope opens when none is open, and inside its
savepoint. -/
def Session.AtBody {σ : Type} (x : Executor σ) (mode : Sql.LockMode) (s u : Session σ) : Prop :=
  ∃ t name, Session.enter x s.stack.isEmpty mode s = (.ok (), t) ∧ Session.savepoint x t = (.ok name, u)

section Scopes

variable {σ α : Type} {x : Executor σ} {I : Session σ → Prop}

namespace Session.Invariant

/-- Undoing a scope keeps an invariant of the operations. -/
theorem undo (h : Session.Invariant x I) (owner : Bool) (name : Option String) (s : Session σ) (hs : I s) :
    I (Session.undo x owner name s) := by
  unfold Session.undo
  split
  · exact h.rollback s hs
  · split
    · split
      · exact h.rollbackTo _ s hs
      · exact hs
    · exact hs

/-- Entering one keeps it. -/
theorem enter (h : Session.Invariant x I) (owner : Bool) (mode : Sql.LockMode) (s : Session σ) (hs : I s) :
    I (Session.enter x owner mode s).2 := by
  unfold Session.enter
  split
  · exact h.begin mode s hs
  · exact hs

/-- Leaving one keeps it. -/
theorem leave (h : Session.Invariant x I) (owner : Bool) (name : String) (s : Session σ) (hs : I s) :
    I (Session.leave x owner name s).2 := by
  unfold Session.leave
  have hr := h.release name s hs
  split
  · rename_i t heq
    rw [heq] at hr
    split
    · exact h.commit t hr
    · exact hr
  · rename_i e t heq
    rw [heq] at hr
    exact hr

/-- A scope keeps what the operations keep, when its body keeps it from where it starts. -/
theorem scope_of_atBody (h : Session.Invariant x I) (mode : Sql.LockMode) {body : Operation (Session σ) α}
    {s : Session σ} (hs : I s) (hb : ∀ u, Session.AtBody x mode s u → I u → I (body u).2) :
    I (Session.scope x mode body s).2 := by
  unfold Session.scope
  have h1 := h.enter s.stack.isEmpty mode s hs
  dsimp only
  split
  · rename_i e t heq
    rw [heq] at h1
    exact h1
  · rename_i t heq
    rw [heq] at h1
    have h2 := h.savepoint t h1
    split
    · rename_i e t' heq'
      rw [heq'] at h2
      exact h.undo _ none t' h2
    · rename_i name t' heq'
      rw [heq'] at h2
      have h3 := hb t' ⟨t, name, heq, heq'⟩ h2
      split
      · rename_i e t'' heq''
        rw [heq''] at h3
        exact h.undo _ (some name) t'' h3
      · rename_i a t'' heq''
        rw [heq''] at h3
        have h4 := h.leave s.stack.isEmpty name t'' h3
        split
        · rename_i e t3 heq3
          rw [heq3] at h4
          exact h.undo _ (some name) t3 h4
        · rename_i t3 heq3
          rw [heq3] at h4
          exact h4

/-- A scope keeps what its body and the operations keep. -/
theorem scope (h : Session.Invariant x I) (mode : Sql.LockMode) {body : Operation (Session σ) α}
    (hb : ∀ s, I s → I (body s).2) (s : Session σ) (hs : I s) : I (Session.scope x mode body s).2 :=
  h.scope_of_atBody mode hs fun u _ hu => hb u hu

end Session.Invariant

end Scopes

/-! ## Recorded sessions -/

variable {σ α β ω : Type}

/-- The session under the records. -/
def RecordedSession.bare (s : RecordedSession σ β ω) : Session σ := ⟨s.stack, s.names, s.store.store⟩

namespace RecordedSession

variable (g : Stage σ α β ω)

/-- A batch leaves the records alone. -/
theorem send_recorded (b : Batch) :
    Session.send g.recordedExecutor b = RecordedSession.lift (β := β) (ω := ω) (Session.send g.executor b) := rfl

/-- Recording what is seen does not touch what an operation does, here the opening of a transaction. -/
theorem begin_recorded (mode : Sql.LockMode) :
    Session.begin g.recordedExecutor mode = RecordedSession.lift (β := β) (ω := ω) (Session.begin g.executor mode) := by
  funext s
  simp only [Session.begin, RecordedSession.lift, send_recorded]
  split
  · rcases Session.send g.executor (.begin mode) ⟨s.stack, s.names, s.store.store⟩ with ⟨_ | _, t⟩ <;> rfl
  · rfl

theorem savepoint_recorded :
    Session.savepoint g.recordedExecutor = RecordedSession.lift (β := β) (ω := ω) (Session.savepoint g.executor) := by
  funext s
  simp only [Session.savepoint, RecordedSession.lift, send_recorded]
  generalize s.names.mint s.stack.length (SavepointStack.isLive s.stack) s.stack.length = minted
  rcases Session.send g.executor (.savepoint minted.1) ⟨s.stack, minted.2, s.store.store⟩ with ⟨_ | _, t⟩ <;> rfl

theorem release_recorded (name : String) :
    Session.release g.recordedExecutor name =
      RecordedSession.lift (β := β) (ω := ω) (Session.release g.executor name) := by
  funext s
  simp only [Session.release, RecordedSession.lift, send_recorded]
  cases SavepointStack.below? name s.stack with
  | none => rfl
  | some outer =>
    dsimp only
    rcases Session.send g.executor (.release name) ⟨s.stack, s.names, s.store.store⟩ with ⟨_ | _, t⟩ <;> rfl

theorem rollbackTo_recorded (name : String) :
    Session.rollbackTo g.recordedExecutor name =
      RecordedSession.lift (β := β) (ω := ω) (Session.rollbackTo g.executor name) := by
  funext s
  simp only [Session.rollbackTo, RecordedSession.lift, send_recorded]
  cases SavepointStack.below? name s.stack <;> rfl

theorem commit_recorded :
    Session.commit g.recordedExecutor = RecordedSession.lift (β := β) (ω := ω) (Session.commit g.executor) := by
  funext s
  simp only [Session.commit, RecordedSession.lift, send_recorded]
  split
  · rfl
  · rcases Session.send g.executor .commit ⟨s.stack, s.names, s.store.store⟩ with ⟨_ | _, t⟩ <;> rfl

theorem rollback_recorded :
    Session.rollback g.recordedExecutor = RecordedSession.lift (β := β) (ω := ω) (Session.rollback g.executor) := by
  funext s
  simp only [Session.rollback, RecordedSession.lift, send_recorded]
  split <;> rfl

end RecordedSession

/-! ## Records of a script -/

mutual

/-- What was seen in the course of a step, the steps of a body included. -/
def Record.views : Record β ω → List (View ω)
  | .entered v => [v]
  | .step _ v => [v]
  | .scope _ _ body v => Record.viewsOf body ++ [v]

/-- What was seen in the course of several steps. -/
def Record.viewsOf : List (Record β ω) → List (View ω)
  | [] => []
  | r :: rest => r.views ++ Record.viewsOf rest

end

/-- Views come in the order of the records. -/
theorem Record.viewsOf_append (rs ts : List (Record β ω)) :
    Record.viewsOf (rs ++ ts) = Record.viewsOf rs ++ Record.viewsOf ts := by
  induction rs with
  | nil => rfl
  | cons r rs ih => simp [Record.viewsOf, ih]

/-- A step that has no step in it. -/
def Step.isPlain : Step α → Bool
  | .scope .. => false
  | .caught _ => false
  | _ => true

/-- A step that has no step in it is run and then recorded. -/
theorem Stage.run_of_isPlain {g : Stage σ α β ω} {step : Step α} (h : step.isPlain = true) :
    g.run step = fun s => ((g.outcome step s).1, g.record (.step (g.outcome step s).1) (g.outcome step s).2) := by
  cases step
  case scope => cases h
  case caught => cases h
  all_goals
    rw [Stage.run]
    -- What is left of the equation is that the step is neither a scope nor caught.
    all_goals intros; rename_i h; cases h

/-- A body goes on after its first step when that succeeds or is caught, and ends with it otherwise. -/
theorem Stage.runBody_of_not_caught {g : Stage σ α β ω} {step : Step α} (h : ∀ p, step ≠ .caught p)
    (rest : List (Step α)) : g.runBody (step :: rest) = Operation.andThen (g.run step) fun _ => g.runBody rest := by
  rw [Stage.runBody]
  · funext s
    unfold Operation.andThen
    rcases g.run step s with ⟨_ | _, t⟩ <;> rfl
  · exact h

/-- What a body with a failure at its end gives. -/
def Operation.conclude {σ : Type} (failure : Option String) (steps : Nat) : Operation σ (Answer β) := fun s =>
  match failure with
  | some message => (.error (.custom message), s)
  | none => (.ok (.count steps), s)

/-- A scope runs its body after a record of the moment it is entered. -/
theorem Stage.outcome_scope {g : Stage σ α β ω} (attempt : Bool) (mode : Sql.LockMode) (failure : Option String)
    (body : List (Step α)) :
    g.outcome (.scope attempt mode failure body) = Session.scope g.recordedExecutor mode fun s =>
      Operation.andThen (g.runBody body) (fun _ => Operation.conclude failure body.length) (g.record .entered s) := by
  rw [Stage.outcome]
  congr 1
  funext s
  unfold Operation.andThen
  rcases g.runBody body (g.record .entered s) with ⟨_ | _, t⟩
  · rfl
  · cases failure <;> rfl

/-- What a stage sees of a session. -/
def Stage.view (g : Stage σ α β ω) (s : Session σ) : View ω :=
  ⟨s.stack.length, SavepointStack.names s.stack, (g.look s.store).1⟩

/-- An invariant of sessions on a stage: operations and actions keep it, looking keeps it, and what is seen
satisfies `P`. -/
structure Stage.Invariant (g : Stage σ α β ω) (I : Session σ → Prop) (P : View ω → Prop) : Prop where
  operations : Session.Invariant g.executor I
  act : ∀ a s, I s → I (g.act a s).2
  look : ∀ s, I s → I { s with store := (g.look s.store).2 }
  seen : ∀ s, I s → P (g.view s)

/-- The session satisfies the invariant, and so does all that was recorded of it. -/
def RecordedSession.Sound (I : Session σ → Prop) (P : View ω → Prop) (s : RecordedSession σ β ω) : Prop :=
  I s.bare ∧ ∀ v ∈ Record.viewsOf s.store.trace, P v

namespace Stage.Invariant

open RecordedSession

variable {g : Stage σ α β ω} {I : Session σ → Prop} {P : View ω → Prop}

/-- The operations on recorded sessions keep what the operations on sessions keep. -/
theorem recorded (h : g.Invariant I P) : Session.Invariant g.recordedExecutor (Sound (β := β) I P) where
  begin mode s hs := by
    rw [begin_recorded]
    exact ⟨h.operations.begin mode _ hs.1, hs.2⟩
  savepoint s hs := by
    rw [savepoint_recorded]
    exact ⟨h.operations.savepoint _ hs.1, hs.2⟩
  release name s hs := by
    rw [release_recorded]
    exact ⟨h.operations.release name _ hs.1, hs.2⟩
  rollbackTo name s hs := by
    rw [rollbackTo_recorded]
    exact ⟨h.operations.rollbackTo name _ hs.1, hs.2⟩
  commit s hs := by
    rw [commit_recorded]
    exact ⟨h.operations.commit _ hs.1, hs.2⟩
  rollback s hs := by
    rw [rollback_recorded]
    exact ⟨h.operations.rollback _ hs.1, hs.2⟩

/-- A record adds a view that satisfies `P`. -/
theorem record (h : g.Invariant I P) {make : View ω → Record β ω} (hm : ∀ v, (make v).views = [v])
    {s : RecordedSession σ β ω} (hs : s.Sound I P) : (g.record make s).Sound I P := by
  refine ⟨h.look _ hs.1, ?_⟩
  intro v hv
  have e : (g.record make s).store.trace = s.store.trace ++ [make (g.view s.bare)] := rfl
  rw [e, Record.viewsOf_append, List.mem_append] at hv
  rcases hv with hv | hv
  · exact hs.2 v hv
  · simp only [Record.viewsOf, hm, List.append_nil, List.mem_singleton] at hv
    rw [hv]
    exact h.seen _ hs.1

/-- A body goes on after its first step, unless it ends with the failure of it. -/
theorem runBody_cons (step : Step α) (rest : List (Step α)) (s : RecordedSession σ β ω) :
    g.runBody (step :: rest) s = g.runBody rest (g.run step s).2 ∨
      ∃ e, g.runBody (step :: rest) s = (.error e, (g.run step s).2) := by
  by_cases hc : ∃ p, step = .caught p
  · obtain ⟨p, rfl⟩ := hc
    left
    rw [Stage.runBody, Stage.run]
  · rw [Stage.runBody_of_not_caught fun p hp => hc ⟨p, hp⟩]
    rcases hr : g.run step s with ⟨e | a, t⟩
    · right
      exact ⟨e, by simp only [Operation.andThen, hr]⟩
    · left
      simp only [Operation.andThen, hr]

/-- The scope of a step keeps the invariant when its body does: the body starts with a record of the moment it is
entered, and ends in a failure of its own at most. -/
theorem scope_outcome (h : g.Invariant I P) (attempt : Bool) (mode : Sql.LockMode) (failure : Option String)
    {body : List (Step α)} (hb : ∀ s : RecordedSession σ β ω, s.Sound I P → (g.runBody body s).2.Sound I P)
    (s : RecordedSession σ β ω) (hs : s.Sound I P) :
    (g.outcome (.scope attempt mode failure body) s).2.Sound I P := by
  rw [Stage.outcome_scope]
  refine h.recorded.scope mode ?_ s hs
  intro t ht
  have hbody := hb _ (h.record (β := β) (fun v => (rfl : (Record.entered v).views = [v])) ht)
  unfold Operation.andThen
  rcases hr : g.runBody body (g.record .entered t) with ⟨e | a, u⟩
  · rw [hr] at hbody
    exact hbody
  · rw [hr] at hbody
    cases failure <;> exact hbody

/-- The record of a scope holds the records of its body, and the records before it stay in front. -/
theorem run_scope (h : g.Invariant I P) (attempt : Bool) (mode : Sql.LockMode) (failure : Option String)
    (body : List (Step α))
    (ho : ∀ s : RecordedSession σ β ω, s.Sound I P → (g.outcome (.scope attempt mode failure body) s).2.Sound I P)
    (s : RecordedSession σ β ω) (hs : s.Sound I P) : (g.run (.scope attempt mode failure body) s).2.Sound I P := by
  rw [Stage.run]
  have hr := ho { s with store := { s.store with trace := [] } } ⟨hs.1, by simp [Record.viewsOf]⟩
  dsimp only
  generalize g.outcome (.scope attempt mode failure body) { s with store := { s.store with trace := [] } } = r at hr
  refine ⟨h.look _ hr.1, ?_⟩
  intro v hv
  simp only [Stage.record, Record.viewsOf_append, Record.viewsOf, Record.views, List.mem_append, List.append_nil,
    List.mem_singleton] at hv
  rcases hv with hv | hv | hv
  · exact hs.2 v hv
  · exact hr.2 v hv
  · rw [hv]
    exact h.seen _ hr.1

/-- What a step other than a scope does when it is not caught keeps the invariant. -/
theorem outcome_plain (h : g.Invariant I P) (step : Step α) (hstep : step.isPlain = true) (s : RecordedSession σ β ω)
    (hs : s.Sound I P) : (g.outcome step s).2.Sound I P := by
  cases step with
  | act a =>
    rw [Stage.outcome]
    exact ⟨h.act a _ hs.1, hs.2⟩
  | begin mode =>
    rw [Stage.outcome]
    exact h.recorded.begin mode s hs
  | save =>
    rw [Stage.outcome, RecordedSession.save]
    have hsave := h.recorded.savepoint s hs
    split <;> rename_i heq <;> rw [heq] at hsave <;> exact hsave
  | release ref =>
    rw [Stage.outcome]
    exact h.recorded.release _ s hs
  | rollbackTo ref =>
    rw [Stage.outcome]
    exact h.recorded.rollbackTo _ s hs
  | isLive ref =>
    rw [Stage.outcome]
    exact hs
  | commit =>
    rw [Stage.outcome]
    exact h.recorded.commit s hs
  | rollback =>
    rw [Stage.outcome]
    exact h.recorded.rollback s hs
  | inTransaction =>
    rw [Stage.outcome]
    exact hs
  | scope attempt mode failure body => cases hstep
  | caught step => cases hstep

/-- A step that is neither a scope nor caught is its outcome, recorded. -/
theorem run_plain (h : g.Invariant I P) {step : Step α} (hstep : step.isPlain = true) (s : RecordedSession σ β ω)
    (hs : s.Sound I P) : (g.run step s).2.Sound I P := by
  have ho := h.outcome_plain step hstep s hs
  rw [Stage.run_of_isPlain hstep]
  exact h.record (fun _ => rfl) ho

mutual

/-- Every step of a script keeps the invariant, whether it is caught or not. -/
theorem step (h : g.Invariant I P) : ∀ (step : Step α) (s : RecordedSession σ β ω), s.Sound I P →
    (g.run step s).2.Sound I P
  | .scope attempt mode failure steps =>
    h.run_scope attempt mode failure steps (h.scope_outcome attempt mode failure (h.body steps))
  | .caught step => fun s hs => by
    rw [Stage.run]
    exact h.step step s hs
  | .act a => h.run_plain rfl
  | .begin mode => h.run_plain rfl
  | .save => h.run_plain rfl
  | .release ref => h.run_plain rfl
  | .rollbackTo ref => h.run_plain rfl
  | .isLive ref => h.run_plain rfl
  | .commit => h.run_plain rfl
  | .rollback => h.run_plain rfl
  | .inTransaction => h.run_plain rfl

/-- The steps of a body keep the invariant, up to the one that ends the body. -/
theorem body (h : g.Invariant I P) : ∀ (steps : List (Step α)) (s : RecordedSession σ β ω), s.Sound I P →
    (g.runBody steps s).2.Sound I P
  | [], s, hs => by
    rw [Stage.runBody]
    exact hs
  | step :: rest, s, hs => by
    have hrun := h.step step s hs
    rcases runBody_cons (g := g) step rest s with hb | ⟨e, hb⟩
    · rw [hb]
      exact h.body rest _ hrun
    · rw [hb]
      exact hrun

end

end Stage.Invariant

/-- An invariant that holds of a session holds after every script on it, and all that is recorded on the way
satisfies `P`, the steps of bodies included. -/
theorem Stage.records_invariant {g : Stage σ α β ω} {I : Session σ → Prop} {P : View ω → Prop} (h : g.Invariant I P)
    (steps : List (Step α)) (s : Session σ) (hs : I s) :
    I (g.records steps s).2 ∧ ∀ v ∈ Record.viewsOf (g.records steps s).1, P v := by
  have hrun : ∀ (steps : List (Step α)) (t : RecordedSession σ β ω), t.Sound I P →
      (g.runScript steps t).Sound I P := by
    intro steps
    induction steps with
    | nil => exact fun _ ht => ht
    | cons step steps ih => exact fun t ht => ih _ (h.step step t ht)
  exact hrun steps ⟨s.stack, s.names, ⟨s.store, [], []⟩⟩ ⟨hs, by simp [Record.viewsOf]⟩

end SqlMapper
