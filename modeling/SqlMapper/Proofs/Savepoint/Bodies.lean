import SqlMapper.Proofs.Savepoint.Invariant

/-!
# Scopes and their bodies

What each operation does to the stack and to the source of names, whatever the store makes of its batch, which batch
the store gets, and the five ways a scope may go (`Session.scopeRun`).

The body of a scope is an operation of its own, and may be any function of the session. `Session.Composed` says
which functions are put together from basic ones: an operation may go on after another in a way that depends on all
that the other gave, so it may look at a value, propagate an error, catch it, or stop; and it may run a composed
body in a scope. What is basic is left open. A property that basic operations and scopes keep is kept by everything
composed (`Session.Composed.keeps`), and the bodies of scripts are composed (`anyBody_runBody`).
-/

namespace SqlMapper

variable {σ : Type}

/-! ## What an operation does to the stack and to the names -/

section Operations

variable (x : Executor σ) (s : Session σ)

/-- A transaction is opened on an empty stack only, and fails to be opened without effect on the stack. -/
theorem begin_stack (mode : Sql.LockMode) :
    (Session.begin x mode s).2.names = s.names ∧
      ((∃ e, (Session.begin x mode s).1 = .error e) ∧ (Session.begin x mode s).2.stack = s.stack ∨
        (Session.begin x mode s).1 = .ok () ∧ s.stack = [] ∧
        (Session.begin x mode s).2.stack = [.transaction mode]) := by
  unfold Session.begin Session.send
  split
  · rename_i hidle
    have hidle := List.isEmpty_iff.1 hidle
    rcases x.run (.begin mode) s.store with ⟨e | _, store⟩
    · exact ⟨rfl, Or.inl ⟨⟨e, rfl⟩, rfl⟩⟩
    · exact ⟨rfl, Or.inr ⟨rfl, hidle, by simp [hidle]⟩⟩
  · exact ⟨rfl, Or.inl ⟨⟨_, rfl⟩, rfl⟩⟩

/-- A savepoint is opened on top, under a name that is spent even if the savepoint is refused. -/
theorem savepoint_stack :
    let minted := s.names.mint s.stack.length s.stack.isLive s.stack.length
    (Session.savepoint x s).2.names = minted.2 ∧
      ((∃ e, (Session.savepoint x s).1 = .error e) ∧ (Session.savepoint x s).2.stack = s.stack ∨
        (Session.savepoint x s).1 = .ok minted.1 ∧
          (Session.savepoint x s).2.stack = s.stack ++ [.savepoint minted.1]) := by
  intro minted
  unfold Session.savepoint Session.send
  dsimp only
  rcases x.run (.savepoint minted.1) s.store with ⟨e | _, store⟩
  · exact ⟨rfl, Or.inl ⟨⟨e, rfl⟩, rfl⟩⟩
  · exact ⟨rfl, Or.inr ⟨rfl, rfl⟩⟩

/-- A release that is done leaves the levels below the savepoint, and one that fails leaves all. -/
theorem release_stack (name : String) :
    (Session.release x name s).2.names = s.names ∧
      ((∃ e, (Session.release x name s).1 = .error e) ∧ (Session.release x name s).2.stack = s.stack ∨
        (Session.release x name s).1 = .ok () ∧ s.stack.below? name = some (Session.release x name s).2.stack) := by
  unfold Session.release Session.send
  cases hb : s.stack.below? name with
  | none => exact ⟨rfl, Or.inl ⟨⟨_, rfl⟩, rfl⟩⟩
  | some outer =>
    dsimp only
    rcases x.run (.release name) s.store with ⟨e | _, store⟩
    · exact ⟨rfl, Or.inl ⟨⟨e, rfl⟩, rfl⟩⟩
    · exact ⟨rfl, Or.inr ⟨rfl, rfl⟩⟩

/-- A rollback to a live savepoint leaves the levels below it, whether it is done or refused. -/
theorem rollbackTo_stack (name : String) :
    (Session.rollbackTo x name s).2.names = s.names ∧
      (Session.rollbackTo x name s).2.stack = (s.stack.below? name).getD s.stack := by
  unfold Session.rollbackTo Session.send
  cases s.stack.below? name <;> exact ⟨rfl, rfl⟩

/-- A commit leaves all levels or none, and none when it succeeds. -/
theorem commit_stack :
    (Session.commit x s).2.names = s.names ∧
      ((∃ e, (Session.commit x s).1 = .error e) ∧ (Session.commit x s).2.stack = s.stack ∨
        (Session.commit x s).1 = .ok () ∧ (Session.commit x s).2.stack = []) := by
  unfold Session.commit Session.send
  split
  · rename_i hidle
    exact ⟨rfl, Or.inr ⟨rfl, List.isEmpty_iff.1 hidle⟩⟩
  · rcases x.run .commit s.store with ⟨e | _, store⟩
    · exact ⟨rfl, Or.inl ⟨⟨e, rfl⟩, rfl⟩⟩
    · exact ⟨rfl, Or.inr ⟨rfl, rfl⟩⟩

/-- A rollback leaves no level, whether it is done or refused. -/
theorem rollback_stack : (Session.rollback x s).2.names = s.names ∧ (Session.rollback x s).2.stack = [] := by
  unfold Session.rollback Session.send
  split
  · rename_i hidle
    exact ⟨rfl, List.isEmpty_iff.1 hidle⟩
  · exact ⟨rfl, rfl⟩

/-- The store is sent the savepoint under its new name. -/
theorem savepoint_store :
    (Session.savepoint x s).2.store =
      (x.run (.savepoint (s.names.mint s.stack.length s.stack.isLive s.stack.length).1) s.store).2 := by
  unfold Session.savepoint Session.send
  dsimp only
  split <;> rename_i heq <;> rw [← (Prod.mk.inj heq).2]

/-- The store is sent the release of a live savepoint, and nothing otherwise. -/
theorem release_store (name : String) :
    (Session.release x name s).2.store =
      if s.stack.isLive name then (x.run (.release name) s.store).2 else s.store := by
  unfold Session.release Session.send SavepointStack.isLive
  cases s.stack.below? name with
  | none => rfl
  | some outer =>
    simp only [Option.isSome_some, if_true]
    split <;> rename_i heq <;> rw [← (Prod.mk.inj heq).2]

/-- The store is sent the rollback to a live savepoint, and nothing otherwise. -/
theorem rollbackTo_store (name : String) :
    (Session.rollbackTo x name s).2.store =
      if s.stack.isLive name then (x.run (.rollbackTo name) s.store).2 else s.store := by
  unfold Session.rollbackTo Session.send SavepointStack.isLive
  cases s.stack.below? name <;> rfl

end Operations

/-! ## What a scope does -/

/-- The five ways a scope may go, by the first of its steps that fails, and what it ends in each time. -/
inductive Session.ScopeRun {α : Type} (x : Executor σ) (mode : Sql.LockMode) (body : Operation (Session σ) α)
    (s : Session σ) : Except Error α × Session σ → Prop where
  | notEntered {e : Error} {t : Session σ} (h : Session.enter x s.stack.isEmpty mode s = (.error e, t)) :
    ScopeRun x mode body s (.error e, t)
  | notSaved {e : Error} {t u : Session σ} (he : Session.enter x s.stack.isEmpty mode s = (.ok (), t))
    (h : Session.savepoint x t = (.error e, u)) :
    ScopeRun x mode body s (.error e, Session.undo x s.stack.isEmpty none u)
  | bodyFailed {e : Error} {name : String} {t u v : Session σ}
    (he : Session.enter x s.stack.isEmpty mode s = (.ok (), t))
    (hs : Session.savepoint x t = (.ok name, u)) (h : body u = (.error e, v)) :
    ScopeRun x mode body s (.error e, Session.undo x s.stack.isEmpty (some name) v)
  | notLeft {e : Error} {name : String} {a : α} {t u v w : Session σ}
    (he : Session.enter x s.stack.isEmpty mode s = (.ok (), t)) (hs : Session.savepoint x t = (.ok name, u))
    (hb : body u = (.ok a, v)) (h : Session.leave x s.stack.isEmpty name v = (.error e, w)) :
    ScopeRun x mode body s (.error e, Session.undo x s.stack.isEmpty (some name) w)
  | kept {name : String} {a : α} {t u v w : Session σ} (he : Session.enter x s.stack.isEmpty mode s = (.ok (), t))
    (hs : Session.savepoint x t = (.ok name, u)) (hb : body u = (.ok a, v))
    (h : Session.leave x s.stack.isEmpty name v = (.ok (), w)) : ScopeRun x mode body s (.ok a, w)

/-- Every scope goes one of the five ways. -/
theorem Session.scopeRun {α : Type} (x : Executor σ) (mode : Sql.LockMode) (body : Operation (Session σ) α)
    (s : Session σ) : Session.ScopeRun x mode body s (Session.scope x mode body s) := by
  unfold Session.scope
  dsimp only
  rcases he : Session.enter x s.stack.isEmpty mode s with ⟨e | ⟨⟩, t⟩
  · exact .notEntered he
  rcases hs : Session.savepoint x t with ⟨e | name, u⟩
  · simp only [hs]
    exact .notSaved he hs
  rcases hb : body u with ⟨e | a, v⟩
  · simp only [hs, hb]
    exact .bodyFailed he hs hb
  rcases hl : Session.leave x s.stack.isEmpty name v with ⟨e | ⟨⟩, w⟩
  · simp only [hs, hb, hl]
    exact .notLeft he hs hb hl
  · simp only [hs, hb, hl]
    exact .kept he hs hb hl

/-- A scope inside a transaction opens none. -/
theorem Session.enter_nested (x : Executor σ) (mode : Sql.LockMode) {s : Session σ} (h : s.stack ≠ []) :
    Session.enter x s.stack.isEmpty mode s = (.ok (), s) := by
  have hempty : s.stack.isEmpty = false := by simpa using h
  simp [Session.enter, hempty]

section Steps

variable {x : Executor σ} {mode : Sql.LockMode} {owner : Bool} {name : String} {e : Error} {s t v w : Session σ}

/-- Only a scope on an empty stack can fail to be entered. -/
theorem enter_error (h : Session.enter x s.stack.isEmpty mode s = (.error e, t)) :
    s.stack = [] ∧ Session.begin x mode s = (.error e, t) := by
  by_cases hs : s.stack = []
  · rw [hs] at h
    exact ⟨hs, h⟩
  · rw [Session.enter_nested x mode hs] at h
    cases h

/-- Closing a scope fails with the release of its savepoint, or with the commit after it. -/
theorem leave_error (h : Session.leave x owner name v = (.error e, w)) :
    Session.release x name v = (.error e, w) ∨
      ∃ t, Session.release x name v = (.ok (), t) ∧ owner = true ∧ Session.commit x t = (.error e, w) := by
  unfold Session.leave at h
  rcases hr : Session.release x name v with ⟨e' | ⟨⟩, t⟩
  · simp only [hr] at h
    exact Or.inl h
  · simp only [hr] at h
    cases owner with
    | false => simp at h
    | true => exact Or.inr ⟨t, rfl, rfl, h⟩

/-- Closing a scope succeeds with the release of its savepoint, and with the commit after it if the transaction is
its own. -/
theorem leave_ok (h : Session.leave x owner name v = (.ok (), w)) :
    ∃ t, Session.release x name v = (.ok (), t) ∧ if owner then Session.commit x t = (.ok (), w) else t = w := by
  unfold Session.leave at h
  rcases hr : Session.release x name v with ⟨e' | ⟨⟩, t⟩
  · simp [hr] at h
  · simp only [hr] at h
    refine ⟨t, rfl, ?_⟩
    cases owner with
    | false => exact (Prod.mk.inj h).2
    | true => exact h

/-- An operation that succeeded did not fail. -/
theorem not_error_of_ok {γ : Type} {op : Operation (Session σ) γ} {a : γ} (h : op v = (.ok a, w)) :
    ¬ ∃ e, (op v).1 = .error e := by
  rintro ⟨e, he⟩
  rw [h] at he
  cases he

/-- What an operation keeps holds where it ends. -/
theorem holds_after {γ : Type} {op : Operation (Session σ) γ} {I : Session σ → Prop} (hop : ∀ s, I s → I (op s).2)
    {result : Except Error γ} (hv : I v) (h : op v = (result, w)) : I w := by
  have hw := hop v hv
  rwa [h] at hw

end Steps

/-- The four ways a scope inside a transaction may go. It opens and commits nothing, and is undone by going back to
its savepoint. -/
inductive Session.NestedRun {α : Type} (x : Executor σ) (body : Operation (Session σ) α) (s : Session σ) :
    Except Error α × Session σ → Prop where
  | notSaved {e : Error} {u : Session σ} (h : Session.savepoint x s = (.error e, u)) : NestedRun x body s (.error e, u)
  | bodyFailed {e : Error} {name : String} {u v : Session σ} (hs : Session.savepoint x s = (.ok name, u))
    (h : body u = (.error e, v)) : NestedRun x body s (.error e, Session.undo x false (some name) v)
  | notReleased {e : Error} {name : String} {a : α} {u v w : Session σ} (hs : Session.savepoint x s = (.ok name, u))
    (hb : body u = (.ok a, v)) (h : Session.release x name v = (.error e, w)) :
    NestedRun x body s (.error e, Session.undo x false (some name) w)
  | kept {name : String} {a : α} {u v w : Session σ} (hs : Session.savepoint x s = (.ok name, u))
    (hb : body u = (.ok a, v))
    (h : Session.release x name v = (.ok (), w)) : NestedRun x body s (.ok a, w)

/-- A scope inside a transaction goes one of the four ways. -/
theorem Session.nestedRun {α : Type} (x : Executor σ) (mode : Sql.LockMode) (body : Operation (Session σ) α)
    {s : Session σ} (hs : s.stack ≠ []) : Session.NestedRun x body s (Session.scope x mode body s) := by
  have hempty : s.stack.isEmpty = false := by simpa using hs
  have hentered : ∀ {result t}, Session.enter x s.stack.isEmpty mode s = (result, t) → result = .ok () ∧ t = s := by
    intro result t ht
    rw [Session.enter_nested x mode hs] at ht
    exact ⟨(Prod.mk.inj ht).1.symm, (Prod.mk.inj ht).2.symm⟩
  have hrun := Session.scopeRun x mode body s
  generalize Session.scope x mode body s = r at hrun
  cases hrun with
  | notEntered he => cases (hentered he).1
  | notSaved he hu =>
    obtain rfl := (hentered he).2
    rw [hempty]
    exact .notSaved hu
  | bodyFailed he hu hb =>
    obtain rfl := (hentered he).2
    rw [hempty]
    exact .bodyFailed hu hb
  | notLeft he hu hb hl =>
    obtain rfl := (hentered he).2
    rw [hempty] at hl ⊢
    exact .notReleased hu hb ((leave_error hl).resolve_right (by simp))
  | kept he hu hb hl =>
    obtain rfl := (hentered he).2
    rw [hempty] at hl
    obtain ⟨w, hr, rfl⟩ := leave_ok hl
    exact .kept hu hb hr

/-! ## Composed bodies -/

/-- An operation put together from basic ones: one after another, and in scopes. -/
inductive Session.Composed (x : Executor σ) (basic : ∀ ⦃γ : Type⦄, Operation (Session σ) γ → Prop) :
    ∀ ⦃γ : Type⦄, Operation (Session σ) γ → Prop where
  | basic {γ : Type} {op : Operation (Session σ) γ} (h : basic op) : Composed x basic op
  | next {γ δ : Type} (first : Operation (Session σ) δ) (rest : Except Error δ → Operation (Session σ) γ)
    (hf : Composed x basic first) (hr : ∀ result, Composed x basic (rest result)) :
    Composed x basic fun s => rest (first s).1 (first s).2
  | scope {γ : Type} (mode : Sql.LockMode) {body : Operation (Session σ) γ} (h : Composed x basic body) :
    Composed x basic (Session.scope x mode body)

/-- An operation that calls one of the operations that open levels or close savepoints, with any names. -/
inductive Session.OnSavepoints (x : Executor σ) : ∀ ⦃γ : Type⦄, Operation (Session σ) γ → Prop where
  | begin (mode : Sql.LockMode) : OnSavepoints x (Session.begin x mode)
  | savepoint : OnSavepoints x (Session.savepoint x)
  | release (name : String) : OnSavepoints x (Session.release x name)
  | rollbackTo (name : String) : OnSavepoints x (Session.rollbackTo x name)

/-- An operation that calls one of the operations on levels, with any names. -/
inductive Session.OnLevels (x : Executor σ) : ∀ ⦃γ : Type⦄, Operation (Session σ) γ → Prop where
  | onSavepoints {γ : Type} {op : Operation (Session σ) γ} (h : OnSavepoints x op) : OnLevels x op
  | commit : OnLevels x (Session.commit x)
  | rollback : OnLevels x (Session.rollback x)

namespace Session.Composed

variable {x : Executor σ} {basic : ∀ ⦃γ : Type⦄, Operation (Session σ) γ → Prop}

/-- What basic operations keep, and a scope whenever its body does, is kept by every composed operation. -/
theorem keeps {I : Session σ → Prop}
    (hbasic : ∀ ⦃γ : Type⦄ {op : Operation (Session σ) γ}, basic op → ∀ s, I s → I (op s).2)
    (hscope : ∀ {γ : Type} (mode : Sql.LockMode) {body : Operation (Session σ) γ}, (∀ s, I s → I (body s).2) →
      ∀ s, I s → I (Session.scope x mode body s).2)
    {γ : Type} {op : Operation (Session σ) γ} (h : Composed x basic op) : ∀ s, I s → I (op s).2 := by
  induction h with
  | basic hb => exact hbasic hb
  | next first rest _ _ ihf ihr =>
    intro s hs
    exact ihr _ _ (ihf s hs)
  | scope mode _ ih => exact hscope mode ih

end Session.Composed

/-- An invariant of a session is kept by the operations on levels. -/
theorem Session.Invariant.onLevels {x : Executor σ} {I : Session σ → Prop} (h : Session.Invariant x I) {γ : Type}
    {op : Operation (Session σ) γ} (ho : Session.OnLevels x op) (s : Session σ) (hs : I s) : I (op s).2 := by
  cases ho with
  | onSavepoints ho =>
    cases ho with
    | begin mode => exact h.begin mode s hs
    | savepoint => exact h.savepoint s hs
    | release name => exact h.release name s hs
    | rollbackTo name => exact h.rollbackTo name s hs
  | commit => exact h.commit s hs
  | rollback => exact h.rollback s hs

/-- An operation beside the levels: it leaves the stack and the names as they are. -/
def Session.Beside {α : Type} (op : Operation (Session σ) α) : Prop :=
  ∀ s, (op s).2.stack = s.stack ∧ (op s).2.names = s.names

/-- A body made of any operations on levels, of operations beside the levels, and of scopes. -/
abbrev Session.AnyBody {α : Type} (x : Executor σ) (body : Operation (Session σ) α) : Prop :=
  Session.Composed x (fun _ op => Session.OnLevels x op ∨ Session.Beside op) body

namespace Session.AnyBody

variable {x : Executor σ} {γ δ : Type}

theorem beside (op : Operation (Session σ) γ) (h : Session.Beside op) : Session.AnyBody x op := .basic (.inr h)

/-- An operation whose value is made into another. -/
theorem map {op : Operation (Session σ) δ} (h : Session.AnyBody x op) (make : Except Error δ → Except Error γ) :
    Session.AnyBody x fun s => (make (op s).1, (op s).2) :=
  .next op (fun result s => (make result, s)) h fun _ => beside _ fun _ => ⟨rfl, rfl⟩

/-- An operation that goes on after another, unless that one fails. -/
theorem andThen {first : Operation (Session σ) δ} {next : δ → Operation (Session σ) γ} (hf : Session.AnyBody x first)
    (hn : ∀ a, Session.AnyBody x (next a)) : Session.AnyBody x (Operation.andThen first next) := by
  have hrest : ∀ result : Except Error δ, Session.AnyBody x (fun s => match result with
      | .ok a => next a s
      | .error e => (.error e, s)) := by
    rintro (e | a)
    · exact beside _ fun _ => ⟨rfl, rfl⟩
    · exact hn a
  have heq : Operation.andThen first next = fun s => (fun result s => match result with
      | .ok a => next a s
      | .error e => (.error e, s)) (first s).1 (first s).2 := by
    funext s
    unfold Operation.andThen
    rcases first s with ⟨_ | _, t⟩ <;> rfl
  rw [heq]
  exact .next first _ hf hrest

end Session.AnyBody

/-! ## Bodies of scripts -/

section Scripts

variable {α β ω : Type} {g : Stage σ α β ω}

/-- A record is made beside the levels. -/
theorem anyBody_record {γ : Type} {op : Operation (RecordedSession σ β ω) γ} (h : Session.AnyBody g.recordedExecutor op)
    (make : Except Error γ → View ω → Record β ω) :
    Session.AnyBody g.recordedExecutor fun s => ((op s).1, g.record (make (op s).1) (op s).2) :=
  .next op (fun result s => (result, g.record (make result) s)) h fun _ => Session.AnyBody.beside _ fun _ => ⟨rfl, rfl⟩

/-- What a step other than a scope does is composed, when actions are beside the levels. -/
theorem anyBody_outcome (hact : ∀ a, Session.Beside (RecordedSession.lift (β := β) (ω := ω) (g.act a))) {step : Step α}
    (hstep : step.isPlain = true) : Session.AnyBody g.recordedExecutor (g.outcome step) := by
  have hplain : ∀ {op : Operation (RecordedSession σ β ω) Unit}, Session.OnLevels g.recordedExecutor op →
      Session.AnyBody g.recordedExecutor (RecordedSession.plain op) :=
    fun h => Session.AnyBody.map (.basic (.inl h)) Answer.ofUnit
  have hnamed : ∀ (ref : SavepointRef) {op : String → Operation (RecordedSession σ β ω) (Answer β)},
      (∀ name, Session.AnyBody g.recordedExecutor (op name)) →
      Session.AnyBody g.recordedExecutor fun s => op (ref.resolve s) s := fun ref op h =>
    Session.AnyBody.andThen (.beside (fun s => (.ok (ref.resolve s), s)) fun _ => ⟨rfl, rfl⟩) h
  cases step with
  | act a =>
    rw [Stage.outcome]
    exact .beside _ (hact a)
  | begin mode =>
    rw [Stage.outcome]
    exact hplain (.onSavepoints (.begin mode))
  | save =>
    rw [Stage.outcome]
    have heq : RecordedSession.save g.recordedExecutor = Operation.andThen (Session.savepoint g.recordedExecutor)
        fun name s => (.ok (.name name), { s with store := { s.store with minted := s.store.minted ++ [name] } }) := by
      funext s
      unfold RecordedSession.save Operation.andThen
      rcases Session.savepoint g.recordedExecutor s with ⟨_ | _, t⟩ <;> rfl
    rw [heq]
    exact .andThen (.basic (.inl (.onSavepoints .savepoint))) fun _ => .beside _ fun _ => ⟨rfl, rfl⟩
  | release ref =>
    rw [Stage.outcome]
    exact hnamed ref fun name => hplain (.onSavepoints (.release name))
  | rollbackTo ref =>
    rw [Stage.outcome]
    exact hnamed ref fun name => hplain (.onSavepoints (.rollbackTo name))
  | isLive ref =>
    rw [Stage.outcome]
    exact .beside _ fun _ => ⟨rfl, rfl⟩
  | commit =>
    rw [Stage.outcome]
    exact hplain .commit
  | rollback =>
    rw [Stage.outcome]
    exact hplain .rollback
  | inTransaction =>
    rw [Stage.outcome]
    exact .beside _ fun _ => ⟨rfl, rfl⟩
  | scope attempt mode failure body => cases hstep
  | caught step => cases hstep

theorem anyBody_run_plain (hact : ∀ a, Session.Beside (RecordedSession.lift (β := β) (ω := ω) (g.act a)))
  {step : Step α}
    (hstep : step.isPlain = true) : Session.AnyBody g.recordedExecutor (g.run step) := by
  rw [Stage.run_of_isPlain hstep]
  exact anyBody_record (anyBody_outcome hact hstep) fun result => .step result

/-- The scope of a step is composed when the steps of its body are. -/
theorem anyBody_run_scope (attempt : Bool) (mode : Sql.LockMode) (failure : Option String) {body : List (Step α)}
    (hbody : Session.AnyBody g.recordedExecutor (g.runBody body)) :
    Session.AnyBody g.recordedExecutor (g.run (.scope attempt mode failure body)) := by
  have houtcome : Session.AnyBody g.recordedExecutor (g.outcome (.scope attempt mode failure body)) := by
    rw [Stage.outcome_scope]
    refine .scope mode ?_
    refine .next (fun s => (.ok (), g.record .entered s))
      (fun _ => Operation.andThen (g.runBody body) fun _ => Operation.conclude failure body.length)
      (Session.AnyBody.beside _ fun _ => ⟨rfl, rfl⟩) fun _ => ?_
    refine Session.AnyBody.andThen hbody fun _ => .beside _ fun _ => ?_
    cases failure <;> exact ⟨rfl, rfl⟩
  -- the records before the scope are put aside, and brought back in front of the record of the scope
  have hrecorded : ∀ before : List (Record β ω), Session.AnyBody g.recordedExecutor fun s =>
      ((g.outcome (.scope attempt mode failure body) s).1,
        g.record (.scope attempt (g.outcome (.scope attempt mode failure body) s).1
            (g.outcome (.scope attempt mode failure body) s).2.store.trace)
          { (g.outcome (.scope attempt mode failure body) s).2 with
            store := { (g.outcome (.scope attempt mode failure body) s).2.store with trace := before } }) :=
            fun before =>
    .next (g.outcome (.scope attempt mode failure body))
      (fun result s => (result,
        g.record (.scope attempt result s.store.trace) { s with store := { s.store with trace := before } }))
      houtcome fun _ => Session.AnyBody.beside _ fun _ => ⟨rfl, rfl⟩
  rw [Stage.run]
  exact .andThen (.beside (fun s => (.ok s.store.trace, { s with store := { s.store with trace := [] } })) fun _ =>
    ⟨rfl, rfl⟩)
    hrecorded

mutual

/-- Every step of a script is composed of operations on levels, operations beside them, and scopes. -/
theorem anyBody_run (hact : ∀ a, Session.Beside (RecordedSession.lift (β := β) (ω := ω) (g.act a))) :
    ∀ step : Step α, Session.AnyBody g.recordedExecutor (g.run step)
  | .scope attempt mode failure steps => anyBody_run_scope attempt mode failure (anyBody_runBody hact steps)
  | .caught step => by
    rw [Stage.run]
    exact anyBody_run hact step
  | .act a => anyBody_run_plain hact rfl
  | .begin mode => anyBody_run_plain hact rfl
  | .save => anyBody_run_plain hact rfl
  | .release ref => anyBody_run_plain hact rfl
  | .rollbackTo ref => anyBody_run_plain hact rfl
  | .isLive ref => anyBody_run_plain hact rfl
  | .commit => anyBody_run_plain hact rfl
  | .rollback => anyBody_run_plain hact rfl
  | .inTransaction => anyBody_run_plain hact rfl

/-- So is the body of every scope of a script. -/
theorem anyBody_runBody (hact : ∀ a, Session.Beside (RecordedSession.lift (β := β) (ω := ω) (g.act a))) :
    ∀ steps : List (Step α), Session.AnyBody g.recordedExecutor (g.runBody steps)
  | [] => by
    rw [Stage.runBody]
    exact .beside _ fun _ => ⟨rfl, rfl⟩
  | step :: rest => by
    have hrun := anyBody_run hact step
    have hrest := anyBody_runBody hact rest
    by_cases hc : ∃ p, step = .caught p
    · obtain ⟨p, rfl⟩ := hc
      have heq : g.runBody (.caught p :: rest) = fun s => g.runBody rest (g.run (.caught p) s).2 := by
        rw [Stage.runBody, Stage.run]
      rw [heq]
      exact .next _ (fun _ => g.runBody rest) hrun fun _ => hrest
    · rw [Stage.runBody_of_not_caught fun p hp => hc ⟨p, hp⟩]
      exact .andThen hrun fun _ => hrest

end

end Scripts

end SqlMapper
