import Mathlib.Data.List.Nodup
import Mathlib.Data.List.Perm.Subperm
import SqlMapper.Proofs.Savepoint.Bodies
import SqlMapper.Proofs.Savepoint.Names

/-!
# Scopes are balanced

A scope leaves the stack as it was when it was entered, whatever its body does and whatever the store refuses. For a
scope on an empty stack there is nothing to it: it ends with a commit or a rollback. For a nested scope it rests on
one fact: while its savepoint is live, the levels below it are those the scope was entered with. `Session.Pins` says
so, and every operation keeps it. A body may close the transaction and open another, so the savepoint may be gone;
that it does not come back is why names are counted and no number is used twice.
-/

namespace SqlMapper

/-! ## Counted names -/

/-- A minted name determines its number and its depth. -/
theorem savepointName_inj {n d n' d' : Nat} (h : savepointName n d = savepointName n' d') : n = n' ∧ d = d' := by
  refine sameWord_savepointName ?_
  rw [h]
  simp [Sql.sameWord]

/-- A counted name has a number beyond the last one, and if it is in use then so are all the names that could be
tried. -/
theorem NameSource.mint_counter (depth : Nat) (inUse : String → Bool) (attempts last : Nat) :
    ∃ number, NameSource.mint depth inUse attempts (.counter last) = (savepointName number depth, .counter number) ∧
      last < number ∧ (inUse (savepointName number depth) = true →
        ∀ k, last < k → k ≤ last + attempts + 1 → inUse (savepointName k depth) = true) := by
  induction attempts generalizing last with
  | zero =>
    refine ⟨last + 1, rfl, Nat.lt_succ_self last, ?_⟩
    intro hused k hlo hhi
    rwa [show k = last + 1 by omega]
  | succ attempts ih =>
    have hstep : NameSource.mint depth inUse (attempts + 1) (.counter last) =
        if inUse (savepointName (last + 1) depth) then NameSource.mint depth inUse attempts (.counter (last + 1))
        else (savepointName (last + 1) depth, .counter (last + 1)) := rfl
    rw [hstep]
    by_cases hused : inUse (savepointName (last + 1) depth) = true
    · obtain ⟨number, hmint, hlt, hall⟩ := ih (last + 1)
      rw [if_pos hused]
      refine ⟨number, hmint, by omega, ?_⟩
      intro hn k hlo hhi
      by_cases hk : k = last + 1
      · rwa [hk]
      · exact hall hn k (by omega) (by omega)
    · rw [if_neg hused]
      exact ⟨last + 1, rfl, Nat.lt_succ_self last, fun h => absurd h hused⟩

/-- Of as many names as there are levels and one more, one is not in use. -/
theorem SavepointStack.exists_not_isLive (stack : SavepointStack) (depth last : Nat) :
    ∃ k, last < k ∧ k ≤ last + stack.length + 1 ∧ stack.isLive (savepointName k depth) = false := by
  by_contra hno
  have hlive : ∀ k, last < k → k ≤ last + stack.length + 1 → stack.isLive (savepointName k depth) = true := by
    intro k hlo hhi
    by_contra hk
    exact hno ⟨k, hlo, hhi, Bool.eq_false_iff.2 hk⟩
  let tried := (List.range (stack.length + 1)).map fun i => Level.savepoint (savepointName (last + 1 + i) depth)
  have hnodup : tried.Nodup := by
    refine List.Nodup.map ?_ List.nodup_range
    intro i j hij
    have hnumber := (savepointName_inj (Level.savepoint.inj hij)).1
    omega
  have hsub : tried ⊆ stack := by
    intro level hlevel
    obtain ⟨i, hi, rfl⟩ := List.mem_map.1 hlevel
    have hi := List.mem_range.1 hi
    exact SavepointStack.isLive_iff.1 (hlive (last + 1 + i) (by omega) (by omega))
  have hlength := (List.subperm_of_subset hnodup hsub).length_le
  simp only [tried, List.length_map, List.length_range] at hlength
  omega

/-- A counted name is not in use on the stack it is minted for, whatever is on that stack. -/
theorem SavepointStack.mint_counter (stack : SavepointStack) (last : Nat) :
    ∃ number, NameSource.mint stack.length stack.isLive stack.length (.counter last) =
        (savepointName number stack.length, .counter number) ∧
      last < number ∧ Level.savepoint (savepointName number stack.length) ∉ stack := by
  obtain ⟨number, hmint, hlt, hall⟩ := NameSource.mint_counter stack.length stack.isLive stack.length last
  refine ⟨number, hmint, hlt, ?_⟩
  intro hmem
  obtain ⟨k, hlo, hhi, hfree⟩ := stack.exists_not_isLive stack.length last
  have hused := hall (SavepointStack.isLive_iff.2 hmem) k hlo hhi
  rw [hfree] at hused
  cases hused

/-! ## A live savepoint pins what is below it -/

/-- A savepoint that is on a stack once pins the same levels on every stack of levels below one it is on. -/
theorem SavepointStack.below?_of_below? {stack inner outer below : SavepointStack} {name other : String}
    (hpin : stack.below? name = some outer) (hfresh : Level.savepoint name ∉ outer)
    (hinner : stack.below? other = some inner) (hbelow : inner.below? name = some below) : below = outer := by
  obtain ⟨above, rfl, habove⟩ := SavepointStack.below?_eq_some_iff.1 hpin
  obtain ⟨rest, hrest, -⟩ := SavepointStack.below?_eq_some_iff.1 hinner
  obtain ⟨between, rfl, -⟩ := SavepointStack.below?_eq_some_iff.1 hbelow
  rw [List.append_assoc, List.cons_append] at hrest
  exact ((List.append_cons_inj_of_notMem hfresh habove).1 hrest).1.symm

/-- The savepoint of a number and a depth stands on given levels whenever it is live, and its number is spent. -/
structure Session.Pins {σ : Type} (outer : SavepointStack) (number depth : Nat) (s : Session σ) : Prop where
  spent : ∃ last, s.names = .counter last ∧ number ≤ last
  pinned : ∀ below, s.stack.below? (savepointName number depth) = some below → below = outer

namespace Session.Pins

variable {σ : Type} {x : Executor σ} {s : Session σ} {outer : SavepointStack} {number depth : Nat}

/-- Taking levels off the stack keeps what a savepoint pins. -/
theorem close (h : s.Pins outer number depth) (hfresh : Level.savepoint (savepointName number depth) ∉ outer)
    {name : String} {inner : SavepointStack} (hinner : s.stack.below? name = some inner) (below : SavepointStack)
    (hbelow : inner.below? (savepointName number depth) = some below) : below = outer := by
  obtain ⟨between, hb, -⟩ := SavepointStack.below?_eq_some_iff.1 hbelow
  obtain ⟨rest, hr, -⟩ := SavepointStack.below?_eq_some_iff.1 hinner
  have hlive : s.stack.isLive (savepointName number depth) = true := by
    rw [SavepointStack.isLive_iff, hr, hb]
    simp
  obtain ⟨pinned, hpin⟩ := Option.isSome_iff_exists.1 hlive
  obtain rfl := h.pinned pinned hpin
  exact SavepointStack.below?_of_below? hpin hfresh hinner hbelow

/-- Opening a level that is not the savepoint keeps what the savepoint pins. -/
theorem push (h : s.Pins outer number depth) (level : Level) (hne : level ≠ .savepoint (savepointName number depth))
    (below : SavepointStack) (hbelow : (s.stack ++ [level]).below? (savepointName number depth) = some below) :
    below = outer := by
  obtain ⟨inner, hstack, hinner⟩ := SavepointStack.below?_eq_some_iff.1 hbelow
  rcases List.eq_nil_or_concat inner with rfl | ⟨front, last, rfl⟩
  · have hlast := (List.append_inj' hstack rfl).2
    exact absurd (List.cons.inj hlast).1 hne
  · rw [List.concat_eq_append, ← List.cons_append, ← List.append_assoc] at hstack
    have hfront := (List.append_inj' hstack rfl).1
    refine h.pinned below (SavepointStack.below?_eq_some_iff.2 ⟨front, hfront, ?_⟩)
    exact fun hmem => hinner (by simp [hmem])

/-- No operation moves the levels that a live savepoint stands on. -/
theorem invariant (hfresh : Level.savepoint (savepointName number depth) ∉ outer) :
    Session.Invariant x (Session.Pins outer number depth) where
  begin mode s h := by
    obtain ⟨hnames, ⟨-, hstack⟩ | ⟨-, hidle, hstack⟩⟩ := begin_stack x s mode
    · exact ⟨by rw [hnames]; exact h.spent, by rw [hstack]; exact h.pinned⟩
    · refine ⟨by rw [hnames]; exact h.spent, ?_⟩
      have hpush := h.push (.transaction mode) nofun
      rw [hidle] at hpush
      rw [hstack]
      exact hpush
  savepoint s h := by
    obtain ⟨last, hlast, hle⟩ := h.spent
    obtain ⟨hnames, hstack⟩ := savepoint_stack x s
    obtain ⟨next, hmint, hlt, -⟩ := SavepointStack.mint_counter s.stack last
    rw [hlast, hmint] at hnames hstack
    have hne : Level.savepoint (savepointName next s.stack.length) ≠ .savepoint (savepointName number depth) := by
      intro heq
      have hnumber := (savepointName_inj (Level.savepoint.inj heq)).1
      omega
    refine ⟨⟨next, hnames, by omega⟩, ?_⟩
    rcases hstack with ⟨-, hstack⟩ | ⟨-, hstack⟩
    · rw [hstack]
      exact h.pinned
    · rw [hstack]
      exact h.push _ hne
  release name s h := by
    obtain ⟨hnames, ⟨-, hstack⟩ | ⟨-, hstack⟩⟩ := release_stack x s name
    · exact ⟨by rw [hnames]; exact h.spent, by rw [hstack]; exact h.pinned⟩
    · exact ⟨by rw [hnames]; exact h.spent, h.close hfresh hstack⟩
  rollbackTo name s h := by
    obtain ⟨hnames, hstack⟩ := rollbackTo_stack x s name
    refine ⟨by rw [hnames]; exact h.spent, ?_⟩
    rw [hstack]
    cases hb : s.stack.below? name with
    | none => exact h.pinned
    | some inner => exact h.close hfresh hb
  commit s h := by
    obtain ⟨hnames, ⟨-, hstack⟩ | ⟨-, hstack⟩⟩ := commit_stack x s
    · exact ⟨by rw [hnames]; exact h.spent, by rw [hstack]; exact h.pinned⟩
    · exact ⟨by rw [hnames]; exact h.spent, by rw [hstack]; exact nofun⟩
  rollback s h := by
    obtain ⟨hnames, hstack⟩ := rollback_stack x s
    exact ⟨by rw [hnames]; exact h.spent, by rw [hstack]; exact nofun⟩

end Session.Pins

/-! ## Scopes -/

section Scopes

variable {σ α : Type}

/-- The first step of a scope that fails, with its error: opening the transaction or the savepoint, the body, or
closing the savepoint or the transaction. What undoes the scope is no step of it. -/
inductive Session.FirstFailure (x : Executor σ) (mode : Sql.LockMode) (body : Operation (Session σ) α) (s : Session σ) :
    Error → Prop where
  | begin {e : Error} (hs : s.stack = []) (h : (Session.begin x mode s).1 = .error e) : FirstFailure x mode body s e
  | savepoint {e : Error} {t : Session σ} (he : Session.enter x s.stack.isEmpty mode s = (.ok (), t))
    (h : (Session.savepoint x t).1 = .error e) : FirstFailure x mode body s e
  | body {e : Error} {name : String} {t u : Session σ} (he : Session.enter x s.stack.isEmpty mode s = (.ok (), t))
    (hs : Session.savepoint x t = (.ok name, u)) (h : (body u).1 = .error e) : FirstFailure x mode body s e
  | release {e : Error} {name : String} {a : α} {t u v : Session σ}
    (he : Session.enter x s.stack.isEmpty mode s = (.ok (), t))
    (hs : Session.savepoint x t = (.ok name, u)) (hb : body u = (.ok a, v))
    (h : (Session.release x name v).1 = .error e) : FirstFailure x mode body s e
  | commit {e : Error} {name : String} {a : α} {t u v w : Session σ} (hi : s.stack = [])
    (he : Session.enter x s.stack.isEmpty mode s = (.ok (), t)) (hs : Session.savepoint x t = (.ok name, u))
    (hb : body u = (.ok a, v)) (hr : Session.release x name v = (.ok (), w)) (h : (Session.commit x w).1 = .error e) :
    FirstFailure x mode body s e

variable (x : Executor σ) (mode : Sql.LockMode) {body : Operation (Session σ) α} {s : Session σ}

/-- A scope on an empty stack ends on an empty stack, whatever its body does. -/
theorem scope_stack_owned (body : Operation (Session σ) α) (hs : s.stack = []) :
    (Session.scope x mode body s).2.stack = [] := by
  have hundo : ∀ name t, (Session.undo x s.stack.isEmpty name t).stack = [] := by
    intro name t
    rw [hs]
    exact (rollback_stack x t).2
  have hrun := Session.scopeRun x mode body s
  generalize Session.scope x mode body s = r at hrun
  cases hrun with
  | notEntered h =>
    obtain ⟨-, h⟩ := enter_error h
    obtain ⟨-, ⟨-, hstack⟩ | ⟨hok, -⟩⟩ := begin_stack x s mode
    · rw [h, hs] at hstack
      exact hstack
    · rw [h] at hok
      cases hok
  | notSaved he h => exact hundo _ _
  | bodyFailed he hs' h => exact hundo _ _
  | notLeft he hs' hb h => exact hundo _ _
  | kept he hs' hb h =>
    obtain ⟨t, -, hcommit⟩ := leave_ok h
    rw [hs] at hcommit
    have hcommit : Session.commit x t = _ := hcommit
    obtain ⟨-, ⟨hfail, -⟩ | ⟨-, hstack⟩⟩ := commit_stack x t
    · exact absurd hfail (not_error_of_ok hcommit)
    · rw [hcommit] at hstack
      exact hstack

/-- While a body runs inside a scope, the savepoint of the scope pins the stack that the scope was entered on. -/
theorem savepoint_pins {name : String} {last : Nat} {u : Session σ} (hnames : s.names = .counter last)
    (hu : Session.savepoint x s = (.ok name, u)) :
    ∃ number depth, name = savepointName number depth ∧ Level.savepoint name ∉ s.stack ∧
      u.Pins s.stack number depth := by
  obtain ⟨number, hmint, -, hfresh⟩ := SavepointStack.mint_counter s.stack last
  obtain ⟨hspent, ⟨hfail, -⟩ | ⟨hname, hstack⟩⟩ := savepoint_stack x s
  · exact absurd hfail (not_error_of_ok hu)
  rw [hnames, hmint, hu] at hspent hname hstack
  have hname : name = savepointName number s.stack.length := by simpa using hname
  refine ⟨number, s.stack.length, hname, hname ▸ hfresh, ⟨number, hspent, Nat.le_refl _⟩, ?_⟩
  intro below hbelow
  rw [hstack, SavepointStack.below?_push] at hbelow
  exact (Option.some.inj hbelow).symm

/-- Undoing a nested scope takes the stack back to the levels its savepoint stands on, whatever the store refuses. -/
theorem undo_stack_nested {name : String} {outer : SavepointStack} {v : Session σ}
    (h : v.stack.below? name = some outer) :
    (Session.undo x false (some name) v).stack = outer := by
  have hlive := SavepointStack.isLive_of_below? h
  simp only [Session.undo, Bool.false_eq_true, if_false, hlive, if_true]
  rw [(rollbackTo_stack x v name).2, h]
  rfl

/-- In the session that the body of a nested scope ends in, the levels below its savepoint are those the scope was
entered on. -/
theorem below_savepoint_eq (hbody : Session.AnyBody x body) {last : Nat} (hnames : s.names = .counter last)
    {name : String} {u : Session σ} (hu : Session.savepoint x s = (.ok name, u)) {below : SavepointStack}
    (hbelow : (body u).2.stack.below? name = some below) : below = s.stack := by
  obtain ⟨number, depth, rfl, hfresh, hpins⟩ := savepoint_pins x hnames hu
  have hkeeps := hbody.keeps (I := Session.Pins s.stack number depth)
    (fun _ _ ho t ht => by
      rcases ho with ho | ho
      · exact (Session.Pins.invariant hfresh).onLevels ho t ht
      · exact ⟨(ho t).2 ▸ ht.spent, (ho t).1 ▸ ht.pinned⟩)
    (fun mode _ hb t ht => (Session.Pins.invariant hfresh).scope mode hb t ht)
  exact (hkeeps u hpins).pinned below hbelow

/-- A nested scope that succeeds, whose savepoint was refused, or whose savepoint is live when its body ends, leaves
the stack as it was. -/
theorem scope_stack_nested (hbody : Session.AnyBody x body) {last : Nat} (hnames : s.names = .counter last)
    (hs : s.stack ≠ []) (h : (∃ a, (Session.scope x mode body s).1 = .ok a) ∨
      (∃ e, (Session.savepoint x s).1 = .error e) ∨
      ∃ name u, Session.savepoint x s = (.ok name, u) ∧ (body u).2.stack.isLive name = true) :
    (Session.scope x mode body s).2.stack = s.stack := by
  have hrun := Session.nestedRun x mode body hs
  generalize Session.scope x mode body s = r at hrun h
  -- What a scope that fails after its savepoint goes back to.
  have hlive : ∀ {name u}, Session.savepoint x s = (.ok name, u) → (¬ ∃ a, r.1 = .ok a) →
      (body u).2.stack.below? name = some s.stack := by
    intro name u hu hno
    rcases h with hok | hfail | ⟨name', u', hu', hlive⟩
    · exact absurd hok hno
    · exact absurd hfail (not_error_of_ok hu)
    · rw [hu] at hu'
      obtain ⟨rfl, rfl⟩ : name = name' ∧ u = u' := by simpa using hu'
      obtain ⟨below, hbelow⟩ := Option.isSome_iff_exists.1 hlive
      rw [hbelow, below_savepoint_eq x hbody hnames hu hbelow]
  cases hrun with
  | notSaved hu =>
    obtain ⟨-, ⟨-, hstack⟩ | ⟨hok, -⟩⟩ := savepoint_stack x s
    · rw [hu] at hstack
      exact hstack
    · rw [hu] at hok
      cases hok
  | bodyFailed hu hb =>
    have hbelow := hlive hu nofun
    rw [hb] at hbelow
    exact undo_stack_nested x hbelow
  | @notReleased e name a u v w hu hb hr =>
    have hbelow := hlive hu nofun
    rw [hb] at hbelow
    obtain ⟨-, ⟨-, hstack⟩ | ⟨hok, -⟩⟩ := release_stack x v name
    · rw [hr] at hstack
      rw [← hstack] at hbelow
      exact undo_stack_nested x hbelow
    · rw [hr] at hok
      cases hok
  | @kept name a u v w hu hb hr =>
    obtain ⟨-, ⟨hfail, -⟩ | ⟨-, hstack⟩⟩ := release_stack x v name
    · exact absurd hfail (not_error_of_ok hr)
    · rw [hr] at hstack
      refine below_savepoint_eq x hbody hnames hu ?_
      rw [hb]
      exact hstack

/-- The error of a scope is that of the first of its steps that fails, never one of undoing it. -/
theorem scope_error_iff (body : Operation (Session σ) α) (e : Error) :
    (Session.scope x mode body s).1 = .error e ↔ Session.FirstFailure x mode body s e := by
  constructor
  · intro h
    have hrun := Session.scopeRun x mode body s
    generalize Session.scope x mode body s = r at hrun h
    cases hrun with
    | notEntered he =>
      obtain rfl := Except.error.inj h
      obtain ⟨hs, he⟩ := enter_error he
      refine .begin hs ?_
      rw [he]
    | notSaved he hu =>
      obtain rfl := Except.error.inj h
      refine .savepoint he ?_
      rw [hu]
    | bodyFailed he hu hb =>
      obtain rfl := Except.error.inj h
      refine .body he hu ?_
      rw [hb]
    | notLeft he hu hb hl =>
      obtain rfl := Except.error.inj h
      rcases leave_error hl with hr | ⟨t, hr, howner, hc⟩
      · refine .release he hu hb ?_
        rw [hr]
      · refine .commit (List.isEmpty_iff.1 howner) he hu hb hr ?_
        rw [hc]
    | kept he hu hb hl => cases h
  · intro h
    have ends : ∀ {γ : Type} {op : Operation (Session σ) γ} {t : Session σ}, (op t).1 = .error e →
        ∃ u, op t = (.error e, u) := fun h => ⟨_, Prod.ext h rfl⟩
    cases h with
    | begin hs h =>
      obtain ⟨t, ht⟩ := ends h
      have he : Session.enter x s.stack.isEmpty mode s = (.error e, t) := by
        rw [hs]
        exact ht
      simp only [Session.scope, he]
    | savepoint he h =>
      obtain ⟨u, hu⟩ := ends h
      simp only [Session.scope, he, hu]
    | body he hu h =>
      obtain ⟨v, hb⟩ := ends h
      simp only [Session.scope, he, hu, hb]
    | @release name a t u v he hu hb h =>
      obtain ⟨w, hr⟩ := ends h
      have hl : Session.leave x s.stack.isEmpty name v = (.error e, w) := by simp only [Session.leave, hr]
      simp only [Session.scope, he, hu, hb, hl]
    | @commit name a t u v w hi he hu hb hr h =>
      obtain ⟨k, hc⟩ := ends h
      have hl : Session.leave x s.stack.isEmpty name v = (.error e, k) := by
        simp only [Session.leave, hr, hi, List.isEmpty_nil, if_true, hc]
      simp only [Session.scope, he, hu, hb, hl]

/-- Scopes are balanced, for every body and whatever batches the store refuses, rollbacks included. A scope on an
empty stack ends on an empty stack. A nested one, with counted names, leaves the stack as it was when it succeeds,
when its savepoint is refused, and when its savepoint is live as its body ends. Either fails with the error of the
first step that failed. -/
theorem scope_balanced (hbody : Session.AnyBody x body) (s : Session σ) :
    (s.stack = [] → (Session.scope x mode body s).2.stack = []) ∧
      (∀ last, s.names = .counter last → s.stack ≠ [] →
        ((∃ a, (Session.scope x mode body s).1 = .ok a) ∨ (∃ e, (Session.savepoint x s).1 = .error e) ∨
          ∃ name u, Session.savepoint x s = (.ok name, u) ∧ (body u).2.stack.isLive name = true) →
        (Session.scope x mode body s).2.stack = s.stack) ∧
      ∀ e, (Session.scope x mode body s).1 = .error e ↔ Session.FirstFailure x mode body s e :=
  ⟨scope_stack_owned x mode body, fun _ hnames hs h => scope_stack_nested x mode hbody hnames hs h,
    scope_error_iff x mode body⟩

/-- On a store that refuses rollbacks, with a body that opens a savepoint of its own and fails: the stack is
restored, and the error is that of the body. -/
theorem scope_balanced_refusedRollback :
    let x : Executor Unit :=
      ⟨fun b store => (if b = .rollbackTo (savepointName 1 1) then .error (.custom "io") else .ok (), store)⟩
    let body : Operation (Session Unit) Unit := fun s => (.error (.custom "body"), (Session.savepoint x s).2)
    let s : Session Unit := ⟨[.transaction .deferred], .counter 0, ()⟩
    Session.AnyBody x body ∧ (Session.scope x .deferred body s).2.stack = s.stack ∧
      Session.FirstFailure x .deferred body s (.custom "body") := by
  intro x body s
  have hbody : Session.AnyBody x body :=
    .next (Session.savepoint x) (fun _ s => (.error (.custom "body"), s))
      (.basic (.inl (.onSavepoints .savepoint))) fun _ => .basic (.inr fun _ => ⟨rfl, rfl⟩)
  obtain ⟨-, hnested, herror⟩ := scope_balanced x .deferred hbody s
  refine ⟨hbody, hnested 0 rfl nofun (.inr (.inr ⟨_, _, rfl, ?_⟩)), (herror _).1 rfl⟩
  decide +kernel

end Scopes

end SqlMapper
