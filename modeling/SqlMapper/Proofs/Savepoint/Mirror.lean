import SqlMapper.Proofs.Savepoint.Invariant
import SqlMapper.Proofs.Savepoint.Refusals

/-!
# The stack mirrors the open levels

A session never asks the database which levels are open; it goes by its own stack. `Mirrors` says that the stack is
right: the same levels in the same order, and no batch rejected by the rules so far. Each operation keeps it,
whatever batches are refused beyond the rules, so it holds at every step of every script.

The stack compares names as they are, and the database compares them in any case. They agree because all names are
minted (`find?_of_below?`).
-/

namespace SqlMapper

/-- The stack lists the levels that are open in the database, of the same kinds and names and in the same order. A
transaction proper is outermost, all savepoints have minted names, and the rules have rejected nothing. -/
structure Mirrors (s : Session Unreliable) : Prop where
  levels : s.store.database.levels.map OpenLevel.name = s.stack.map Level.name?
  outermost : ∀ level ∈ s.stack.tail, level.name? ≠ none
  minted : ∀ name, Level.savepoint name ∈ s.stack → Minted name
  accepted : s.store.rejected = []

/-! ## Names -/

/-- The savepoint that the stack finds by a name is the one that the database finds. -/
theorem find?_of_below? {levels : List OpenLevel} {stack outer : SavepointStack} {name : String}
    (hl : levels.map OpenLevel.name = stack.map Level.name?)
    (hm : ∀ name, Level.savepoint name ∈ stack → Minted name) (h : stack.below? name = some outer) :
    ∃ outside l, OpenLevel.find? name levels = some (outside, l) ∧
      outside.map OpenLevel.name = outer.map Level.name? := by
  obtain ⟨inner, rfl, hinner⟩ := SavepointStack.below?_eq_some_iff.1 h
  rw [List.map_append, List.map_cons, List.map_eq_append_iff] at hl
  obtain ⟨outside, rest, rfl, houter, hrest⟩ := hl
  obtain ⟨l, inside, rfl, hname, hinside⟩ := List.map_eq_cons_iff.1 hrest
  refine ⟨outside, l, OpenLevels.find?_append outside ?_ ?_, houter⟩
  · simp [OpenLevel.isNamed, hname, Level.name?, Sql.sameWord]
  · intro k hk
    have hkn : k.name ∈ inner.map Level.name? := hinside ▸ List.mem_map_of_mem hk
    obtain ⟨level, hlevel, hkl⟩ := List.mem_map.1 hkn
    cases level with
    | transaction mode => simp [OpenLevel.isNamed, ← hkl, Level.name?]
    | savepoint other =>
      have hne : name ≠ other := fun e => hinner (e ▸ hlevel)
      have hn : Minted name := hm name (by simp)
      have ho : Minted other := hm other (by simp [hlevel])
      simp only [OpenLevel.isNamed, ← hkl, Level.name?, Option.map_some, Option.getD_some]
      rw [Bool.eq_false_iff]
      exact fun hs => hne ((sameWord_iff_eq_of_minted hn ho).1 hs)

/-! ## One operation -/

namespace Mirrors

variable {f : Refusals} {s : Session Unreliable}

/-- No level is open in the database when the stack is empty. -/
theorem levels_eq_nil_iff (h : Mirrors s) : s.store.database.levels = [] ↔ s.stack = [] := by
  rw [← List.map_eq_nil_iff (f := OpenLevel.name), h.levels, List.map_eq_nil_iff]

/-- A batch that is refused or done keeps the mirror, when it would be kept with the batch done. -/
theorem of_answer (h : Mirrors s) {b : Batch} {db : Database} {stack : SavepointStack}
    (hrun : f.executor.run b s.store = f.answer s.store db)
    (hdone : Mirrors { s with stack, store := { s.store with database := db } }) :
    (∃ e t, Session.send f.executor b s = (.error e, t) ∧ Mirrors t) ∨
      ∃ u, Session.send f.executor b s = (.ok (), { s with store := u }) ∧ Mirrors { s with stack, store := u } := by
  unfold Session.send
  rw [hrun]
  unfold Refusals.answer
  cases f.batches s.store.asked with
  | some e => exact Or.inl ⟨e, _, rfl, h.levels, h.outermost, h.minted, h.accepted⟩
  | none => exact Or.inr ⟨_, rfl, hdone.levels, hdone.outermost, hdone.minted, hdone.accepted⟩

/-- The levels outside one that is open are still those of the stack outside it. -/
theorem close (h : Mirrors s) {name : String} {outer : SavepointStack} (hb : s.stack.below? name = some outer)
    {outside : List OpenLevel} (ho : outside.map OpenLevel.name = outer.map Level.name?) (tables : Tables) :
    Mirrors { s with
      stack := outer
      store := { s.store with database := { s.store.database with tables, levels := outside } } } := by
  obtain ⟨inner, hs, -⟩ := SavepointStack.below?_eq_some_iff.1 hb
  have hsub : outer.Sublist s.stack := by rw [hs]; exact List.sublist_append_left _ _
  exact ⟨ho, fun level hl => h.outermost level (hsub.tail.subset hl),
    fun n hn => h.minted n (hsub.subset hn), h.accepted⟩

/-- Closing all levels empties the stack. -/
theorem closeAll (h : Mirrors s) (tables : Tables) :
    Mirrors { s with
      stack := []
      store := { s.store with database := { s.store.database with tables, levels := [] } } } :=
  ⟨rfl, by simp, by simp, h.accepted⟩

/-- A transaction is opened on an empty stack only. -/
theorem begin (h : Mirrors s) (mode : Sql.LockMode) : Mirrors (Session.begin f.executor mode s).2 := by
  unfold Session.begin
  split
  · rename_i hidle
    have hidle : s.stack = [] := List.isEmpty_iff.1 hidle
    have hdone : Mirrors { s with
        stack := s.stack ++ [.transaction mode]
        store := { s.store with
          database := { s.store.database with levels := [⟨none, s.store.database.tables⟩] } } } :=
      ⟨by simp [hidle, Level.name?], by simp [hidle], by simp [hidle], h.accepted⟩
    rcases h.of_answer (run_begin f mode (h.levels_eq_nil_iff.2 hidle)) hdone with ⟨e, t, ht, hk⟩ | ⟨u, hu, hk⟩
    · simp only [ht]
      exact hk
    · simp only [hu]
      exact hk
  · exact h

/-- A savepoint is opened under a minted name. -/
theorem savepoint (h : Mirrors s) : Mirrors (Session.savepoint f.executor s).2 := by
  unfold Session.savepoint
  have hn := mintedAt_mint s.stack.length (SavepointStack.isLive s.stack) s.stack.length s.names
  generalize s.names.mint s.stack.length (SavepointStack.isLive s.stack) s.stack.length = minted at hn ⊢
  have hdone : Mirrors { s with
      stack := s.stack ++ [.savepoint minted.1]
      names := minted.2
      store := { s.store with
        database := { s.store.database with
          levels := s.store.database.levels ++ [⟨some minted.1, s.store.database.tables⟩] } } } := by
    refine ⟨by simp [h.levels, Level.name?], ?_, ?_, h.accepted⟩
    · intro level hl
      rw [List.tail_append] at hl
      split at hl
      · cases hl
      · rcases List.mem_append.1 hl with hl | hl
        · exact h.outermost level hl
        · simp [List.mem_singleton.1 hl, Level.name?]
    · intro name hname
      rcases List.mem_append.1 hname with hname | hname
      · exact h.minted name hname
      · simp only [List.mem_singleton, Level.savepoint.injEq] at hname
        exact ⟨_, hname ▸ hn⟩
  have h' : Mirrors { s with names := minted.2 } := ⟨h.levels, h.outermost, h.minted, h.accepted⟩
  rcases h'.of_answer (run_savepoint f ⟨_, hn⟩) hdone with ⟨e, t, ht, hk⟩ | ⟨u, hu, hk⟩
  · simp only [ht]
    exact hk
  · simp only [hu]
    exact hk

theorem release (h : Mirrors s) (name : String) : Mirrors (Session.release f.executor name s).2 := by
  unfold Session.release
  cases hb : s.stack.below? name with
  | none => exact h
  | some outer =>
    have hlive := SavepointStack.mem_of_below? hb
    obtain ⟨outside, l, hfind, houter⟩ := find?_of_below? h.levels h.minted hb
    rcases h.of_answer (run_release f (h.minted name hlive) hfind) (h.close hb houter _) with ⟨e, t, ht,
      hk⟩ | ⟨u, hu, hk⟩
    · simp only [ht]
      exact hk
    · simp only [hu]
      exact hk

theorem commit (h : Mirrors s) : Mirrors (Session.commit f.executor s).2 := by
  unfold Session.commit
  split
  · exact h
  · rename_i hopen
    have hopen : s.store.database.levels ≠ [] := fun e => hopen (by rw [h.levels_eq_nil_iff.1 e]; rfl)
    rcases h.of_answer (run_commit f hopen) (h.closeAll _) with ⟨e, t, ht, hk⟩ | ⟨u, hu, hk⟩
    · simp only [ht]
      exact hk
    · simp only [hu]
      exact hk

theorem rollback (h : Mirrors s) : Mirrors (Session.rollback f.executor s).2 := by
  unfold Session.rollback
  split
  · exact h
  · rename_i hopen
    have hopen : s.store.database.levels ≠ [] := fun e => hopen (by rw [h.levels_eq_nil_iff.1 e]; rfl)
    obtain ⟨l, inner, hl⟩ := List.exists_cons_of_ne_nil hopen
    unfold Session.send
    rw [run_rollback f hl]
    exact h.closeAll l.before

/-- A rollback to a savepoint closes it in the database too, unless the batch is cut short. -/
theorem rollbackTo (h : Mirrors s) (name : String) (hf : ∀ k, f.followers k = none) :
    Mirrors (Session.rollbackTo f.executor name s).2 := by
  unfold Session.rollbackTo
  cases hb : s.stack.below? name with
  | none => exact h
  | some outer =>
    have hlive := SavepointStack.mem_of_below? hb
    obtain ⟨outside, l, hfind, houter⟩ := find?_of_below? h.levels h.minted hb
    have hclosed := h.close hb houter l.before
    simp only [Session.send, run_rollbackTo f (h.minted name hlive) hfind, hf]
    exact ⟨hclosed.levels, hclosed.outermost, hclosed.minted, hclosed.accepted⟩

/-- No operation breaks the mirror, whatever batches are refused. -/
theorem invariant (batches : Nat → Option Error) :
    Session.Invariant (Refusals.ofBatches batches).executor Mirrors where
  begin mode _ h := h.begin mode
  savepoint _ h := h.savepoint
  release name _ h := h.release name
  rollbackTo name _ h := h.rollbackTo name fun _ => rfl
  commit _ h := h.commit
  rollback _ h := h.rollback

/-- Nothing is open and nothing was rejected on an idle session over an idle database. -/
theorem idle (naming : SavepointNaming) {db : Database} (h : db.levels = []) :
    Mirrors (Session.idle naming (.fresh db)) :=
  ⟨by simp [Session.idle, Unreliable.fresh, h], by simp [Session.idle], by simp [Session.idle], rfl⟩

end Mirrors

/-! ## What is seen of a mirror -/

/-- The levels that a view tells of: the transaction, where the depth counts one, and the savepoints by their names. -/
def View.levels {ω : Type} (v : View ω) : List (Option String) :=
  List.replicate (v.depth - v.savepoints.length) none ++ v.savepoints.map some

/-- Levels that are all savepoints are known by their names. -/
theorem map_some_names {stack : SavepointStack} (h : ∀ level ∈ stack, level.name? ≠ none) :
    stack.names.map some = stack.map Level.name? := by
  induction stack with
  | nil => rfl
  | cons level stack ih =>
    have ih := ih fun k hk => h k (List.mem_cons_of_mem _ hk)
    obtain ⟨name, hname⟩ := Option.ne_none_iff_exists'.1 (h level List.mem_cons_self)
    simp only [SavepointStack.names, List.filterMap_cons, hname, List.map_cons] at ih ⊢
    rw [ih]

/-- A stack with at most its outermost level a transaction is known by its depth and the names on it. -/
theorem levels_of_outermost {ω : Type} {stack : SavepointStack}
    (h : ∀ level ∈ stack.tail, level.name? ≠ none) (seen : ω) :
    View.levels ⟨stack.length, stack.names, seen⟩ = stack.map Level.name? := by
  cases stack with
  | nil => rfl
  | cons level stack =>
    have hnames : (SavepointStack.names stack).map some = stack.map Level.name? := map_some_names h
    have hlen := congrArg List.length hnames
    rw [List.length_map, List.length_map] at hlen
    cases level with
    | transaction mode =>
      have e : SavepointStack.names (.transaction mode :: stack) = SavepointStack.names stack := rfl
      simp only [View.levels, e, hnames, hlen, List.length_cons, Nat.add_sub_cancel_left, List.map_cons]
      rfl
    | savepoint name =>
      have e : SavepointStack.names (.savepoint name :: stack) = name :: SavepointStack.names stack := rfl
      simp only [View.levels, e, hnames, hlen, List.length_cons, Nat.sub_self, List.map_cons]
      rfl

/-- A view that agrees with the database it was taken of. -/
structure View.Agrees (v : View Unreliable) : Prop where
  levels : v.levels = v.seen.database.levels.map OpenLevel.name
  idle : v.depth = 0 ↔ v.seen.database.isIdle = true
  accepted : v.seen.rejected = []

namespace Mirrors

/-- A mirror is seen to be one. -/
theorem agrees {s : Session Unreliable} (h : Mirrors s) (f : Refusals) (β : Type) : ((f.stage β id).view s).Agrees where
  levels := by
    rw [Stage.view, levels_of_outermost h.outermost]
    exact h.levels.symm
  idle := by
    simp only [Stage.view, Refusals.stage, id, Database.isIdle, List.isEmpty_iff, h.levels_eq_nil_iff,
      List.length_eq_zero_iff]
  accepted := h.accepted

/-- Neither batches nor changes break the mirror, and it is seen at every step. -/
theorem stage_invariant (batches : Nat → Option Error) (β : Type) :
    ((Refusals.ofBatches batches).stage β id).Invariant Mirrors View.Agrees where
  operations := Mirrors.invariant batches
  act _ _ h := ⟨h.levels, h.outermost, h.minted, h.accepted⟩
  look _ h := h
  seen _ h := h.agrees _ β

end Mirrors

/-- However often batches are refused, and whatever a script does with levels, by whatever names and inside whatever
scopes: at each of its steps the session lists exactly the levels that are open in the database, and nothing it has
sent was ever against the rules of the database. -/
theorem stack_mirrors_levels {β : Type} (naming : SavepointNaming) (batches : Nat → Option Error) {db : Database}
    (h : db.isIdle = true) (steps : List (Step (Change β))) :
    let r := ((Refusals.ofBatches batches).stage β id).records steps (Session.idle naming (.fresh db))
    (∀ v ∈ Record.viewsOf r.1, v.Agrees) ∧
      r.2.stack.map Level.name? = r.2.store.database.levels.map OpenLevel.name ∧
      (r.2.stack = [] ↔ r.2.store.database.isIdle = true) ∧ r.2.store.rejected = [] := by
  have hidle := Mirrors.idle naming (List.isEmpty_iff.1 h)
  obtain ⟨hend, hviews⟩ := Stage.records_invariant (Mirrors.stage_invariant batches β) steps _ hidle
  refine ⟨hviews, hend.levels.symm, ?_, hend.accepted⟩
  rw [Database.isIdle, List.isEmpty_iff, hend.levels_eq_nil_iff]

/-- A database in memory is idle at first: on it the mirror holds after a refused release, inside a scope as well. -/
theorem stack_mirrors_levels_inMemory :
    (Database.empty none .inMemory).isIdle = true ∧
      ∀ v ∈ Record.viewsOf
        (((Refusals.ofBatches fun k => if k = 2 then some (.custom "busy") else none).stage Unit id).records [.save,
          .scope false .immediate none [.release (.minted 0), .save], .rollback]
        (Session.idle .counter (.fresh (Database.empty none .inMemory)))).1, v.Agrees :=
  ⟨rfl, (stack_mirrors_levels .counter (fun k => if k = 2 then some (.custom "busy") else none) rfl
    [.save, .scope false .immediate none [.release (.minted 0), .save], .rollback]).1⟩

end SqlMapper
