import SqlMapper.Proofs.Savepoint.AllOrNothing
import SqlMapper.Proofs.Savepoint.Depths
import SqlMapper.Proofs.Savepoint.Owner

/-!
# A rollback to a savepoint restores its moment

While a savepoint stays open, other levels come and go on top of it, in the session and in the database. What may be
on top of given levels is told by `Grown`: savepoints under names that were minted for their depths, in the database
also such as were rolled back to and could not be released. None of them is at the depth of a level below, so no
name of theirs means a level below. The levels that were open when the savepoint was opened are therefore found by
its name, with the tables there were (`Session.Since`). Steps keep this, and so does every run throughout which the
savepoint stays open.
-/

namespace SqlMapper

/-! ## What may be on top of given levels -/

/-- A level that is put on top does not come between another name and its levels. -/
theorem SavepointStack.below?_push_of_ne {name top : String} (h : top ≠ name) (stack : SavepointStack) :
    SavepointStack.below? name (stack ++ [.savepoint top]) = stack.below? name := by
  induction stack with
  | nil => simp [SavepointStack.below?, h]
  | cons level stack ih => rw [List.cons_append, SavepointStack.below?_cons, ih, ← SavepointStack.below?_cons]

/-- One more level that was minted for a depth may linger there with others. -/
theorem lingers_push {depth d : Nat} {extra : List OpenLevel} {name : String} (hx : ∀ l ∈ extra, l.Lingers depth)
    (hpos : 0 < depth) (hd : depth ≤ d) (hn : MintedAt d name) (before : Tables) :
    ∀ l ∈ extra ++ [⟨some name, before⟩], l.Lingers depth := by
  intro l hl
  rcases List.mem_append.1 hl with hl | hl
  · exact hx l hl
  · rw [List.mem_singleton.1 hl]
    exact ⟨hpos, d, name, hd, hn, rfl⟩

/-- A stack and the levels of a database that have grown from given ones: savepoints were opened on top. Some may be
left behind in the database, if `left` is the case. -/
inductive Grown (left : Prop) (stack₀ : SavepointStack) (levels₀ : List OpenLevel) : SavepointStack →
    List OpenLevel → Prop where
  | base : Grown left stack₀ levels₀ stack₀ levels₀
  | savepoint {stack : SavepointStack} {levels : List OpenLevel} {name : String} (before : Tables)
    (h : Grown left stack₀ levels₀ stack levels) (hn : MintedAt stack.length name) :
    Grown left stack₀ levels₀ (stack ++ [.savepoint name]) (levels ++ [⟨some name, before⟩])
  | leftover {stack : SavepointStack} {levels : List OpenLevel} {name : String} (before : Tables)
    (h : Grown left stack₀ levels₀ stack levels) (hn : MintedAt stack.length name) (hleft : left) :
    Grown left stack₀ levels₀ stack (levels ++ [⟨some name, before⟩])

namespace Grown

variable {left : Prop} {stack₀ stack outer : SavepointStack} {levels₀ levels : List OpenLevel} {name : String}

/-- The given stack is still there. -/
theorem stack_prefix (h : Grown left stack₀ levels₀ stack levels) : stack₀ <+: stack := by
  induction h with
  | base => exact List.prefix_rfl
  | savepoint before h hn ih => exact ih.trans (List.prefix_append _ _)
  | leftover before h hn hleft ih => exact ih

/-- The given levels are still there, and what is on top of them may linger at their depth. -/
theorem levels_on_top (h : Grown left stack₀ levels₀ stack levels) (hpos : 0 < stack₀.length) :
    ∃ extra, levels = levels₀ ++ extra ∧ ∀ l ∈ extra, l.Lingers stack₀.length := by
  induction h with
  | base => exact ⟨[], by simp, by simp⟩
  | @savepoint stack levels name before h hn ih =>
    obtain ⟨extra, rfl, hx⟩ := ih
    exact ⟨extra ++ [⟨some name, before⟩], by simp, lingers_push hx hpos h.stack_prefix.length_le hn before⟩
  | @leftover stack levels name before h hn hleft ih =>
    obtain ⟨extra, rfl, hx⟩ := ih
    exact ⟨extra ++ [⟨some name, before⟩], by simp, lingers_push hx hpos h.stack_prefix.length_le hn before⟩

/-- Where nothing is left behind, the stack lists the levels of the database if it listed the given ones. -/
theorem map_name (h : Grown False stack₀ levels₀ stack levels)
    (h₀ : levels₀.map OpenLevel.name = stack₀.map Level.name?) :
    levels.map OpenLevel.name = stack.map Level.name? := by
  induction h with
  | base => exact h₀
  | savepoint before h hn ih => simp [ih, Level.name?]
  | leftover before h hn hleft => exact hleft.elim

/-- A stack with levels has levels in the database, if the given one has. -/
theorem levels_ne_nil (h : Grown left stack₀ levels₀ stack levels) (h₀ : stack₀ ≠ [] → levels₀ ≠ []) (hs : stack ≠ []) :
    levels ≠ [] := by
  cases h with
  | base => exact h₀ hs
  | savepoint => simp
  | leftover => simp

/-- A savepoint on top of the given levels was minted for its depth. In the database the levels inside it may linger
at a greater depth, and those outside it have grown from the given ones too. -/
theorem split (h : Grown left stack₀ levels₀ stack levels) (hb : stack.below? name = some outer)
    (hle : stack₀.length ≤ outer.length) :
    MintedAt outer.length name ∧ ∃ outside before inside, Grown left stack₀ levels₀ outer outside ∧
      levels = outside ++ ⟨some name, before⟩ :: inside ∧ ∀ l ∈ inside, l.Lingers (outer.length + 1) := by
  induction h with
  | base =>
    obtain ⟨inner, hs, -⟩ := SavepointStack.below?_eq_some_iff.1 hb
    have hlen := congrArg List.length hs
    simp only [List.length_append, List.length_cons] at hlen
    omega
  | @savepoint stack levels top before h hn ih =>
    by_cases htop : top = name
    · subst htop
      rw [SavepointStack.below?_push] at hb
      obtain rfl := Option.some.inj hb
      exact ⟨hn, levels, before, [], h, rfl, by simp⟩
    · rw [SavepointStack.below?_push_of_ne htop] at hb
      obtain ⟨hname, outside, before', inside, hgrown, rfl, hx⟩ := ih hb
      obtain ⟨inner, rfl, -⟩ := SavepointStack.below?_eq_some_iff.1 hb
      exact ⟨hname, outside, before', inside ++ [⟨some top, before⟩], hgrown, by simp,
        lingers_push hx (Nat.succ_pos _) (by simp) hn before⟩
  | @leftover stack levels top before h hn hleft ih =>
    obtain ⟨hname, outside, before', inside, hgrown, rfl, hx⟩ := ih hb
    obtain ⟨inner, rfl, -⟩ := SavepointStack.below?_eq_some_iff.1 hb
    exact ⟨hname, outside, before', inside ++ [⟨some top, before⟩], hgrown, by simp,
      lingers_push hx (Nat.succ_pos _) (by simp) hn before⟩

/-- A savepoint on top of the given levels is found in the database by its name. -/
theorem find?_of_below? (h : Grown left stack₀ levels₀ stack levels) (hb : stack.below? name = some outer)
    (hle : stack₀.length ≤ outer.length) :
    MintedAt outer.length name ∧ ∃ outside before, Grown left stack₀ levels₀ outer outside ∧
      OpenLevel.find? name levels = some (outside, ⟨some name, before⟩) := by
  obtain ⟨hname, outside, before, inside, hgrown, rfl, hx⟩ := h.split hb hle
  exact ⟨hname, outside, before, hgrown, find?_scope hname outside inside before hx⟩

end Grown

/-! ## Steps on top of given levels -/

section Submitted

variable {f : Refusals} {s : Sql.Statement} {step : DatabaseStep Unit} {u v : Unreliable}

/-- A statement about levels that fails leaves the database as it was. -/
theorem database_of_submit_error (h : s.levelStep? = some step) {e : Error} (hr : f.submit s u = (.error e, v)) :
    v.database = u.database := by
  rcases submit_levelStep f h u with ⟨-, hdb⟩ | ⟨hok, -⟩
  · rwa [hr] at hdb
  · rw [hr] at hok
    cases hok

/-- A statement about levels that succeeds has done its step. -/
theorem step_of_submit_ok (h : s.levelStep? = some step) (hr : f.submit s u = (.ok (), v)) :
    step u.database = (.ok (), v.database) := by
  rcases submit_levelStep f h u with ⟨⟨e, he⟩, -⟩ | ⟨-, hstep⟩
  · rw [hr] at he
    cases he
  · rwa [hr] at hstep

end Submitted

namespace Grown

variable {f : Refusals} {left : Prop} {stack₀ : SavepointStack} {levels₀ : List OpenLevel} {s t : Session Unreliable}

/-- A refused batch leaves levels that have grown from given ones, when it does not cut into those. -/
theorem refused (h : Grown left stack₀ levels₀ s.stack s.store.database.levels)
    (hf : ∀ k e, f.followers k = some e → left) (h₀ : stack₀ ≠ [] → levels₀ ≠ []) {b : Batch}
    {kept closed : SavepointStack} {names : NameSource} {e : Error} {store : Unreliable}
    (hb : s.Sends b kept closed names) (hr : f.executor.run b s.store = (.error e, store))
    (hle : ∀ name outer, s.stack.below? name = some outer → kept = outer → stack₀.length ≤ outer.length) :
    Grown left stack₀ levels₀ kept store.database.levels := by
  cases hb with
  | begin mode hidle =>
    rw [hidle] at h
    rwa [database_of_submit_error (s := .begin mode) rfl hr]
  | savepoint hm => rwa [database_of_submit_error (s := .savepoint _) rfl hr]
  | release hb => rwa [database_of_submit_error (s := .release _) rfl hr]
  | rollbackTo hb =>
    obtain ⟨hn, outside, before, hgrown, hfind⟩ := h.find?_of_below? hb (hle _ _ hb rfl)
    rw [run_rollbackTo f ⟨_, hn⟩ hfind] at hr
    split at hr
    · rename_i e hfollow
      obtain ⟨-, rfl⟩ := Prod.mk.inj hr
      exact hgrown.leftover before hn (hf _ e hfollow)
    · cases (Prod.mk.inj hr).1
  | commit => rwa [database_of_submit_error (s := .commit) rfl hr]
  | rollback hopen =>
    obtain ⟨l, inner, hl⟩ := List.exists_cons_of_ne_nil (h.levels_ne_nil h₀ hopen)
    rw [run_rollback f hl] at hr
    cases (Prod.mk.inj hr).1

/-- A batch that is done leaves levels that have grown from given ones, when it does not cut into those, or it
closes all, or it opens a transaction where none was open. -/
theorem done (h : Grown left stack₀ levels₀ s.stack s.store.database.levels)
    (h₀ : stack₀ ≠ [] → levels₀ ≠ []) {b : Batch} {kept closed : SavepointStack} {names : NameSource}
    {store : Unreliable} (hb : s.Sends b kept closed names) (hr : f.executor.run b s.store = (.ok (), store))
    (hle : ∀ name outer, s.stack.below? name = some outer → closed = outer → stack₀.length ≤ outer.length) :
    Grown left stack₀ levels₀ closed store.database.levels ∨ closed = [] ∧ store.database.levels = [] ∨
      ∃ mode before, closed = [.transaction mode] ∧ store.database.levels = [⟨none, before⟩] := by
  cases hb with
  | begin mode hidle =>
    have hdone := step_of_submit_ok (s := .begin mode) rfl hr
    unfold Database.begin at hdone
    split at hdone
    · rw [← (Prod.mk.inj hdone).2]
      exact .inr (.inr ⟨mode, _, rfl, rfl⟩)
    · cases (Prod.mk.inj hdone).1
  | @savepoint name names hm =>
    have hn := mintedAt_mint s.stack.length s.stack.isLive s.stack.length s.names
    rw [hm] at hn
    have hdone := step_of_submit_ok (s := .savepoint name) rfl hr
    rw [← (Prod.mk.inj hdone).2]
    exact .inl (h.savepoint _ hn)
  | release hb =>
    obtain ⟨hn, outside, before, hgrown, hfind⟩ := h.find?_of_below? hb (hle _ _ hb rfl)
    have hdone := step_of_submit_ok (s := .release _) rfl hr
    simp only [Database.release, hfind] at hdone
    rw [← (Prod.mk.inj hdone).2]
    exact .inl hgrown
  | rollbackTo hb =>
    obtain ⟨hn, outside, before, hgrown, hfind⟩ := h.find?_of_below? hb (hle _ _ hb rfl)
    rw [run_rollbackTo f ⟨_, hn⟩ hfind] at hr
    split at hr
    · cases (Prod.mk.inj hr).1
    · obtain ⟨-, rfl⟩ := Prod.mk.inj hr
      exact .inl hgrown
  | commit =>
    have hdone := step_of_submit_ok (s := .commit) rfl hr
    unfold Database.commit at hdone
    split at hdone
    · cases (Prod.mk.inj hdone).1
    · rw [← (Prod.mk.inj hdone).2]
      exact .inr (.inl ⟨rfl, rfl⟩)
  | rollback hopen =>
    obtain ⟨l, inner, hl⟩ := List.exists_cons_of_ne_nil (h.levels_ne_nil h₀ hopen)
    rw [run_rollback f hl] at hr
    obtain ⟨-, rfl⟩ := Prod.mk.inj hr
    exact .inr (.inl ⟨rfl, rfl⟩)

/-- What a step makes of levels that have grown from given ones, when it does not cut into those: it leaves some
that have grown from them too, or it closes all, or it opens a transaction where none was open. -/
theorem step (h : Grown left stack₀ levels₀ s.stack s.store.database.levels) (hf : ∀ k e, f.followers k = some e → left)
    (h₀ : stack₀ ≠ [] → levels₀ ≠ []) (hstep : Session.Step f.executor s t)
    (hle : ∀ name outer, s.stack.below? name = some outer → t.stack = outer → stack₀.length ≤ outer.length) :
    Grown left stack₀ levels₀ t.stack t.store.database.levels ∨ t.stack = [] ∧ t.store.database.levels = [] ∨
      ∃ mode before, t.stack = [.transaction mode] ∧ t.store.database.levels = [⟨none, before⟩] := by
  cases hstep with
  | none => exact .inl h
  | refused hb hr => exact .inl (h.refused hf h₀ hb hr hle)
  | done hb hr => exact h.done h₀ hb hr hle

end Grown

/-! ## All levels of a session -/

/-- The levels of a session over a database: savepoints on an empty stack, or on a transaction, and some left behind
in the database if `left` is the case. -/
def Session.Layered (left : Prop) (s : Session Unreliable) : Prop :=
  Grown left [] [] s.stack s.store.database.levels ∨
    ∃ mode before, Grown left [.transaction mode] [⟨none, before⟩] s.stack s.store.database.levels

namespace Session.Layered

variable {f : Refusals} {left : Prop} {s t : Session Unreliable}

theorem idle (hs : s.stack = []) (hl : s.store.database.levels = []) : s.Layered left := by
  refine .inl ?_
  rw [hs, hl]
  exact .base

theorem transaction {mode : Sql.LockMode} {before : Tables} (hs : s.stack = [.transaction mode])
    (hl : s.store.database.levels = [⟨none, before⟩]) : s.Layered left := by
  refine .inr ⟨mode, before, ?_⟩
  rw [hs, hl]
  exact .base

/-- The levels are those of a stack and a database, whatever else changes. -/
theorem of_same_levels (h : s.Layered left) (hs : t.stack = s.stack)
    (hl : t.store.database.levels = s.store.database.levels) : t.Layered left := by
  rw [Session.Layered, hs, hl]
  exact h

/-- Every step leaves the levels of a session. -/
theorem step (h : s.Layered left) (hf : ∀ k e, f.followers k = some e → left) (hstep : Session.Step f.executor s t) :
    t.Layered left := by
  have hrest : t.stack = [] ∧ t.store.database.levels = [] ∨
      (∃ mode before, t.stack = [.transaction mode] ∧ t.store.database.levels = [⟨none, before⟩]) → t.Layered left := by
    rintro (⟨hs, hl⟩ | ⟨mode, before, hs, hl⟩)
    · exact idle hs hl
    · exact transaction hs hl
  rcases h with h | ⟨mode, before, h⟩
  · rcases h.step hf (by simp) hstep (fun _ _ _ _ => Nat.zero_le _) with h | h
    · exact .inl h
    · exact hrest h
  · -- The transaction is no savepoint, so it is outside every savepoint that is open.
    have hle : ∀ name outer, s.stack.below? name = some outer → t.stack = outer → 1 ≤ outer.length := by
      intro name outer hb _
      obtain ⟨rest, hrest⟩ := h.stack_prefix
      obtain ⟨inner, hinner, -⟩ := SavepointStack.below?_eq_some_iff.1 hb
      cases outer with
      | nil => simp [← hrest] at hinner
      | cons => simp
    rcases h.step hf (by simp) hstep hle with h | h
    · exact .inr ⟨mode, before, h⟩
    · exact hrest h

theorem invariant (hf : ∀ k e, f.followers k = some e → left) : Session.Invariant f.executor (Session.Layered left) :=
  .of_step fun hstep h => h.step hf hstep

/-- Where nothing is left behind, the stack lists the levels that are open in the database. -/
theorem map_name (h : s.Layered False) : s.store.database.levels.map OpenLevel.name = s.stack.map Level.name? := by
  rcases h with h | ⟨mode, before, h⟩
  · exact h.map_name rfl
  · exact h.map_name rfl

end Session.Layered

/-! ## Runs over a database -/

/-- A run over a database. The calls beside the levels may change anything else, as a change of the tables does. -/
abbrev Session.DatabaseRun (f : Refusals) (P : Session Unreliable → Prop) (s t : Session Unreliable) : Prop :=
  Session.Run f.executor (Session.Call f.executor fun _ op => Session.BesideLevels op) P s t

/-- An invariant that depends on the levels only is kept by every run over a database. -/
theorem Session.Invariant.run_database {f : Refusals} {I P : Session Unreliable → Prop}
    (h : Session.Invariant f.executor I) (hbeside : ∀ {s t : Session Unreliable}, t.stack = s.stack →
      t.store.database.levels = s.store.database.levels → I s → I t)
    {s t : Session Unreliable} (hrun : Session.DatabaseRun f P s t) (hs : I s) : I t :=
  h.run (fun _ _ ho v hv => hbeside (ho v).1 (ho v).2 hv) hrun hs

/-! ## Since a savepoint was opened -/

/-- What a session may be when a savepoint that was opened in another is still open: the levels of the other are
below the savepoint, which has its tables. -/
structure Session.Since (s : Session Unreliable) (name : String) (u : Session Unreliable) : Prop where
  grown : Grown True (s.stack ++ [.savepoint name])
    (s.store.database.levels ++ [⟨some name, s.store.database.tables⟩]) u.stack
    u.store.database.levels
  placed : u.stack.Placed

namespace Session.Since

variable {f : Refusals} {s t u v : Session Unreliable} {name : String}

/-- The savepoint was minted for the number of levels below it. -/
theorem mintedAt (h : s.Since name u) : MintedAt s.stack.length name := by
  obtain ⟨inner, hinner⟩ := h.grown.stack_prefix
  exact h.placed.minted s.stack.length name (by simp [← hinner])

/-- An open savepoint of the name has as many levels below it. -/
theorem length_below (h : s.Since name u) {stack outer : SavepointStack} (hp : stack.Placed)
    (hb : stack.below? name = some outer) : outer.length = s.stack.length := by
  obtain ⟨n, hn⟩ := hp.mintedAt hb
  obtain ⟨m, hm⟩ := h.mintedAt
  exact (savepointName_inj (hn.symm.trans hm)).2

/-- In the stack, the name means the savepoint on top of the levels there were. -/
theorem below? (h : s.Since name u) : u.stack.below? name = some s.stack := by
  obtain ⟨inner, hinner⟩ := h.grown.stack_prefix
  have hlive : u.stack.isLive name = true := by
    rw [SavepointStack.isLive_iff, ← hinner]
    simp
  obtain ⟨outer, hb⟩ := Option.isSome_iff_exists.1 hlive
  obtain ⟨rest, hrest, -⟩ := SavepointStack.below?_eq_some_iff.1 hb
  rw [← hinner, List.append_assoc] at hrest
  rw [hb, (List.append_inj hrest (h.length_below h.placed hb).symm).1]

/-- In the database, the name means the level on top of those there were, with the tables there were. -/
theorem find? (h : s.Since name u) : OpenLevel.find? name u.store.database.levels =
    some (s.store.database.levels, ⟨some name, s.store.database.tables⟩) := by
  obtain ⟨extra, hextra, hx⟩ := h.grown.levels_on_top (by simp)
  rw [hextra, List.append_assoc, List.singleton_append]
  rw [List.length_append, List.length_singleton] at hx
  exact find?_scope h.mintedAt _ extra _ hx

/-- A savepoint is opened on top of the levels there are, with the tables there are. -/
theorem opened (hp : s.stack.Placed) {names : NameSource} {store : Unreliable}
    (hm : s.names.mint s.stack.length s.stack.isLive s.stack.length = (name, names))
    (hr : f.executor.run (.savepoint name) s.store = (.ok (), store)) :
    s.Since name ⟨s.stack ++ [.savepoint name], names, store⟩ := by
  have hdone := step_of_submit_ok (s := .savepoint name) rfl hr
  refine ⟨?_, ((Session.Sends.savepoint hm).placed hp).2⟩
  rw [← (Prod.mk.inj hdone).2]
  exact .base

/-- A step after which the savepoint is open leaves what there was before the savepoint as it is. -/
theorem step (h : s.Since name u) (hstep : Session.Step f.executor u v) (hlive : v.stack.isLive name = true) :
    s.Since name v := by
  have hplaced : v.stack.Placed := hstep.placed h.placed
  obtain ⟨outer, hb⟩ := Option.isSome_iff_exists.1 hlive
  obtain ⟨inner, hinner, -⟩ := SavepointStack.below?_eq_some_iff.1 hb
  have hlen : (s.stack ++ [Level.savepoint name]).length ≤ v.stack.length := by
    simp [hinner, h.length_below hplaced hb]
  rcases h.grown.step (fun _ _ _ => trivial) (by simp) hstep (fun _ _ _ e => e ▸ hlen) with h' | ⟨hempty,
    -⟩ | ⟨mode, _, htop, -⟩
  · exact ⟨h', hplaced⟩
  · simp [hempty] at hinner
  · rw [htop, SavepointStack.isLive_iff] at hlive
    simp at hlive

theorem of_same_levels (h : s.Since name u) (hs : v.stack = u.stack)
    (hl : v.store.database.levels = u.store.database.levels) : s.Since name v :=
  ⟨by rw [hs, hl]; exact h.grown, by rw [hs]; exact h.placed⟩

/-- A rollback to the savepoint goes back to the tables and the stack there were. -/
theorem rollbackTo (h : s.Since name u) :
    let r := Session.rollbackTo f.executor name u
    r.2.stack = s.stack ∧ r.2.store.database.tables = s.store.database.tables ∧
      (r.1 = .ok () → r.2.store.database.levels = s.store.database.levels) ∧
      (f.followers u.store.followed = none → r.1 = .ok ()) := by
  simp only [Session.rollbackTo, h.below?, Session.send, run_rollbackTo f ⟨_, h.mintedAt⟩ h.find?]
  cases f.followers u.store.followed with
  | some e => simp
  | none => simp

/-- A release of the savepoint that is done keeps the tables, and goes back to the stack there was. -/
theorem release (h : s.Since name u) :
    let r := Session.release f.executor name u
    r.1 = .ok () → r.2.stack = s.stack ∧ r.2.store.database.tables = u.store.database.tables ∧
      r.2.store.database.levels = s.store.database.levels := by
  simp only [Session.release, h.below?, Session.send, run_release f ⟨_, h.mintedAt⟩ h.find?, Refusals.answer]
  cases f.batches u.store.asked with
  | some e =>
    intro hok
    cases hok
  | none => exact fun _ => ⟨rfl, rfl, rfl⟩

/-- The savepoint's levels stay as they are throughout a run during which the savepoint is open. -/
theorem run (h : s.Since name u) (hrun : Session.DatabaseRun f (·.stack.isLive name = true) u v) : s.Since name v := by
  refine hrun.keeps_inside (fun hstep hi hp => hi.step hstep hp) ?_ (fun hr hp => by rw [release_error hr]; exact hp)
    (fun _ _ ho w hw => hw.of_same_levels (ho w).1 (ho w).2) h
  rintro w hw hempty
  rw [hempty] at hw
  cases hw

end Session.Since

/-- A savepoint is the moment at which it was opened. From any state that calls and scopes come to over a database,
let a savepoint be opened, and let calls and scopes go on in any way that leaves it open, whatever is refused in
between. A rollback to it goes back to the tables and the stack of that moment. So does a release with the stack,
when it is done, and it keeps the tables at hand. On a database where a rollback is not cut short, the levels are
those of that moment as well, and none when there was none. -/
theorem savepoint_restores_moment (f : Refusals) (names : NameSource) {store : Unreliable}
    (hidle : store.database.isIdle = true) {s t u : Session Unreliable} {name : String}
    (hs : Session.DatabaseRun f (fun _ => True) ⟨[], names, store⟩ s)
    (ht : Session.savepoint f.executor s = (.ok name, t))
    (hu : Session.DatabaseRun f (·.stack.isLive name = true) t u) :
    let back := Session.rollbackTo f.executor name u
    let kept := Session.release f.executor name u
    (back.2.stack = s.stack ∧ back.2.store.database.tables = s.store.database.tables ∧
        (back.1 = .ok () → back.2.store.database.levels = s.store.database.levels) ∧
        (f.followers u.store.followed = none → back.1 = .ok ())) ∧
      (kept.1 = .ok () → kept.2.stack = s.stack ∧ kept.2.store.database.tables = u.store.database.tables ∧
        kept.2.store.database.levels = s.store.database.levels) ∧
      ((∀ k, f.followers k = none) → s.stack = [] →
        back.2.store.database.isIdle = true ∧ (kept.1 = .ok () → kept.2.store.database.isIdle = true)) := by
  intro back kept
  have hplaced : s.stack.Placed :=
    (placed_invariant f.executor).run_database (fun hstack _ h => by rw [hstack]; exact h) hs .nil
  obtain ⟨minted, opened, hm, hr, rfl⟩ := savepoint_ok ht
  have hsince : s.Since name u := (Session.Since.opened hplaced hm hr).run hu
  obtain ⟨hstack, htables, hlevels, hok⟩ := hsince.rollbackTo (f := f)
  refine ⟨⟨hstack, htables, hlevels, hok⟩, hsince.release, fun hf hempty => ?_⟩
  have hlayered : s.Layered False := (Session.Layered.invariant fun k e he => by simp [hf] at he).run_database
    (fun hstack hlevels h => h.of_same_levels hstack hlevels) hs (.idle rfl (List.isEmpty_iff.1 hidle))
  have hnone : s.store.database.levels = [] := by simpa [hempty] using hlayered.map_name
  rw [Database.isIdle, Database.isIdle, List.isEmpty_iff, List.isEmpty_iff, hlevels (hok (hf _)), hnone]
  refine ⟨rfl, fun hkept => ?_⟩
  rw [(hsince.release (f := f) hkept).2.2, hnone]

/-- On an idle database in memory: a savepoint is opened, a table is created, and a scope creates another and is
undone because its own savepoint cannot be released. A rollback to the savepoint then leaves no table, and no level
in the session or in the database. -/
theorem savepoint_restores_moment_inMemory :
    let f := Refusals.ofBatches fun k => if k = 2 then some (.custom "busy") else none
    let create (name : String) : Operation (Session Unreliable) (Answer Unit) :=
      Unreliable.change fun ts => (.ok .none, ts ++ [⟨name, [], []⟩])
    let s : Session Unreliable := ⟨[], .counter 0, .fresh (Database.empty none .inMemory)⟩
    let t := (Session.savepoint f.executor s).2
    let u := (Session.scope f.executor .immediate (create "b") (create "a" t).2).2
    Session.savepoint f.executor s = (.ok (savepointName 1 0), t) ∧
      Session.DatabaseRun f (·.stack.isLive (savepointName 1 0) = true) t u ∧
      u.store.database.tables.map StoredTable.name = ["a"] ∧
      (Session.rollbackTo f.executor (savepointName 1 0) u).2.stack = [] ∧
      (Session.rollbackTo f.executor (savepointName 1 0) u).2.store.database.tables = [] ∧
      (Session.rollbackTo f.executor (savepointName 1 0) u).2.store.database.isIdle = true := by
  intro f create s t u
  have hname : (Session.savepoint f.executor s).1 = .ok (savepointName 1 0) := by decide +kernel
  have ht : Session.savepoint f.executor s = (.ok (savepointName 1 0), t) := by rw [← hname]
  have hcreate : ∀ name, Session.BesideLevels (create name) := fun name _ => ⟨rfl, rfl⟩
  have hlive : t.stack.isLive (savepointName 1 0) = true := by decide +kernel
  -- The run is built from an arbitrary state, since `t` would be evaluated at each of its moments.
  have hruns : ∀ v : Session Unreliable, v.stack.isLive (savepointName 1 0) = true →
      (Session.scope f.executor .immediate (create "b") (create "a" v).2).2.stack.isLive (savepointName 1 0) = true →
      Session.DatabaseRun f (·.stack.isLive (savepointName 1 0) = true) v
        (Session.scope f.executor .immediate (create "b") (create "a" v).2).2 := fun v hv hend =>
    .scope .immediate (.call (.start hv) (.inr (hcreate "a")) hv)
      (fun w he => .call (.start (he.isLive hv)) (.inr (hcreate "b")) (he.isLive hv)) hend
  have hrun : Session.DatabaseRun f (·.stack.isLive (savepointName 1 0) = true) t u :=
    hruns t hlive (by decide +kernel)
  have hempty : (Unreliable.fresh (Database.empty none .inMemory)).database.isIdle = true := rfl
  obtain ⟨⟨hstack, htables, -, -⟩, -, hidle⟩ := savepoint_restores_moment f (.counter 0) hempty (.start trivial) ht hrun
  exact ⟨ht, hrun, by decide +kernel, hstack, htables, (hidle (fun _ => rfl) rfl).1⟩

end SqlMapper
