import SqlMapper.Proofs.Savepoint.Depths

/-!
# The first number will do

A savepoint is named by taking numbers until the name is not open. That need not come to an end for just any stack:
numbers may be drawn, and nothing keeps the draws from being equal for ever. Here the loop has no bound
(`NameSource.Mints`), and it is over after the first number in every state that a session comes to: an open name
carries the depth of its place, which is less than the depth that is being named
(`SavepointStack.Placed.isLive_eq_false`). So the bound that `NameSource.mint` is given is never felt, and
savepoints use up one number each (`Session.Sends.names_eq`).
-/

namespace SqlMapper

variable {σ : Type}

/-! ## The loop without a bound -/

/-- Numbers are taken until one makes a name that is not in use: how many were taken, the name, and the source after
them. -/
inductive NameSource.Mints (depth : Nat) (inUse : String → Bool) : NameSource → Nat → String → NameSource → Prop where
  | free {source : NameSource} (h : inUse (savepointName source.next.1 depth) = false) :
    Mints depth inUse source 1 (savepointName source.next.1 depth) source.next.2
  | again {source rest : NameSource} {taken : Nat} {name : String}
    (h : inUse (savepointName source.next.1 depth) = true)
    (hmore : Mints depth inUse source.next.2 taken name rest) : Mints depth inUse source (taken + 1) name rest

/-- The source after so many numbers. -/
def NameSource.after : Nat → NameSource → NameSource
  | taken, .counter last => .counter (last + taken)
  | taken, .draws words drawn => .draws words (drawn + taken)

theorem NameSource.after_zero (source : NameSource) : source.after 0 = source := by
  cases source <;> rfl

theorem NameSource.next_after (source : NameSource) (taken : Nat) :
    (source.after taken).next.2 = source.after (taken + 1) := by
  cases source <;> rfl

/-- When the first name is not in use, the loop ends with it and in no other way. -/
theorem NameSource.mints_iff_first {depth taken : Nat} {inUse : String → Bool} {source rest : NameSource}
    {name : String} (hfree : inUse (savepointName source.next.1 depth) = false) :
    source.Mints depth inUse taken name rest ↔
      taken = 1 ∧ name = savepointName source.next.1 depth ∧ rest = source.next.2 := by
  constructor
  · intro h
    cases h with
    | free _ => exact ⟨rfl, rfl, rfl⟩
    | again hused _ => rw [hfree] at hused; cases hused
  · rintro ⟨rfl, rfl, rfl⟩
    exact .free hfree

/-- With a bound the loop is the same, as long as it does not run into the bound. -/
theorem NameSource.mints_mint {depth : Nat} {inUse : String → Bool} {source : NameSource} {bound : Nat}
    (hfree : inUse (source.mint depth inUse bound).1 = false) :
    ∃ taken, taken ≤ bound + 1 ∧
      source.Mints depth inUse taken (source.mint depth inUse bound).1 (source.mint depth inUse bound).2 := by
  induction bound generalizing source with
  | zero => exact ⟨1, Nat.le_refl 1, .free hfree⟩
  | succ bound ih =>
    rw [NameSource.mint] at hfree ⊢
    split at hfree
    · rename_i hused
      rw [if_pos hused]
      obtain ⟨taken, hle, hmore⟩ := ih hfree
      exact ⟨taken + 1, Nat.succ_le_succ hle, .again hused hmore⟩
    · rename_i hfirst
      rw [if_neg hfirst]
      exact ⟨1, Nat.le_add_left 1 (bound + 1), .free hfree⟩

/-- When the first name is not in use, no bound makes a difference. -/
theorem NameSource.mint_first {depth : Nat} {inUse : String → Bool} {source : NameSource}
    (hfree : inUse (savepointName source.next.1 depth) = false) (bound : Nat) :
    source.mint depth inUse bound = (savepointName source.next.1 depth, source.next.2) := by
  cases bound with
  | zero => rfl
  | succ bound => rw [NameSource.mint, if_neg (by rw [hfree]; exact Bool.false_ne_true)]

/-! ## Names for the depth at hand -/

/-- No name for the depth of a stack is open on it: the names that are open belong to the places of their levels. -/
theorem SavepointStack.Placed.isLive_eq_false {stack : SavepointStack} (h : stack.Placed) (number : Nat) :
    stack.isLive (savepointName number stack.length) = false := by
  rw [Bool.eq_false_iff]
  intro hlive
  obtain ⟨i, hi⟩ := List.mem_iff_getElem?.1 (SavepointStack.isLive_iff.1 hlive)
  obtain ⟨other, hname⟩ := h.minted i _ hi
  have hplace : stack.length = i := (savepointName_inj hname).2
  exact absurd (List.getElem?_eq_some_iff.1 hi).1 (by omega)

/-- On levels in their places a savepoint gets the first name. -/
theorem SavepointStack.Placed.mint_eq {stack : SavepointStack} (h : stack.Placed) (names : NameSource) (bound : Nat) :
    names.mint stack.length stack.isLive bound = (savepointName names.next.1 stack.length, names.next.2) :=
  NameSource.mint_first (h.isLive_eq_false names.next.1) bound

/-- A savepoint uses up one number, whether or not the store opens it, and nothing else uses up any. -/
theorem Session.Sends.names_eq {s : Session σ} {b : Batch} {kept closed : SavepointStack} {names : NameSource}
    (hb : s.Sends b kept closed names) (h : s.stack.Placed) :
    (b = .savepoint (savepointName s.names.next.1 s.stack.length) ∧ names = s.names.next.2) ∨
      (∀ name, b ≠ .savepoint name) ∧ names = s.names := by
  cases hb with
  | savepoint hm =>
    rw [h.mint_eq] at hm
    obtain ⟨rfl, rfl⟩ := Prod.mk.inj hm
    exact .inl ⟨rfl, rfl⟩
  | begin mode => exact .inr ⟨fun _ hb => Batch.noConfusion hb, rfl⟩
  | release => exact .inr ⟨fun _ hb => Batch.noConfusion hb, rfl⟩
  | rollbackTo => exact .inr ⟨fun _ hb => Batch.noConfusion hb, rfl⟩
  | commit => exact .inr ⟨fun _ hb => Batch.noConfusion hb, rfl⟩
  | rollback => exact .inr ⟨fun _ hb => Batch.noConfusion hb, rfl⟩

/-- The levels are in their places, and so many numbers of a source were used up. -/
structure Session.Numbered (names : NameSource) (s : Session σ) : Prop where
  placed : s.stack.Placed
  taken : ∃ taken, s.names = names.after taken

/-- A step takes one number or none, whatever the store refuses. -/
theorem Session.Step.numbered {x : Executor σ} {names : NameSource} {s t : Session σ} (hstep : Session.Step x s t)
    (h : s.Numbered names) : t.Numbered names := by
  refine ⟨hstep.placed h.placed, ?_⟩
  obtain ⟨taken, htaken⟩ := h.taken
  have hsent : ∀ {b : Batch} {kept closed : SavepointStack} {rest : NameSource}, s.Sends b kept closed rest →
      ∃ taken, rest = names.after taken := by
    intro b kept closed rest hb
    obtain ⟨-, hrest⟩ | ⟨-, hrest⟩ := hb.names_eq h.placed
    · exact ⟨taken + 1, by rw [hrest, htaken, NameSource.next_after]⟩
    · exact ⟨taken, by rw [hrest, htaken]⟩
  cases hstep with
  | none => exact ⟨taken, htaken⟩
  | refused hb => exact hsent hb
  | done hb => exact hsent hb

theorem numbered_invariant (x : Executor σ) (names : NameSource) : Session.Invariant x (Session.Numbered names) :=
  .of_step fun hstep h => hstep.numbered h

/-- What opening a savepoint comes to when the first name is not open: its batch is sent, and the number is used up
either way. -/
theorem savepoint_first {x : Executor σ} {s : Session σ}
    (hfree : s.stack.isLive (savepointName s.names.next.1 s.stack.length) = false) :
    (Session.savepoint x s).2.names = s.names.next.2 ∧
      (Session.savepoint x s).2.store = (x.run (.savepoint (savepointName s.names.next.1 s.stack.length)) s.store).2 ∧
      ∀ name t, Session.savepoint x s = (.ok name, t) → name = savepointName s.names.next.1 s.stack.length := by
  rw [Session.savepoint, NameSource.mint_first hfree]
  unfold Session.send
  dsimp only
  rcases x.run (.savepoint (savepointName s.names.next.1 s.stack.length)) s.store with ⟨e | ⟨⟩, store⟩
  · exact ⟨rfl, rfl, fun _ _ h => by cases (Prod.mk.inj h).1⟩
  · exact ⟨rfl, rfl, fun _ _ h => (Except.ok.inj (Prod.mk.inj h).1).symm⟩

/-- Names are found at once, in every state that any calls and scopes come to, inside bodies as well, however the
numbers are counted or drawn and whatever the store refuses; a count has no last number here. The loop without a
bound takes one number, ends in its name, and cannot go otherwise; so does the loop with any bound. That name is not
open. A call that opens a savepoint sends it and moves the source on by that one number, opened or refused; since
the start the source has only moved on like this. -/
theorem minted_at_once (x : Executor σ) (names : NameSource) (store : σ) {s : Session σ}
    (hs : Session.Reaches x ⟨[], names, store⟩ s) :
    let name := savepointName s.names.next.1 s.stack.length
    s.stack.isLive name = false ∧
      (∀ taken other rest, s.names.Mints s.stack.length s.stack.isLive taken other rest ↔
        taken = 1 ∧ other = name ∧ rest = s.names.next.2) ∧
      (∀ bound, s.names.mint s.stack.length s.stack.isLive bound = (name, s.names.next.2)) ∧
      (Session.savepoint x s).2.store = (x.run (.savepoint name) s.store).2 ∧
      (∀ other t, Session.savepoint x s = (.ok other, t) → other = name) ∧
      ∃ taken, s.names = names.after taken ∧ (Session.savepoint x s).2.names = names.after (taken + 1) := by
  intro name
  have hnumbered : s.Numbered names := (numbered_invariant x names).reached
    (fun hstack hnames h => ⟨hstack ▸ h.placed, hnames ▸ h.taken⟩) hs ⟨.nil, 0, (NameSource.after_zero names).symm⟩
  have hfree : s.stack.isLive name = false := hnumbered.placed.isLive_eq_false s.names.next.1
  obtain ⟨taken, htaken⟩ := hnumbered.taken
  obtain ⟨hmoved, hstore, hgiven⟩ := savepoint_first (x := x) hfree
  refine ⟨hfree, fun _ _ _ => NameSource.mints_iff_first hfree, NameSource.mint_first hfree, hstore, hgiven,
    taken, htaken, ?_⟩
  rw [hmoved, htaken, NameSource.next_after]

/-- Every draw is seven, and the store refuses the second batch: the names differ all the same, and the third is
found at once. -/
theorem minted_at_once_equal_draws :
    let x : Executor Nat := ⟨fun _ sent => (if sent = 1 then .error (.custom "busy") else .ok (), sent + 1)⟩
    let s : Session Nat := ⟨[], .draws (fun _ => 7) 0, 0⟩
    let t := (Session.savepoint x (Session.savepoint x (Session.savepoint x s).2).2).2
    Session.Reaches x s t ∧ t.stack = [.savepoint "S7D0", .savepoint "S7D1"] ∧ t.stack.isLive "S7D2" = false ∧
      (∀ taken name rest, t.names.Mints t.stack.length t.stack.isLive taken name rest ↔
        taken = 1 ∧ name = "S7D2" ∧ rest = t.names.next.2) ∧
      ∃ taken, t.names = .draws (fun _ => 7) taken ∧
        (Session.savepoint x t).2.names = .draws (fun _ => 7) (taken + 1) := by
  intro x s t
  have ht : Session.Reaches x s t :=
    .call (.call (.call (.start trivial) (.inl (.onSavepoints .savepoint)) trivial)
      (.inl (.onSavepoints .savepoint)) trivial)
      (.inl (.onSavepoints .savepoint)) trivial
  have hstack : t.stack = [.savepoint "S7D0", .savepoint "S7D1"] := by decide +kernel
  have hname : savepointName t.names.next.1 t.stack.length = "S7D2" := by decide +kernel
  obtain ⟨hfree, hfirst, -, -, -, taken, htaken, hmoved⟩ := minted_at_once x (.draws (fun _ => 7) 0) 0 ht
  rw [hname] at hfree
  simp only [hname] at hfirst
  exact ⟨ht, hstack, hfree, hfirst, 0 + taken, htaken, hmoved⟩

end SqlMapper
