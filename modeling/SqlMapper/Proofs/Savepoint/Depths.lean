import SqlMapper.Proofs.Savepoint.Balanced
import SqlMapper.Proofs.Savepoint.Runs

/-!
# A name tells the place of its level

A savepoint carries in its name the depth that it was opened at, and it stays at that depth for as long as it is
open, because levels are only ever put on top of it and taken off from above (`SavepointStack.Placed`). So two open
savepoints never have one name, however their numbers are drawn and whatever the store refuses.

Counted names tell more. The numbers grow from the outermost savepoint inwards (`Session.Counted`), and a number
that was used is behind the counter for good (`Session.Spent`): a name that is no longer open never comes back.
-/

namespace SqlMapper

variable {σ : Type}

/-! ## Places -/

/-- The levels of a stack are named for their places: only the outermost may be a transaction, and a savepoint was
minted for the depth that it is open at. -/
structure SavepointStack.Placed (stack : SavepointStack) : Prop where
  outermost : ∀ i mode, stack[i]? = some (.transaction mode) → i = 0
  minted : ∀ i name, stack[i]? = some (.savepoint name) → MintedAt i name

/-- A level of a stack with one more level on top is a level of the stack, or the one on top. -/
theorem SavepointStack.getElem?_push {stack : SavepointStack} {top level : Level} {i : Nat}
    (h : (stack ++ [top])[i]? = some level) : stack[i]? = some level ∨ i = stack.length ∧ top = level := by
  rw [List.getElem?_append] at h
  split at h
  · exact .inl h
  · obtain ⟨hlt, hlevel⟩ := List.getElem?_eq_some_iff.1 h
    rw [List.length_singleton] at hlt
    exact .inr ⟨by omega, by simpa using hlevel⟩

namespace SavepointStack.Placed

variable {stack outer inner : SavepointStack} {name : String}

theorem nil : Placed [] := ⟨by simp, by simp⟩

theorem transaction (mode : Sql.LockMode) : Placed [.transaction mode] where
  outermost i _ h := by simpa using (List.getElem?_eq_some_iff.1 h).1
  minted i name h := by
    rw [List.getElem?_singleton] at h
    split at h <;> cases h

/-- The outer levels of a stack keep their places. -/
theorem of_append (h : Placed (outer ++ inner)) : Placed outer := by
  have hget : ∀ {i : Nat} {level : Level}, outer[i]? = some level → (outer ++ inner)[i]? = some level := by
    intro i level hi
    rw [List.getElem?_append_left (List.getElem?_eq_some_iff.1 hi).1, hi]
  exact ⟨fun i mode hi => h.outermost i mode (hget hi), fun i name hi => h.minted i name (hget hi)⟩

/-- A savepoint that was minted for the depth of a stack is placed on top of it. -/
theorem push (h : Placed stack) (hn : MintedAt stack.length name) : Placed (stack ++ [.savepoint name]) where
  outermost i mode hi := by
    obtain hbelow | ⟨-, htop⟩ := SavepointStack.getElem?_push hi
    · exact h.outermost i mode hbelow
    · cases htop
  minted i other hi := by
    obtain hbelow | ⟨rfl, htop⟩ := SavepointStack.getElem?_push hi
    · exact h.minted i other hbelow
    · exact Level.savepoint.inj htop ▸ hn

theorem below (h : Placed stack) (hb : stack.below? name = some outer) : Placed outer := by
  obtain ⟨inner, rfl, -⟩ := SavepointStack.below?_eq_some_iff.1 hb
  exact h.of_append

/-- An open savepoint was minted for the number of levels below it. -/
theorem mintedAt (h : Placed stack) (hb : stack.below? name = some outer) : MintedAt outer.length name := by
  obtain ⟨inner, rfl, -⟩ := SavepointStack.below?_eq_some_iff.1 hb
  exact h.minted outer.length name (by simp)

/-- No two open savepoints have one name, as no two are at one depth. -/
theorem names_nodup (h : Placed stack) : stack.names.Nodup := by
  refine List.pairwise_filterMap.2 (List.pairwise_iff_getElem.2 ?_)
  intro i j hi hj hij a ha b hb hab
  have hplace : ∀ {k : Nat} (hk : k < stack.length) {name : String}, stack[k].name? = some name → MintedAt k name := by
    intro k hk name hname
    refine h.minted k name (List.getElem?_eq_some_iff.2 ⟨hk, ?_⟩)
    cases hlevel : stack[k] with
    | transaction mode => simp [hlevel, Level.name?] at hname
    | savepoint other => simpa [hlevel, Level.name?] using hname
  obtain ⟨n, rfl⟩ := hplace hi ha
  obtain ⟨m, rfl⟩ := hplace hj hb
  exact absurd (savepointName_inj hab).2 (Nat.ne_of_lt hij)

/-- No level outside an open savepoint has its name. -/
theorem not_mem_below (h : Placed stack) (hb : stack.below? name = some outer) : Level.savepoint name ∉ outer := by
  obtain ⟨inner, rfl, -⟩ := SavepointStack.below?_eq_some_iff.1 hb
  intro hmem
  have hnodup := h.names_nodup
  rw [SavepointStack.names_append] at hnodup
  exact (List.nodup_append.1 hnodup).2.2 name (List.mem_filterMap.2 ⟨_, hmem, rfl⟩) name
    (List.mem_filterMap.2 ⟨.savepoint name, List.mem_cons_self, rfl⟩) rfl

end SavepointStack.Placed

/-- A batch leaves the levels in their places, refused or done. -/
theorem Session.Sends.placed {s : Session σ} {b : Batch} {kept closed : SavepointStack} {names : NameSource}
    (hb : s.Sends b kept closed names) (h : s.stack.Placed) : kept.Placed ∧ closed.Placed := by
  cases hb with
  | begin mode => exact ⟨.nil, .transaction mode⟩
  | savepoint hm =>
    refine ⟨h, h.push ?_⟩
    have hn := mintedAt_mint s.stack.length s.stack.isLive s.stack.length s.names
    rwa [hm] at hn
  | release hb => exact ⟨h, h.below hb⟩
  | rollbackTo hb => exact ⟨h.below hb, h.below hb⟩
  | commit => exact ⟨h, .nil⟩
  | rollback => exact ⟨.nil, .nil⟩

/-- Levels stay in their places, whatever the store refuses. -/
theorem Session.Step.placed {x : Executor σ} {s t : Session σ} (hstep : Session.Step x s t) (h : s.stack.Placed) :
    t.stack.Placed := by
  cases hstep with
  | none => exact h
  | refused hb => exact (hb.placed h).1
  | done hb => exact (hb.placed h).2

theorem placed_invariant (x : Executor σ) : Session.Invariant x fun s => s.stack.Placed :=
  .of_step fun hstep h => hstep.placed h

/-- In every state that a run from an empty stack comes to, the levels are in their places. -/
theorem Session.Reaches.placed {x : Executor σ} {s t : Session σ} (hrun : Session.Reaches x s t) (hs : s.stack = []) :
    t.stack.Placed :=
  (placed_invariant x).reached (fun hstack _ h => hstack ▸ h) hrun (hs ▸ .nil)

/-! ## Counted names -/

/-- A savepoint has a smaller number than another. -/
def Level.Earlier (a b : Level) : Prop :=
  ∀ n d m d', a = .savepoint (savepointName n d) → b = .savepoint (savepointName m d') → n < m

/-- The names are counted: the numbers of the open savepoints grow inwards, up to the last one that was counted. -/
def Session.Counted (s : Session σ) : Prop :=
  ∃ last, s.names = .counter last ∧ (∀ n d, Level.savepoint (savepointName n d) ∈ s.stack → n ≤ last) ∧
    s.stack.Pairwise Level.Earlier

/-- A number that was counted already. -/
def Session.Spent (number : Nat) (s : Session σ) : Prop := ∃ last, s.names = .counter last ∧ number ≤ last

/-- What a batch does to a session with counted names: levels are taken off, or one with a new number is put on. -/
theorem Session.Sends.counted {s : Session σ} {b : Batch} {kept closed : SavepointStack}
    {names : NameSource} {last : Nat} (hb : s.Sends b kept closed names) (hlast : s.names = .counter last) :
    ∃ next, names = .counter next ∧ last ≤ next ∧ kept.Sublist s.stack ∧
      (closed.Sublist s.stack ∨ (∃ mode, closed = [.transaction mode]) ∨
        last < next ∧ closed = s.stack ++ [.savepoint (savepointName next s.stack.length)]) := by
  have hbelow : ∀ {name : String} {outer : SavepointStack}, s.stack.below? name = some outer →
      outer.Sublist s.stack := by
    intro name outer h
    obtain ⟨inner, hs, -⟩ := SavepointStack.below?_eq_some_iff.1 h
    rw [hs]
    exact List.sublist_append_left _ _
  cases hb with
  | begin mode => exact ⟨last, hlast, Nat.le_refl _, List.nil_sublist _, .inr (.inl ⟨mode, rfl⟩)⟩
  | savepoint hm =>
    obtain ⟨next, hmint, hlt, -⟩ := SavepointStack.mint_counter s.stack last
    rw [hlast, hmint] at hm
    obtain ⟨rfl, rfl⟩ := Prod.mk.inj hm
    exact ⟨next, rfl, Nat.le_of_lt hlt, List.Sublist.refl _, .inr (.inr ⟨hlt, rfl⟩)⟩
  | release h => exact ⟨last, hlast, Nat.le_refl _, List.Sublist.refl _, .inl (hbelow h)⟩
  | rollbackTo h => exact ⟨last, hlast, Nat.le_refl _, hbelow h, .inl (hbelow h)⟩
  | commit => exact ⟨last, hlast, Nat.le_refl _, List.Sublist.refl _, .inl (List.nil_sublist _)⟩
  | rollback => exact ⟨last, hlast, Nat.le_refl _, List.nil_sublist _, .inl (List.nil_sublist _)⟩

/-- What a step makes of a session with counted names, whatever the store refuses. -/
theorem Session.Step.counted {x : Executor σ} {s t : Session σ} {last : Nat} (hstep : Session.Step x s t)
    (hlast : s.names = .counter last) :
    ∃ next, t.names = .counter next ∧ last ≤ next ∧
      (t.stack.Sublist s.stack ∨ (∃ mode, t.stack = [.transaction mode]) ∨
        last < next ∧ t.stack = s.stack ++ [.savepoint (savepointName next s.stack.length)]) := by
  cases hstep with
  | none => exact ⟨last, hlast, Nat.le_refl _, .inl (List.Sublist.refl _)⟩
  | refused hb =>
    obtain ⟨next, rfl, hle, hkept, -⟩ := hb.counted hlast
    exact ⟨next, rfl, hle, .inl hkept⟩
  | done hb =>
    obtain ⟨next, rfl, hle, -, hclosed⟩ := hb.counted hlast
    exact ⟨next, rfl, hle, hclosed⟩

namespace Session.Counted

variable {s t : Session σ} {last next : Nat}

/-- Taking levels off keeps the numbers growing. -/
theorem shrink (h : s.Counted) (hlast : s.names = .counter last) (hnext : t.names = .counter next) (hle : last ≤ next)
    (hsub : t.stack.Sublist s.stack) : t.Counted := by
  obtain ⟨last', hlast', hall, hgrow⟩ := h
  obtain rfl : last' = last := by simpa [hlast] using hlast'.symm
  exact ⟨next, hnext, fun n d hmem => Nat.le_trans (hall n d (hsub.subset hmem)) hle, hgrow.sublist hsub⟩

/-- A savepoint with a number beyond the last one goes on top. -/
theorem push (h : s.Counted) (hlast : s.names = .counter last) (hnext : t.names = .counter next)
    (hlt : last < next) {depth : Nat} (htop : t.stack = s.stack ++ [.savepoint (savepointName next depth)]) :
    t.Counted := by
  obtain ⟨last', hlast', hall, hgrow⟩ := h
  obtain rfl : last' = last := by simpa [hlast] using hlast'.symm
  rw [Session.Counted, htop]
  refine ⟨next, hnext, ?_, List.pairwise_append.2 ⟨hgrow, List.pairwise_singleton _ _, ?_⟩⟩
  · intro n d hmem
    rcases List.mem_append.1 hmem with hmem | hmem
    · exact Nat.le_of_lt (Nat.lt_of_le_of_lt (hall n d hmem) hlt)
    · have hname := Level.savepoint.inj (List.mem_singleton.1 hmem)
      exact Nat.le_of_eq (savepointName_inj hname).1
  · intro a ha b hb n d m d' hna hmb
    rw [List.mem_singleton.1 hb] at hmb
    obtain rfl := (savepointName_inj (Level.savepoint.inj hmb)).1
    exact Nat.lt_of_le_of_lt (hall n d (hna ▸ ha)) hlt

end Session.Counted

/-- Numbers go on growing inwards, whatever the store refuses. -/
theorem counted_invariant (x : Executor σ) : Session.Invariant x Session.Counted := by
  refine .of_step fun hstep h => ?_
  obtain ⟨last, hlast, -⟩ := id h
  obtain ⟨next, hnext, hle, hsub | ⟨mode, hmode⟩ | ⟨hlt, htop⟩⟩ := hstep.counted hlast
  · exact h.shrink hlast hnext hle hsub
  · refine ⟨next, hnext, ?_, ?_⟩
    · simp [hmode]
    · rw [hmode]
      exact List.pairwise_singleton _ _
  · exact h.push hlast hnext hlt htop

/-- A number stays spent. -/
theorem spent_invariant (x : Executor σ) (number : Nat) : Session.Invariant x (Session.Spent number) := by
  refine .of_step fun hstep h => ?_
  obtain ⟨last, hlast, hspent⟩ := h
  obtain ⟨next, hnext, hle, -⟩ := hstep.counted hlast
  exact ⟨next, hnext, Nat.le_trans hspent hle⟩

/-- A savepoint with a spent number that is not open is not opened again. -/
theorem gone_invariant (x : Executor σ) (number depth : Nat) : Session.Invariant x fun s : Session σ =>
    s.Spent number ∧ Level.savepoint (savepointName number depth) ∉ s.stack := by
  refine .of_step fun hstep h => ?_
  obtain ⟨last, hlast, hspent⟩ := h.1
  obtain ⟨next, hnext, hle, hstack⟩ := hstep.counted hlast
  refine ⟨⟨next, hnext, Nat.le_trans hspent hle⟩, fun hmem => ?_⟩
  rcases hstack with hsub | ⟨mode, hmode⟩ | ⟨hlt, htop⟩
  · exact h.2 (hsub.subset hmem)
  · simp [hmode] at hmem
  · rw [htop] at hmem
    rcases List.mem_append.1 hmem with hmem | hmem
    · exact h.2 hmem
    · have hname := Level.savepoint.inj (List.mem_singleton.1 hmem)
      have hnumber := (savepointName_inj hname).1
      omega

/-- A savepoint that is opened under a counted name spends its number, which was not spent before. -/
theorem savepoint_spends {x : Executor σ} {s t : Session σ} {name : String} {last : Nat}
    (hlast : s.names = .counter last) (h : Session.savepoint x s = (.ok name, t)) :
    ∃ number, name = savepointName number s.stack.length ∧ last < number ∧ t.Spent number := by
  obtain ⟨names, store, hmint, -, rfl⟩ := savepoint_ok h
  obtain ⟨number, hcounted, hlt, -⟩ := SavepointStack.mint_counter s.stack last
  rw [hlast, hcounted] at hmint
  obtain ⟨rfl, rfl⟩ := Prod.mk.inj hmint
  exact ⟨number, rfl, hlt, number, rfl, Nat.le_refl _⟩

/-- A name that is not open is refused, and nothing is sent. -/
theorem refused_of_not_mem (x : Executor σ) {s : Session σ} {name : String} (h : Level.savepoint name ∉ s.stack) :
    Session.release x name s = (.error (.unknownSavepoint name), s) ∧
      Session.rollbackTo x name s = (.error (.unknownSavepoint name), s) := by
  have hb := SavepointStack.below?_eq_none_iff.2 h
  simp [Session.release, Session.rollbackTo, hb]

/-! ## Names and levels -/

/-- Names identify levels, in every state that any calls and scopes come to, inside bodies as well, and whatever the
store refuses. Only the outermost level may be a transaction, the savepoint at a place has a name of that depth, and
open names differ. If the names are counted, their numbers grow inwards; a name that was given is never given again,
and once it is no longer open it is refused ever after, with nothing sent. -/
theorem names_identify_levels (x : Executor σ) (names : NameSource) (store : σ) {s : Session σ}
    (hs : Session.Reaches x ⟨[], names, store⟩ s) :
    (∀ i mode, s.stack[i]? = some (.transaction mode) → i = 0) ∧
      (∀ i name, s.stack[i]? = some (.savepoint name) → ∃ number, name = savepointName number i) ∧
      s.stack.names.Nodup ∧
      ∀ last, names = .counter last →
        (∀ i j n m, i < j → s.stack[i]? = some (Level.savepoint (savepointName n i)) →
          s.stack[j]? = some (Level.savepoint (savepointName m j)) → n < m) ∧
        ∀ name t, Session.savepoint x s = (.ok name, t) → ∀ u, Session.Reaches x t u →
          (∀ other v, Session.savepoint x u = (.ok other, v) → other ≠ name) ∧
          (u.stack.isLive name = false → ∀ v, Session.Reaches x u v →
            Session.release x name v = (.error (.unknownSavepoint name), v) ∧
              Session.rollbackTo x name v = (.error (.unknownSavepoint name), v)) := by
  have hplaced : s.stack.Placed := hs.placed rfl
  refine ⟨hplaced.outermost, hplaced.minted, hplaced.names_nodup, ?_⟩
  rintro last rfl
  have hcounted : s.Counted := (counted_invariant x).reached
    (fun hstack hnames h => by rw [Session.Counted, hstack, hnames]; exact h) hs ⟨last, rfl, by simp, .nil⟩
  obtain ⟨current, hcurrent, -, hgrow⟩ := id hcounted
  constructor
  · intro i j n m hij hi hj
    obtain ⟨hilt, hi⟩ := List.getElem?_eq_some_iff.1 hi
    obtain ⟨hjlt, hj⟩ := List.getElem?_eq_some_iff.1 hj
    exact List.pairwise_iff_getElem.1 hgrow i j hilt hjlt hij n i m j hi hj
  · intro name t ht u hu
    obtain ⟨number, rfl, -, hspent⟩ := savepoint_spends hcurrent ht
    have hspentAt : u.Spent number := (spent_invariant x number).reached
      (fun _ hnames h => by rw [Session.Spent, hnames]; exact h) hu hspent
    constructor
    · rintro other v hv rfl
      obtain ⟨later, hlater, hle⟩ := hspentAt
      obtain ⟨again, hname, hlt, -⟩ := savepoint_spends hlater hv
      have hnumber := (savepointName_inj hname).1
      omega
    · intro hdead v hv
      have hgone := (gone_invariant x number s.stack.length).reached
        (fun hstack hnames h => by rw [Session.Spent, hstack, hnames]; exact h) hv
        ⟨hspentAt, fun hmem => by rw [SavepointStack.isLive_iff.2 hmem] at hdead; cases hdead⟩
      exact refused_of_not_mem x hgone.2

/-- On a store that refuses the second batch: a savepoint is opened again after its release failed and it was rolled
back to, and it has another name. -/
theorem names_identify_levels_reopened :
    let x : Executor Nat := ⟨fun _ sent => (if sent = 1 then .error (.custom "busy") else .ok (), sent + 1)⟩
    let s : Session Nat := ⟨[], .counter 0, 0⟩
    let t := (Session.savepoint x s).2
    let u := (Session.rollbackTo x (savepointName 1 0) (Session.release x (savepointName 1 0) t).2).2
    Session.Reaches x s s ∧ Session.Reaches x t u ∧ (Session.savepoint x u).1 = .ok (savepointName 2 0) ∧
      savepointName 2 0 ≠ savepointName 1 0 ∧
      Session.release x (savepointName 1 0) u = (.error (.unknownSavepoint (savepointName 1 0)), u) := by
  intro x s t u
  have hs : Session.Reaches x s s := .start trivial
  have ht : Session.savepoint x s = (.ok (savepointName 1 0), t) := rfl
  have hu : Session.Reaches x t u :=
    .call (.call (.start trivial) (.inl (.onSavepoints (.release _))) trivial)
      (.inl (.onSavepoints (.rollbackTo _))) trivial
  have hidle : u.stack = [] := by decide +kernel
  have hdead : u.stack.isLive (savepointName 1 0) = false := by rw [hidle]; rfl
  have hagain : (Session.savepoint x u).1 = .ok (savepointName 2 0) := by decide +kernel
  obtain ⟨hfresh, hstale⟩ := ((names_identify_levels x (.counter 0) 0 hs).2.2.2 0 rfl).2 (savepointName 1 0) t ht u hu
  exact ⟨hs, hu, hagain, hfresh _ _ (Prod.ext hagain rfl), (hstale hdead u (.start trivial)).1⟩

end SqlMapper
