import SqlMapper.Proofs.Connection.Scope
import SqlMapper.Proofs.Savepoint.Runs

/-!
# The tables that levels go back to

An open level keeps the tables there were when it was opened. A property of tables that holds of the tables of a
database and of all that its levels keep (`Database.Throughout`) still does after any statement about levels: what
is kept was there, and what is gone back to was kept. So it is an invariant of sessions, whatever batches are
refused (`Database.Throughout.invariant`).
-/

namespace SqlMapper

/-- A property holds of the tables of a database, and of those that its open levels go back to. -/
structure Database.Throughout (Q : Tables → Prop) (db : Database) : Prop where
  now : Q db.tables
  before : ∀ l ∈ db.levels, Q l.before

namespace Database.Throughout

variable {Q : Tables → Prop} {db : Database}

/-- A statement about levels opens one on the tables there are, closes some, or goes back to the tables of one. -/
theorem levelStep {s : Sql.Statement} {step : DatabaseStep Unit} (hs : s.levelStep? = some step) (h : db.Throughout Q) :
    (step db).2.Throughout Q := by
  have hfound : ∀ {name outer l}, OpenLevel.find? name db.levels = some (outer, l) → Q l.before ∧
      ∀ k ∈ outer, Q k.before := by
    intro name outer l hfind
    obtain ⟨-, inner, hlevels⟩ := OpenLevels.eq_append_of_find? hfind
    refine ⟨h.before l (by simp [hlevels]), fun k hk => h.before k (by simp [hlevels, hk])⟩
  cases s <;> simp only [Sql.Statement.levelStep?, Option.some.injEq, reduceCtorEq] at hs <;> subst hs
  case begin mode =>
    unfold Database.begin
    split
    · refine ⟨h.now, fun l hl => ?_⟩
      obtain rfl := List.mem_singleton.1 hl
      exact h.now
    · exact h
  case commit =>
    unfold Database.commit
    split
    · exact h
    · exact ⟨h.now, by simp⟩
  case rollback =>
    unfold Database.rollback
    split
    · exact h
    · rename_i outermost inner hlevels
      exact ⟨h.before outermost (by simp [hlevels]), by simp⟩
  case savepoint name =>
    refine ⟨h.now, fun l hl => ?_⟩
    rcases List.mem_append.1 hl with hl | hl
    · exact h.before l hl
    · obtain rfl := List.mem_singleton.1 hl
      exact h.now
  case release name =>
    unfold Database.release
    split
    · rename_i outer l hfind
      exact ⟨h.now, (hfound hfind).2⟩
    · exact h
  case rollbackTo name =>
    unfold Database.rollbackTo
    split
    · rename_i outer l hfind
      obtain ⟨hbefore, houter⟩ := hfound hfind
      refine ⟨hbefore, fun k hk => ?_⟩
      rcases List.mem_append.1 hk with hk | hk
      · exact houter k hk
      · obtain rfl := List.mem_singleton.1 hk
        exact hbefore
    · exact h

/-- It keeps the property also where its text cannot be sent. -/
theorem executeUnbound {s : Sql.Statement} {step : DatabaseStep Unit} (hs : s.levelStep? = some step)
    (h : db.Throughout Q) :
    (Database.executeUnbound s db).2.Throughout Q := by
  by_cases hsend : isSendable s.text = true
  · rw [executeUnbound_of_levelStep hs hsend]
    exact h.levelStep hs
  · have hprepare : db.prepare s = .error .malformed := by
      simp only [Database.prepare, hsend]
      rfl
    simp only [Database.executeUnbound, hprepare]
    exact h

/-- So do statements about levels one after another, up to the first that fails. -/
theorem executeAll {ss : List Sql.Statement} (hs : ∀ s ∈ ss, ∃ step, s.levelStep? = some step) (h : db.Throughout Q) :
    (Database.executeAll ss db).2.Throughout Q := by
  induction ss generalizing db with
  | nil => exact h
  | cons s rest ih =>
    obtain ⟨step, hstep⟩ := hs s List.mem_cons_self
    have hfirst := h.executeUnbound hstep
    unfold Database.executeAll
    rcases hx : Database.executeUnbound s db with ⟨e | o, db'⟩
    all_goals rw [hx] at hfirst
    · exact hfirst
    · exact ih (fun s hs' => hs s (List.mem_cons_of_mem _ hs')) hfirst

theorem levelStep?_batch (b : Batch) : ∀ s ∈ b.statements, ∃ step, s.levelStep? = some step := by
  intro s hs
  cases b with
  | rollbackTo name =>
    rcases List.mem_cons.1 hs with rfl | hs
    · exact ⟨_, rfl⟩
    · obtain rfl := List.mem_singleton.1 hs
      exact ⟨_, rfl⟩
  | _ =>
    obtain rfl := List.mem_singleton.1 hs
    exact ⟨_, rfl⟩

/-- A batch keeps the property, whether it is run or refused. -/
theorem run {x : Executor Database} (hx : x.RunsOrRefuses) (h : db.Throughout Q) {b : Batch} {r : Except Error Unit}
    {db' : Database} (hr : x.run b db = (r, db')) : db'.Throughout Q := by
  rcases hx b db with hrun | ⟨-, e, hrefused⟩
  · have hkept := h.executeAll (levelStep?_batch b)
    obtain ⟨-, rfl⟩ := Prod.mk.inj (hrun.symm.trans hr)
    exact hkept
  · obtain ⟨-, rfl⟩ := Prod.mk.inj (hrefused.symm.trans hr)
    exact h

/-- The operations of a session keep it. -/
theorem invariant {x : Executor Database} (hx : x.RunsOrRefuses) (Q : Tables → Prop) :
    Session.Invariant x fun c : Connection => c.store.Throughout Q := by
  refine Session.Invariant.of_step fun hstep h => ?_
  cases hstep with
  | none => exact h
  | refused hb hr => exact h.run hx hr
  | done hb hr => exact h.run hx hr

/-- So does what leaves the levels alone and has the property hold of the tables. -/
theorem of_levels {db' : Database} (h : db.Throughout Q) (hlevels : db'.levels = db.levels) (hnow : Q db'.tables) :
    db'.Throughout Q :=
  ⟨hnow, by rw [hlevels]; exact h.before⟩

theorem of_sameContents {c d : Connection} (h : c.store.Throughout Q) (hsame : c.SameContents d) :
    d.store.Throughout Q :=
  h.of_levels hsame.levels (hsame.tables ▸ h.now)

end Database.Throughout

end SqlMapper
