import SqlMapper.Sql.Statement

/-!
# The stack of open levels

Which levels of a transaction are open: at most one transaction proper, and savepoints by their
names. The outermost level comes first. A name means the innermost savepoint of that name.
-/

namespace SqlMapper

/-- An open level. -/
inductive Level where
  | transaction (mode : Sql.LockMode)
  | savepoint (name : String)
  deriving DecidableEq, Repr

/-- The open levels, outermost first. -/
abbrev SavepointStack := List Level

/-- The name of a savepoint. -/
def Level.name? : Level → Option String
  | .transaction _ => none
  | .savepoint name => some name

/-- The names of the open savepoints. -/
def SavepointStack.names (s : SavepointStack) : List String := s.filterMap Level.name?

/-- The levels outside the innermost savepoint of a name; there are none to speak of when no such
savepoint is open. -/
def SavepointStack.below? (name : String) : SavepointStack → Option SavepointStack
  | [] => none
  | level :: inner =>
    match SavepointStack.below? name inner with
    | some outer => some (level :: outer)
    | none => if level = .savepoint name then some [] else none

/-- Whether a savepoint of a name is open. -/
def SavepointStack.isLive (s : SavepointStack) (name : String) : Bool := (s.below? name).isSome

namespace SavepointStack

/-- The innermost savepoint of a name counts, so the levels further in are looked through first. -/
theorem below?_cons (name : String) (level : Level) (s : SavepointStack) :
    below? name (level :: s) =
      ((below? name s).map (level :: ·)).or (if level = .savepoint name then some [] else none) := by
  cases h : below? name s <;> simp [below?, h]

/-- There are levels outside a savepoint exactly when it is open. -/
theorem below?_eq_none_iff {name : String} {s : SavepointStack} :
    below? name s = none ↔ Level.savepoint name ∉ s := by
  induction s with
  | nil => simp [below?]
  | cons level s ih =>
    rw [below?_cons]
    by_cases h : level = .savepoint name
    · simp [h]
    · simp [h, ih, Ne.symm h]

/-- A name is live if and only if a level carries it. -/
theorem isLive_iff {name : String} {s : SavepointStack} :
    s.isLive name = true ↔ Level.savepoint name ∈ s := by
  rw [isLive, Option.isSome_iff_ne_none, ne_eq, below?_eq_none_iff, Classical.not_not]

/-- A savepoint that is found is live. -/
theorem isLive_of_below? {name : String} {s outer : SavepointStack} (h : s.below? name = some outer) :
    s.isLive name = true := by
  rw [isLive, h]
  rfl

/-- It is among the levels. -/
theorem mem_of_below? {name : String} {s outer : SavepointStack} (h : s.below? name = some outer) :
    Level.savepoint name ∈ s :=
  isLive_iff.1 (isLive_of_below? h)

/-- A name means the last savepoint of that name. -/
theorem below?_eq_some_iff {name : String} {s outer : SavepointStack} :
    below? name s = some outer ↔
      ∃ inner, s = outer ++ .savepoint name :: inner ∧ Level.savepoint name ∉ inner := by
  induction s generalizing outer with
  | nil => simp [below?]
  | cons level s ih =>
    rw [below?_cons]
    cases hs : below? name s with
    | some found =>
      have hmem := mem_of_below? hs
      rw [hs] at ih
      simp only [Option.some.injEq] at ih
      cases outer with
      | nil =>
        simp only [Option.map_some, Option.some_or, Option.some.injEq, reduceCtorEq, false_iff]
        rintro ⟨inner, h, hno⟩
        obtain ⟨-, rfl⟩ := List.cons.inj h
        exact hno hmem
      | cons first outer => simp [ih, and_assoc]
    | none =>
      have hnot := below?_eq_none_iff.1 hs
      cases outer with
      | nil =>
        constructor
        · intro h
          by_cases hl : level = .savepoint name
          · exact ⟨s, by simp [hl], hnot⟩
          · simp [hl] at h
        · rintro ⟨inner, h, -⟩
          simp [(List.cons.inj h).1]
      | cons first outer =>
        have : ∀ inner, s ≠ outer ++ .savepoint name :: inner := fun inner h => hnot (by simp [h])
        simp [this]

/-- A level that is put on top is the last one. -/
theorem below?_push (name : String) (s : SavepointStack) :
    below? name (s ++ [.savepoint name]) = some s :=
  below?_eq_some_iff.2 ⟨[], rfl, by simp⟩

/-- The names of levels come in the order of the levels. -/
@[simp] theorem names_append (s t : SavepointStack) : names (s ++ t) = names s ++ names t :=
  List.filterMap_append

end SavepointStack

end SqlMapper
