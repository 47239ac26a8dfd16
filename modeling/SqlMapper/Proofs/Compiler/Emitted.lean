import SqlMapper.Proofs.Sql.Constants

/-!
# Emitted terms

The terms that expressions are compiled to, by what they were made for. Each has a form it is written in, with its
parentheses (`Emitted.written`), the tree it was meant to be (`Emitted.tree`), and the term that a reader makes of
it (`Emitted.read`).

The reader gives `NOT` every operator that binds tighter, wherever the `NOT` stands. A negation is written without
parentheses of its own, so an operator that follows it ends up inside it, and an `IS` in front of it becomes `IS
NOT`. `Emitted.captures` tells whether this happens anywhere; where it does not, the tree that is read is the one
that was meant (`Emitted.skeleton_read_iff`).
-/

namespace SqlMapper

namespace Sql

/-- A constant that is written. -/
abbrev WritableConstant := { c : Constant // c.Writable }

/-- The constant text. -/
def WritableConstant.text (s : String) : WritableConstant := ⟨.literal (.text s), rfl⟩

/-- The constant null. -/
def WritableConstant.null : WritableConstant := ⟨.literal .null, rfl⟩

/-- A term with its parentheses taken out: only what is applied to what. -/
def Term.skeleton : Term → Term
  | .not x => .not x.skeleton
  | .sign negative x => .sign negative x.skeleton
  | .binary op l r => .binary op l.skeleton r.skeleton
  | .member item set => .member item.skeleton set
  | .apply f x => .apply f x.skeleton
  | .replace x old new => .replace x.skeleton old.skeleton new.skeleton
  | .castText x => .castText x.skeleton
  | .paren x => x.skeleton
  | t => t

/-- What is read when an operator of a level comes after a term: an operator that binds tighter than `NOT` goes
inside a negation. -/
def Term.followedBy (level : Nat) (make : Term → Term) : Term → Term
  | .not x => if notLevel < level then .not (make x) else make (.not x)
  | t => make t

/-- What is read of an operator between two terms: `IS` before a negation is `IS NOT`. -/
def BinaryOp.between (op : BinaryOp) (right left : Term) : Term :=
  match op, right with
  | .is, .not x => .binary .isNot left x
  | _, _ => .binary op left right

/-- What is read of a needle between two percent signs. -/
def Term.surrounded : Term → Term
  | .not x => .binary .concat (.string "%") (.not (.binary .concat x (.string "%")))
  | t => .binary .concat (.binary .concat (.string "%") t) (.string "%")

theorem Term.followedBy_of_ne_not {t : Term} (h : ∀ x, t ≠ .not x) (level : Nat) (make : Term → Term) :
    t.followedBy level make = make t := by
  unfold Term.followedBy
  split
  · exact absurd rfl (h _)
  · rfl

theorem BinaryOp.between_of_ne_not (op : BinaryOp) {r : Term} (h : ∀ x, r ≠ .not x) (l : Term) :
    op.between r l = .binary op l r := by
  unfold BinaryOp.between
  split
  · exact absurd rfl (h _)
  · rfl

theorem Term.surrounded_of_ne_not {t : Term} (h : ∀ x, t ≠ .not x) :
    t.surrounded = .binary .concat (.binary .concat (.string "%") t) (.string "%") := by
  unfold Term.surrounded
  split
  · exact absurd rfl (h _)
  · rfl

end Sql

/-- What an expression is compiled to. The last two are written with parts of their own: `'%'` around a needle, and
one operand twice. -/
inductive Emitted where
  | constant (c : Sql.WritableConstant)
  | column (table : Option String) (name : String)
  | not (x : Emitted)
  | binary (op : Sql.BinaryOp) (left right : Emitted)
  | member (item : Emitted) (set : List Sql.WritableConstant)
  | apply (f : Sql.TextFunction) (x : Emitted)
  | replace (text old new : Emitted)
  | contains (text needle : Emitted)
  | nullOrEmpty (x : Emitted)

namespace Emitted

open Sql (Term WritableConstant)

/-- The term as it is written. -/
def written : Emitted → Term
  | .constant c => .constant c.1
  | .column table name => .column table name
  | .not x => .not (.paren x.written)
  | .binary op l r => .paren (.binary op l.written r.written)
  | .member item set => .paren (.member item.written (set.map (·.1)))
  | .apply f x => .apply f x.written
  | .replace x old new => .replace x.written old.written new.written
  | .contains x needle =>
    .paren (.binary .like x.written
      (.paren (.binary .concat (.binary .concat (.string "%") needle.written) (.string "%"))))
  | .nullOrEmpty x => .paren (.binary .or (.binary .is x.written .null) (.binary .eq x.written (.string "")))

/-- The tree that is meant. -/
def tree : Emitted → Term
  | .constant c => .constant c.1.reread
  | .column table name => .column table name
  | .not x => .not x.tree
  | .binary op l r => .binary op l.tree r.tree
  | .member item set => .member item.tree (set.map (·.1.reread))
  | .apply f x => .apply f x.tree
  | .replace x old new => .replace x.tree old.tree new.tree
  | .contains x needle =>
    .binary .like x.tree (.binary .concat (.binary .concat (.string "%") needle.tree) (.string "%"))
  | .nullOrEmpty x => .binary .or (.binary .is x.tree .null) (.binary .eq x.tree (.string ""))

/-- The term that is read. -/
def read : Emitted → Term
  | .constant c => .constant c.1.reread
  | .column table name => .column table name
  | .not x => .not (.paren x.read)
  | .binary op l r => .paren (l.read.followedBy op.level (op.between r.read))
  | .member item set => .paren (item.read.followedBy Sql.memberLevel fun t => .member t (set.map (·.1.reread)))
  | .apply f x => .apply f x.read
  | .replace x old new => .replace x.read old.read new.read
  | .contains x needle =>
    .paren (x.read.followedBy Sql.BinaryOp.like.level (Sql.BinaryOp.like.between (.paren needle.read.surrounded)))
  | .nullOrEmpty x =>
    .paren (.binary .or (x.read.followedBy Sql.BinaryOp.is.level (Sql.BinaryOp.is.between .null))
      (x.read.followedBy Sql.BinaryOp.eq.level (Sql.BinaryOp.eq.between (.string ""))))

/-- Whether the term is a negation, which has no parentheses of its own. -/
def isNot : Emitted → Bool
  | .not _ => true
  | _ => false

/-- Whether a negation in the term takes in an operator after it, or is taken into an `IS` before it. -/
def captures : Emitted → Bool
  | .constant _ | .column _ _ => false
  | .not x | .apply _ x => x.captures
  | .binary op l r =>
    (l.isNot && decide (Sql.notLevel < op.level)) || (decide (op = .is) && r.isNot) || l.captures || r.captures
  | .member item _ => item.isNot || item.captures
  | .replace x old new => x.captures || old.captures || new.captures
  | .contains x needle => x.isNot || needle.isNot || x.captures || needle.captures
  | .nullOrEmpty x => x.isNot || x.captures

/-! ## Negations -/

/-- What is read of a term apart from a `NOT` in front. -/
def core : Emitted → Term
  | .not x => .paren x.read
  | m => m.read

/-- What is read of a term that is no negation is its core, and no negation either. -/
theorem read_of_isNot_eq_false {m : Emitted} (h : m.isNot = false) : m.read = m.core ∧ ∀ t, m.read ≠ .not t := by
  cases m with
  | not x => cases h
  | _ => exact ⟨rfl, fun _ => nofun⟩

/-- A negation is read as one. -/
theorem read_of_isNot {m : Emitted} (h : m.isNot = true) : m.read = .not m.core := by
  cases m with
  | not x => rfl
  | _ => cases h

/-- An operator that binds tighter than `NOT` goes inside a negation. -/
theorem followedBy_of_isNot {m : Emitted} {level : Nat} (make : Term → Term) (h : m.isNot = true)
    (hlevel : Sql.notLevel < level) : m.read.followedBy level make = .not (make m.core) := by
  rw [read_of_isNot h, Sql.Term.followedBy, if_pos hlevel]

/-- Any other operator takes the whole term. -/
theorem followedBy_of_not {m : Emitted} {level : Nat} (make : Term → Term)
    (h : ¬(m.isNot = true ∧ Sql.notLevel < level)) :
    m.read.followedBy level make = make m.read := by
  cases hnot : m.isNot with
  | true => rw [read_of_isNot hnot, Sql.Term.followedBy, if_neg fun hlevel => h ⟨hnot, hlevel⟩]
  | false => exact Sql.Term.followedBy_of_ne_not (read_of_isNot_eq_false hnot).2 level make

/-- `IS` in front of a negation is `IS NOT`. -/
theorem between_of_isNot {r : Emitted} (left : Term) (h : r.isNot = true) :
    Sql.BinaryOp.is.between r.read left = .binary .isNot left r.core := by
  rw [read_of_isNot h, Sql.BinaryOp.between]

/-- Any other operator stays as it is. -/
theorem between_of_not {op : Sql.BinaryOp} {r : Emitted} (left : Term) (h : ¬(op = .is ∧ r.isNot = true)) :
    op.between r.read left = .binary op left r.read := by
  unfold Sql.BinaryOp.between
  split
  · rename_i t heq
    cases hnot : r.isNot with
    | true => exact absurd ⟨rfl, hnot⟩ h
    | false => exact absurd heq ((read_of_isNot_eq_false hnot).2 t)
  · rfl

/-- What is read of a needle that is no negation is between the percent signs. -/
theorem surrounded_of_not {m : Emitted} (h : m.isNot = false) :
    m.read.surrounded = .binary .concat (.binary .concat (.string "%") m.read) (.string "%") :=
  Sql.Term.surrounded_of_ne_not (read_of_isNot_eq_false h).2

/-! ## The tree that is read -/

/-- What is read of an operator is the tree that was meant if so are its operands, and no negation among them is
taken from it. -/
theorem skeleton_binary_iff (op : Sql.BinaryOp) {l r : Emitted} (hl : l.read.skeleton = l.tree ↔ l.captures = false)
    (hr : r.read.skeleton = r.tree ↔ r.captures = false) :
    (binary op l r).read.skeleton = (binary op l r).tree ↔ (binary op l r).captures = false := by
  rw [read, tree, captures, Sql.Term.skeleton]
  by_cases hleft : l.isNot = true ∧ Sql.notLevel < op.level
  · rw [followedBy_of_isNot _ hleft.1 hleft.2]
    simp [Sql.Term.skeleton, hleft.1, hleft.2]
  · rw [followedBy_of_not _ hleft]
    by_cases hright : op = .is ∧ r.isNot = true
    · obtain ⟨rfl, hright⟩ := hright
      rw [between_of_isNot _ hright]
      simp [Sql.Term.skeleton, hright]
    · rw [between_of_not _ hright]
      have hplain : (l.isNot && decide (Sql.notLevel < op.level)) = false ∧ (decide (op = .is) && r.isNot) = false := by
        simpa using And.intro hleft hright
      simp [Sql.Term.skeleton, hl, hr, hplain.1, hplain.2]

/-- The tree that is read is the one that was meant if and only if no negation takes anything in. -/
theorem skeleton_read_iff (m : Emitted) : m.read.skeleton = m.tree ↔ m.captures = false := by
  induction m with
  | constant c => simp [read, tree, captures, Sql.Term.skeleton]
  | column table name => simp [read, tree, captures, Sql.Term.skeleton]
  | not x ih => simpa [read, tree, captures, Sql.Term.skeleton] using ih
  | apply f x ih => simpa [read, tree, captures, Sql.Term.skeleton] using ih
  | replace x old new ihx ihold ihnew =>
    simp [read, tree, captures, Sql.Term.skeleton, ihx, ihold, ihnew, and_assoc]
  | binary op l r ihl ihr => exact skeleton_binary_iff op ihl ihr
  | member item set ih =>
    rw [read, tree, captures, Sql.Term.skeleton]
    cases hitem : item.isNot with
    | true =>
      rw [followedBy_of_isNot _ hitem (by decide)]
      simp [Sql.Term.skeleton]
    | false =>
      rw [followedBy_of_not _ (by simp [hitem])]
      simp [Sql.Term.skeleton, ih]
  | contains x needle ihx ihneedle =>
    rw [read, tree, captures, Sql.Term.skeleton]
    cases hx : x.isNot with
    | true =>
      rw [followedBy_of_isNot _ hx (by decide)]
      simp [Sql.Term.skeleton]
    | false =>
      rw [followedBy_of_not _ (by simp [hx])]
      cases hneedle : needle.isNot with
      | true =>
        rw [read_of_isNot hneedle]
        simp [Sql.BinaryOp.between, Sql.Term.skeleton, Sql.Term.surrounded, Sql.Term.string]
      | false =>
        rw [surrounded_of_not hneedle]
        simp [Sql.BinaryOp.between, Sql.Term.skeleton, Sql.Term.string, ihx, ihneedle]
  | nullOrEmpty x ih =>
    rw [read, tree, captures, Sql.Term.skeleton]
    cases hx : x.isNot with
    | true =>
      rw [followedBy_of_isNot _ hx (by decide)]
      simp [Sql.Term.skeleton]
    | false =>
      rw [followedBy_of_not _ (by simp [hx]), followedBy_of_not _ (by simp [hx])]
      simp [Sql.BinaryOp.between, Sql.Term.skeleton, Sql.Term.string, Sql.Term.null, ih]

end Emitted

end SqlMapper
