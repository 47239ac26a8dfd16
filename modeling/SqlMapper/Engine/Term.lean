import SqlMapper.Engine.Error
import SqlMapper.Engine.Numeric
import SqlMapper.Engine.Order
import SqlMapper.Engine.Pattern
import SqlMapper.Sql.TermReader

/-!
# The value of a term

A term is evaluated on a row whose columns a frame names. Truth has three values, null being the
unknown one. A name in quotation marks that is no column stands for the text of the name, and the
words for truth values stand for one and zero; every other name has to be exactly one column.
-/

namespace SqlMapper

/-- A column of a frame. -/
structure Slot where
  table : String
  name : String
  /-- Whether texts that are numbers are compared with the column as numbers. -/
  numeric : Bool
  deriving DecidableEq, Repr

/-- The columns of a row, in its order. -/
abbrev Frame := List Slot

/-- What a name means in a frame. -/
inductive Reference where
  | missing
  | ambiguous
  | at (index : Nat)
  deriving DecidableEq, Repr

/-- Whether a name, perhaps with a table, means a column. Case does not count. -/
def Slot.answersTo (table : Option String) (name : String) (s : Slot) : Bool :=
  Sql.sameWord s.name name &&
    match table with
    | some t => Sql.sameWord s.table t
    | none => true

/-- The positions of the columns that a name means. -/
def Frame.positions (f : Frame) (table : Option String) (name : String) : List Nat :=
  (f.zipIdx.filter fun p => p.1.answersTo table name).map Prod.snd

/-- What a name means. -/
def Frame.find (f : Frame) (table : Option String) (name : String) : Reference :=
  match f.positions table name with
  | [] => .missing
  | [i] => .at i
  | _ => .ambiguous

/-! ## Checks -/

/-- The name of a column that hides the word for a truth value. -/
def truthWord (b : Bool) : String := if b then "true" else "false"

/-- The fault of a name. -/
def Reference.fault? (unquoted : Bool) : Reference → Option EngineError
  | .missing => if unquoted then some .unknownColumn else none
  | .ambiguous => some .ambiguousColumn
  | .at _ => none

/-- The first fault of the names in a term. -/
def Sql.Term.fault? (f : Frame) : Sql.Term → Option EngineError
  | .constant _ => none
  | .column table name => (f.find table name).fault? table.isSome
  | .word name => (f.find none name).fault? true
  | .truth b => (f.find none (truthWord b)).fault? false
  | .not x | .sign _ x | .apply _ x | .castText x | .paren x | .member x _ => x.fault? f
  | .binary _ l r => (l.fault? f).or (r.fault? f)
  | .replace x old new => (x.fault? f).or ((old.fault? f).or (new.fault? f))

/-! ## Truth -/

/-- Whether a value counts as true; null is neither. -/
def Native.truth? (v : Native) : Option Bool := v.toReal?.map fun x => !x.isZero

/-- A truth value as a value. -/
def Native.ofTruth : Option Bool → Native
  | none => .null
  | some true => .integer 1
  | some false => .integer 0

/-- Both. -/
def bothTrue : Option Bool → Option Bool → Option Bool
  | some false, _ | _, some false => some false
  | some true, some true => some true
  | _, _ => none

/-- Either. -/
def eitherTrue : Option Bool → Option Bool → Option Bool
  | some true, _ | _, some true => some true
  | some false, some false => some false
  | _, _ => none

/-! ## Operators -/

/-- A comparison; with a null it is unknown. -/
def Native.comparison (test : Ordering → Bool) (a b : Native) : Native :=
  if a.isNull || b.isNull then .null else .ofTruth (some (test (a.compare b)))

/-- An operation on texts; with a null it is null. -/
def Native.onTexts (op : String → String → Native) (a b : Native) : Native :=
  match a.toText?, b.toText? with
  | some s, some t => op s t
  | _, _ => .null

/-- A binary operator on values. -/
def Native.operate (op : Sql.BinaryOp) (a b : Native) : Native :=
  match op with
  | .or => .ofTruth (eitherTrue a.truth? b.truth?)
  | .and => .ofTruth (bothTrue a.truth? b.truth?)
  | .eq => a.comparison (· == .eq) b
  | .ne => a.comparison (· != .eq) b
  | .lt => a.comparison (· == .lt) b
  | .le => a.comparison (· != .gt) b
  | .gt => a.comparison (· == .gt) b
  | .ge => a.comparison (· != .lt) b
  | .is => .ofTruth (some (a.same b))
  | .isNot => .ofTruth (some (!a.same b))
  | .like => a.onTexts (fun s t => .ofTruth (some (isLike s t))) b
  | .concat => a.onTexts (fun s t => .text (s ++ t)) b
  | .bitAnd => a.bits (· &&& ·) b
  | .bitOr => a.bits (· ||| ·) b
  | .add => a.add b
  | .sub => a.sub b
  | .mul => a.mul b
  | .div => a.div b
  | .rem => a.rem b

/-- Whether an operator compares its operands. -/
def Sql.BinaryOp.compares : Sql.BinaryOp → Bool
  | .eq | .ne | .lt | .le | .gt | .ge | .is | .isNot => true
  | _ => false

/-- Membership in a set: true if the item equals a member, unknown if it does not but null is
involved. Nothing is a member of the empty set. -/
def Native.memberOf (item : Native) (set : List Native) : Native :=
  if set.isEmpty then .ofTruth (some false)
  else if item.isNull then .null
  else if set.any fun v => !v.isNull && item.same v then .ofTruth (some true)
  else if set.any Native.isNull then .null
  else .ofTruth (some false)

/-! ## Functions -/

/-- A text without the spaces at its ends. -/
def trimSpaces (s : String) : String :=
  let cs := s.toList.dropWhile (· == ' ')
  String.ofList (cs.reverse.dropWhile (· == ' ')).reverse

/-- A function of one argument on a text; the cases are those of ASCII. -/
def Sql.TextFunction.run (f : Sql.TextFunction) (s : String) : String :=
  match f with
  | .lower => String.ofList (s.toList.map Char.toLower)
  | .upper => String.ofList (s.toList.map Char.toUpper)
  | .trim => trimSpaces s

/-- Replaces every occurrence of a part that is not empty, from left to right. -/
def replaceAll (old new : List Char) : List Char → List Char
  | [] => []
  | c :: rest =>
    if old.isPrefixOf (c :: rest) ∧ !old.isEmpty then
      new ++ replaceAll old new ((c :: rest).drop (max 1 old.length))
    else c :: replaceAll old new rest
termination_by cs => cs.length
decreasing_by all_goals simp only [List.length_cons, List.length_drop]; omega

/-- Replacement on values; replacing nothing leaves the text as it is. -/
def Native.replaceIn (text old new : Native) : Native :=
  match text.toText?, old.toText? with
  | some s, some o =>
    if (upToNull o).isEmpty then .text s
    else
      match new.toText? with
      | some n => .text (String.ofList (replaceAll o.toList n.toList s.toList))
      | none => .null
  | _, _ => .null

/-- A value as text; bytes that are no text stay bytes. -/
def Native.castText : Native → Native
  | .blob b =>
    match String.fromUTF8? ⟨b.toArray⟩ with
    | some s => .text s
    | none => .blob b
  | v =>
    match v.toText? with
    | some s => .text s
    | none => .null

/-! ## Terms -/

/-- Whether a term is a column that is compared as a number. -/
def Sql.Term.isNumeric (f : Frame) : Sql.Term → Bool
  | .column table name =>
    match f.find table name with
    | .at i => (f[i]?.map Slot.numeric).getD false
    | _ => false
  | .word name =>
    match f.find none name with
    | .at i => (f[i]?.map Slot.numeric).getD false
    | _ => false
  | .paren x => x.isNumeric f
  | _ => false

/-- The value of a constant; a place that is not filled is null. -/
def Sql.Constant.value : Sql.Constant → Native
  | .literal v => v
  | .place _ => .null

/-- The value of a term on a row. -/
def Sql.Term.eval (f : Frame) (row : List Native) : Sql.Term → Native
  | .constant c => c.value
  | .column table name =>
    match f.find table name with
    | .at i => row[i]?.getD .null
    | _ => .text name
  | .word name =>
    match f.find none name with
    | .at i => row[i]?.getD .null
    | _ => .null
  | .truth b =>
    match f.find none (truthWord b) with
    | .at i => row[i]?.getD .null
    | _ => .ofTruth (some b)
  | .not x => .ofTruth ((x.eval f row).truth?.map (!·))
  | .sign negative x => if negative then (Native.integer 0).sub (x.eval f row) else x.eval f row
  | .binary op l r =>
    let a := l.eval f row
    let b := r.eval f row
    let numeric := op.compares && (l.isNumeric f || r.isNumeric f)
    if numeric then a.asNumeric.operate op b.asNumeric else a.operate op b
  | .member item set =>
    let v := item.eval f row
    let members := set.map Constant.value
    v.memberOf (if item.isNumeric f then members.map Native.asNumeric else members)
  | .apply g x =>
    match (x.eval f row).toText? with
    | some s => .text (g.run s)
    | none => .null
  | .replace x old new => (x.eval f row).replaceIn (old.eval f row) (new.eval f row)
  | .castText x => (x.eval f row).castText
  | .paren x => x.eval f row

/-- Whether a condition keeps a row. -/
def Sql.Term.holds (t : Sql.Term) (f : Frame) (row : List Native) : Bool :=
  (t.eval f row).truth? == some true

end SqlMapper
