import SqlMapper.Engine.Numeric
import SqlMapper.Sql.Statement

/-!
# Places for values

A statement may have places for values that are bound when it is run. They are numbered from left to
right: a place without a name takes the next number, and so does the first place of a name, whose
later places share it. Filling puts a value into each place, in the order of the text, and a NaN is
filled in as null.
-/

namespace SqlMapper

namespace Sql

/-! ## The places of a statement, in the order of its text -/

def Constant.places : Constant → List Place
  | .literal _ => []
  | .place p => [p]

def Term.places : Term → List Place
  | .constant c => c.places
  | .column _ _ | .word _ | .truth _ => []
  | .not x | .sign _ x | .apply _ x | .castText x | .paren x => x.places
  | .binary _ l r => l.places ++ r.places
  | .member item set => item.places ++ set.flatMap Constant.places
  | .replace x old new => x.places ++ old.places ++ new.places

def optionalPlaces : Option Term → List Place
  | some t => t.places
  | none => []

def ResultColumn.places : ResultColumn → List Place
  | .all => []
  | .term t _ => t.places

def Source.places (s : Source) : List Place := s.joins.flatMap fun j => j.condition.places

def Select.places (q : Select) : List Place :=
  q.columns.flatMap ResultColumn.places ++
    (match q.source with
      | some s => s.places
      | none => []) ++
    optionalPlaces q.condition ++ q.order.flatMap fun k => k.term.places

/-- The places of a statement. -/
def Statement.places : Statement → List Place
  | .select q | .countOf q => q.places
  | .countRows s condition => s.places ++ optionalPlaces condition
  | .delete _ condition => optionalPlaces condition
  | .insert _ _ values => values.flatMap Constant.places
  | .update _ _ value condition => value.places ++ optionalPlaces condition
  | _ => []

/-! ## Numbers -/

/-- The parameters so far, with enough of them for a number. -/
def reachNumber (seen : List Place) (n : Nat) : List Place :=
  seen ++ List.replicate (n - seen.length) .anonymous

/-- The parameters of places by their numbers, each as the place it first stands at, after those
that are already numbered. -/
def parametersFrom : List Place → List Place → List Place
  | seen, [] => seen
  | seen, .anonymous :: rest => parametersFrom (seen ++ [.anonymous]) rest
  | seen, .numbered n :: rest => parametersFrom (reachNumber seen n) rest
  | seen, .named mark name :: rest =>
    parametersFrom (if seen.contains (.named mark name) then seen else seen ++ [.named mark name]) rest

/-- The name of a place, if it has one. -/
def Place.name? : Place → Option String
  | .named _ name => some name
  | _ => none

/-- The parameters of a statement by their numbers, each with its name if it has one. -/
def Statement.parameters (s : Statement) : List (Option String) :=
  (parametersFrom [] s.places).map Place.name?

/-- The numbers of places, counted from zero, after the parameters that are already numbered. -/
def numbersFrom : List Place → List Place → List Nat
  | _, [] => []
  | seen, .anonymous :: rest => seen.length :: numbersFrom (seen ++ [.anonymous]) rest
  | seen, .numbered n :: rest => (n - 1) :: numbersFrom (reachNumber seen n) rest
  | seen, .named mark name :: rest =>
    match seen.idxOf? (.named mark name) with
    | some i => i :: numbersFrom seen rest
    | none => seen.length :: numbersFrom (seen ++ [.named mark name]) rest

/-- The values of the places in the order of the text, given the values of the parameters by their
numbers. -/
def arrange (places : List Place) (values : List Native) : List Native :=
  (numbersFrom [] places).map fun i => values[i]?.getD .null

/-! ## Filling -/

/-- A value as it is bound. -/
def boundValue (v : Native) : Native :=
  match v with
  | .real x => .ofReal x
  | _ => v

/-- Fills the places of something with the values at the front, and hands the other values on. -/
abbrev Filling (α : Type) := List Native → α × List Native

/-- Fills one thing after another. -/
def fillEach {α : Type} (fill : α → Filling α) : List α → Filling (List α)
  | [], vs => ([], vs)
  | a :: rest, vs =>
    let first := fill a vs
    let others := fillEach fill rest first.2
    (first.1 :: others.1, others.2)

/-- The first of the values, null if there is none. -/
def nextValue (vs : List Native) : Native := boundValue (vs.head?.getD .null)

def Constant.fill : Constant → Filling Constant
  | .literal v, vs => (.literal v, vs)
  | .place _, vs => (.literal (nextValue vs), vs.tail)

def Term.fill : Term → Filling Term
  | .constant c, vs =>
    let r := c.fill vs
    (.constant r.1, r.2)
  | .column table name, vs => (.column table name, vs)
  | .word name, vs => (.word name, vs)
  | .truth b, vs => (.truth b, vs)
  | .not x, vs =>
    let r := x.fill vs
    (.not r.1, r.2)
  | .sign negative x, vs =>
    let r := x.fill vs
    (.sign negative r.1, r.2)
  | .binary op l r, vs =>
    let l' := l.fill vs
    let r' := r.fill l'.2
    (.binary op l'.1 r'.1, r'.2)
  | .member item set, vs =>
    let item' := item.fill vs
    let set' := fillEach Constant.fill set item'.2
    (.member item'.1 set'.1, set'.2)
  | .apply f x, vs =>
    let r := x.fill vs
    (.apply f r.1, r.2)
  | .replace x old new, vs =>
    let x' := x.fill vs
    let old' := old.fill x'.2
    let new' := new.fill old'.2
    (.replace x'.1 old'.1 new'.1, new'.2)
  | .castText x, vs =>
    let r := x.fill vs
    (.castText r.1, r.2)
  | .paren x, vs =>
    let r := x.fill vs
    (.paren r.1, r.2)

def fillOptional : Option Term → Filling (Option Term)
  | some t, vs =>
    let r := t.fill vs
    (some r.1, r.2)
  | none, vs => (none, vs)

def ResultColumn.fill : ResultColumn → Filling ResultColumn
  | .all, vs => (.all, vs)
  | .term t title, vs =>
    let r := t.fill vs
    (.term r.1 title, r.2)

def Join.fill (j : Join) : Filling Join := fun vs =>
  let r := j.condition.fill vs
  ({ j with condition := r.1 }, r.2)

def Source.fill (s : Source) : Filling Source := fun vs =>
  let r := fillEach Join.fill s.joins vs
  ({ s with joins := r.1 }, r.2)

def fillSource : Option Source → Filling (Option Source)
  | some s, vs =>
    let r := s.fill vs
    (some r.1, r.2)
  | none, vs => (none, vs)

def SortKey.fill (k : SortKey) : Filling SortKey := fun vs =>
  let r := k.term.fill vs
  ({ k with term := r.1 }, r.2)

def Select.fill (q : Select) : Filling Select := fun vs =>
  let columns := fillEach ResultColumn.fill q.columns vs
  let source := fillSource q.source columns.2
  let condition := fillOptional q.condition source.2
  let order := fillEach SortKey.fill q.order condition.2
  ({ q with columns := columns.1, source := source.1, condition := condition.1, order := order.1 }, order.2)

/-- Fills the places of a statement, in the order of its text. -/
def Statement.fill : Statement → List Native → Statement
  | .select q, vs => .select (q.fill vs).1
  | .countOf q, vs => .countOf (q.fill vs).1
  | .countRows s condition, vs =>
    let r := s.fill vs
    .countRows r.1 (fillOptional condition r.2).1
  | .delete table condition, vs => .delete table (fillOptional condition vs).1
  | .insert table columns values, vs => .insert table columns (fillEach Constant.fill values vs).1
  | .update table column value condition, vs =>
    let r := value.fill vs
    .update table column r.1 (fillOptional condition r.2).1
  | s, _ => s

/-- Binds the parameters of a statement, given by their numbers. -/
def Statement.bind (s : Statement) (values : List Native) : Statement :=
  s.fill (arrange s.places values)

end Sql

end SqlMapper
