import SqlMapper.Text.Blank
import SqlMapper.Value.Kind

/-!
# Tables

A table has a name and columns, and each column a name in the store and a property name on the side
of the application. A `Table` is valid by its type: names are not blank, every key (a column's name,
and its property where it differs) stands for one column, at most one column is the primary key, and
only an integer primary key is assigned by the store. `Table.build` reports the first fault in the
order of declaration.
-/

namespace SqlMapper

/-- A column of a table. -/
structure Column where
  name : String
  property : String
  kind : Kind
  primaryKey : Bool := false
  autoIncrement : Bool := false
  nullable : Bool := false
  deriving DecidableEq, Repr

/-- What is wrong with the description of a table. -/
inductive SchemaFault where
  | blankTable
  | noColumns
  | blankColumn (index : Nat)
  | duplicateColumn (name : String)
  | duplicateProperty (property : String)
  | secondPrimaryKey
  | autoIncrementNotKey (name : String)
  deriving DecidableEq, Repr

/-- The wording of each fault. -/
def SchemaFault.message : SchemaFault → String
  | .blankTable => "table name is empty"
  | .noColumns => "table declares no columns"
  | .blankColumn index => s!"column {index} has an empty name"
  | .duplicateColumn name => "duplicate column '" ++ name ++ "'"
  | .duplicateProperty property => "duplicate property '" ++ property ++ "'"
  | .secondPrimaryKey => "more than one primary key"
  | .autoIncrementNotKey name => "auto_increment column '" ++ name ++ "' must be an integer primary key"

/-- The keys that a column is found by. -/
def Column.keys (c : Column) : List String :=
  if c.property = c.name then [c.name] else [c.name, c.property]

/-- Whether the column is found by a key. -/
def Column.answersTo (key : String) (c : Column) : Bool := c.name == key || c.property == key

/-- Whether the store assigns the column. -/
def Column.isAssigned (c : Column) : Bool := c.primaryKey && c.autoIncrement

/-- The fault of a column at an index, after columns with the given keys and, perhaps, a primary key
among them. -/
def Column.fault? (index : Nat) (seen : List String) (hasKey : Bool) (c : Column) :
    Option SchemaFault :=
  if isBlank c.name then some (.blankColumn index)
  else if c.name ∈ seen then some (.duplicateColumn c.name)
  else if c.property ≠ c.name ∧ c.property ∈ seen then some (.duplicateProperty c.property)
  else if c.primaryKey ∧ hasKey then some .secondPrimaryKey
  else if c.autoIncrement ∧ ¬(c.primaryKey ∧ c.kind.isInteger) then some (.autoIncrementNotKey c.name)
  else none

/-- The first fault of the columns from an index on. -/
def Column.firstFault? (index : Nat) (seen : List String) (hasKey : Bool) :
    List Column → Option SchemaFault
  | [] => none
  | c :: rest =>
    match c.fault? index seen hasKey with
    | some fault => some fault
    | none => Column.firstFault? (index + 1) (seen ++ c.keys) (hasKey || c.primaryKey) rest

/-- The first fault of the description of a table. -/
def Table.firstFault? (name : String) (columns : List Column) : Option SchemaFault :=
  if isBlank name then some .blankTable
  else if columns.isEmpty then some .noColumns
  else Column.firstFault? 0 [] false columns

/-- A table without faults. -/
structure Table where
  name : String
  columns : List Column
  valid : Table.firstFault? name columns = none
  deriving DecidableEq

/-- The table of a description, or its first fault. -/
def Table.build (name : String) (columns : List Column) : Except SchemaFault Table :=
  match h : Table.firstFault? name columns with
  | none => .ok ⟨name, columns, h⟩
  | some fault => .error fault

/-- The position of the column that a key stands for. -/
def Table.columnIndex? (t : Table) (key : String) : Option Nat :=
  t.columns.findIdx? (Column.answersTo key)

/-- The column that a key stands for. -/
def Table.column? (t : Table) (key : String) : Option Column :=
  t.columns.find? (Column.answersTo key)

/-- The primary key. -/
def Table.primaryKey? (t : Table) : Option Column := t.columns.find? Column.primaryKey

/-- The columns that an insertion writes, each with its position: all that the store does not
assign. -/
def Table.insertColumns (t : Table) : List (Nat × Column) :=
  (t.columns.zipIdx.map fun p => (p.2, p.1)).filter fun p => !p.2.isAssigned

end SqlMapper
