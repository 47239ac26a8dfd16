import SqlMapper.Number.Binary

/-!
# TOML documents

A document is a tree of tables. While it is read, tables come about in four ways, and each may be
added to by other means: by a header, as a table on the way to one, by a dotted key, or in braces.
`Toml.at` goes down a path, making the tables that are missing, and `Toml.assign`, `Toml.openTable`
and `Toml.appendTable` are the three ways of adding to a tree; a key that is taken is refused, and
so is adding to a table by a means that it does not allow.
-/

namespace SqlMapper

/-- How a table came about. -/
inductive TableOrigin where
  | header
  | implied
  | dotted
  | braces
  deriving DecidableEq, Repr

/-- A value of a document. The tables of an array of tables are held apart, the last one open to
additions. -/
inductive Toml where
  | string (value : String)
  | integer (value : Int)
  | real (value : Binary64)
  | boolean (value : Bool)
  | moment (text : String)
  | array (items : List Toml)
  | table (origin : TableOrigin) (entries : List (String × Toml))
  | tables (earlier : List (List (String × Toml))) (last : List (String × Toml))

/-- The entries of a table, in the order in which their keys came up. -/
abbrev TomlEntries := List (String × Toml)

/-- The entries with another value for a key that is there. -/
def TomlEntries.replace (key : String) (value : Toml) (entries : TomlEntries) : TomlEntries :=
  entries.map fun e => if e.1 = key then (key, value) else e

/-- What is done to a table once it is reached: its entries change, or the change is refused. -/
abbrev TomlChange := TableOrigin → TomlEntries → Option TomlEntries

/-- Changes the table at a path, making the tables on the way that are missing. A dotted path does
not lead into a table that has a header of its own, and no path leads into a value. -/
def Toml.at (dotted : Bool) (change : TomlChange) : List String → TomlChange
  | [], origin, entries => change origin entries
  | key :: path, _, entries =>
    match entries.lookup key with
    | none => do
      let origin := if dotted then .dotted else .implied
      let inner ← Toml.at dotted change path origin []
      some (entries ++ [(key, .table origin inner)])
    | some (.table origin inner) =>
      if origin = .braces ∨ (dotted ∧ origin = .header) then none
      else do
        let inner ← Toml.at dotted change path origin inner
        some (entries.replace key (.table origin inner))
    | some (.tables earlier last) => do
      let last ← Toml.at dotted change path .header last
      some (entries.replace key (.tables earlier last))
    | some _ => none

/-- Sets a new key. A key at the end of a dotted path goes into a table that dotted keys have made,
and a key without a path into any other. -/
def Toml.set (bare : Bool) (key : String) (value : Toml) : TomlChange := fun origin entries =>
  if (origin == .dotted) == bare then none
  else if (entries.lookup key).isSome then none
  else some (entries ++ [(key, value)])

/-- Sets a key at the end of a dotted path. -/
def Toml.assign (path : List String) (key : String) (value : Toml) : TomlChange :=
  Toml.at true (Toml.set path.isEmpty key value) path

/-- Opens the table of a header: a new one, or one that headers below it have implied. -/
def Toml.openTable (key : String) : TomlChange := fun _ entries =>
  match entries.lookup key with
  | none => some (entries ++ [(key, .table .header [])])
  | some (.table .implied inner) => some (entries.replace key (.table .header inner))
  | some _ => none

/-- Appends a table to the array of tables of a header. -/
def Toml.appendTable (key : String) : TomlChange := fun _ entries =>
  match entries.lookup key with
  | none => some (entries ++ [(key, .tables [] [])])
  | some (.tables earlier last) => some (entries.replace key (.tables (earlier ++ [last]) []))
  | some _ => none

/-- A path without its last key, and that key. -/
def Toml.splitPath? (keys : List String) : Option (List String × String) :=
  keys.getLast?.map fun key => (keys.dropLast, key)

end SqlMapper
