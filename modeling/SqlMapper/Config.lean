import SqlMapper.Error
import SqlMapper.Savepoint.Naming
import SqlMapper.Sql.Statement
import SqlMapper.Toml.Document

/-!
# Settings

What a connection is opened with. Every setting has a default, so a document gives only those that
differ; keys that are not settings are passed over, and a setting with a value of the wrong form
makes the whole document an error.
-/

namespace SqlMapper

/-- Where the engine keeps its journal. -/
inductive JournalMode where
  | delete | truncate | persist | memory | wal | off
  deriving DecidableEq, Repr

/-- When the engine waits for the disk. -/
inductive SyncMode where
  | full | normal | off
  deriving DecidableEq, Repr

/-- Settings of a connection. -/
structure Config where
  /-- How long a locked database is tried again, in milliseconds. -/
  busyTimeout : Nat := 5000
  journalMode : JournalMode := .wal
  synchronous : SyncMode := .normal
  foreignKeys : Bool := true
  dateTimeAsTicks : Bool := true
  savepointNaming : SavepointNaming := .counter
  /-- How transactions are opened that are not asked for by mode. -/
  defaultMode : Sql.LockMode := .deferred
  deriving DecidableEq, Repr

/-- Waits for the disk on every commit, and takes the write lock at once. -/
def Config.durable : Config := { synchronous := .full, defaultMode := .immediate }

/-- Keeps the journal in memory and leaves writing to the system. -/
def Config.fast : Config := { journalMode := .memory, synchronous := .off }

/-- Settings for a database in memory. -/
def Config.inMemory : Config := { busyTimeout := 0, journalMode := .memory, synchronous := .off }

/-- How scalars are stored under the settings. -/
def Config.coercion (c : Config) : Coercion := { dateTimeAsTicks := c.dateTimeAsTicks }

/-! ## Keys -/

/-- The keys of journal modes. -/
def JournalMode.keys : List (String × JournalMode) :=
  [("delete", .delete), ("truncate", .truncate), ("persist", .persist), ("memory", .memory), ("wal", .wal),
    ("off", .off)]

/-- The keys of the ways of waiting for the disk. -/
def SyncMode.keys : List (String × SyncMode) :=
  [("full", .full), ("normal", .normal), ("off", .off)]

/-- The keys of lock modes. -/
def Sql.LockMode.keys : List (String × Sql.LockMode) :=
  [("deferred", .deferred), ("immediate", .immediate), ("exclusive", .exclusive)]

/-- The key of a choice. -/
def keyOf {α : Type} [DecidableEq α] (keys : List (String × α)) (choice : α) : String :=
  ((keys.find? fun e => e.2 = choice).map Prod.fst).getD ""

/-! ## Reading -/

/-- Whether nothing is in a table or an array. -/
def Toml.isVoid : Toml → Bool
  | .table _ [] => true
  | .array [] => true
  | _ => false

/-- One of several choices: its key as a string, or a table with nothing but the key and nothing
under it. -/
def Toml.choice? {α : Type} (keys : List (String × α)) : Toml → Option α
  | .string key => keys.lookup key
  | .table _ [(key, content)] => if content.isVoid then keys.lookup key else none
  | _ => none

/-- A number that is not negative. -/
def Toml.count? : Toml → Option Nat
  | .integer n => if 0 ≤ n then some n.toNat else none
  | _ => none

def Toml.truth? : Toml → Option Bool
  | .boolean b => some b
  | _ => none

/-- The stream of a seed. -/
def SavepointNaming.seeded (seed : Toml) : Option SavepointNaming :=
  seed.count?.map fun n => .random (some (UInt64.ofNat n))

/-- A way of naming: a table with a kind, or an array with the kind first. -/
def SavepointNaming.ofToml? : Toml → Option SavepointNaming
  | .table _ entries =>
    match entries.lookup "kind" with
    | some (.string "counter") => some .counter
    | some (.string "random") =>
      match entries.lookup "seed" with
      | some seed => SavepointNaming.seeded seed
      | none => some (.random none)
    | _ => none
  | .array [.string "counter"] => some .counter
  | .array [.string "random", seed] => SavepointNaming.seeded seed
  | _ => none

/-- The value of a key, or the default where there is no such key. -/
def TomlEntries.setting {α : Type} (entries : TomlEntries) (key : String) (read : Toml → Option α) (default : α) :
    Option α :=
  match entries.lookup key with
  | some v => read v
  | none => some default

/-- The settings of a document. -/
def Config.ofToml? (entries : TomlEntries) : Option Config := do
  let base : Config := {}
  some {
    busyTimeout := ← entries.setting "busy_timeout_ms" Toml.count? base.busyTimeout
    journalMode := ← entries.setting "journal_mode" (Toml.choice? JournalMode.keys) base.journalMode
    synchronous := ← entries.setting "synchronous" (Toml.choice? SyncMode.keys) base.synchronous
    foreignKeys := ← entries.setting "foreign_keys" Toml.truth? base.foreignKeys
    dateTimeAsTicks := ← entries.setting "store_datetime_as_ticks" Toml.truth? base.dateTimeAsTicks
    savepointNaming := ← entries.setting "savepoint_naming" SavepointNaming.ofToml? base.savepointNaming
    defaultMode :=
      ← entries.setting "default_transaction_mode" (Toml.choice? Sql.LockMode.keys) base.defaultMode }

/-- The settings of a text; an error names the place the text is from. -/
def Config.parse (place text : String) : Except Error Config :=
  match (Toml.read? text).bind Config.ofToml? with
  | some c => .ok c
  | none => .error (.config place)

/-- The settings of a file, given what is in it; the file may be missing. -/
def Config.load (path : String) (content : Option String) : Except Error Config :=
  match content with
  | some text => Config.parse path text
  | none => .error .missingFile

/-- The settings of the file at the usual place, or the defaults if there is none. -/
def Config.loadDefault (path : String) (content : Option String) : Except Error Config :=
  match content with
  | some text => Config.parse path text
  | none => .ok {}

end SqlMapper
