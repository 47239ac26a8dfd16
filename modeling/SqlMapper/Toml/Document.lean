import SqlMapper.Toml.Scalar

/-!
# Reading TOML documents

Values nest through arrays and tables in braces. A document is read line by line: blank lines and
comments, headers, and assignments to the table of the last header. Main definition: `Toml.read?`,
the tree of a text, if it is a document.
-/

namespace SqlMapper

mutual

/-- Reads a value; `depth` more levels of nesting are allowed. -/
def Toml.readValue (depth : Nat) : Nat → List Char → Option (Toml × List Char)
  | 0, _ => none
  | fuel + 1, cs =>
    match cs with
    | [] => none
    | c :: rest =>
      if c = '"' ∨ c = '\'' then (Toml.readString cs).map fun r => (.string (String.ofList r.1), r.2)
      else if c = '[' then if depth = 0 then none else Toml.readItems (depth - 1) [] fuel rest
      else if c = '\x7b' then if depth = 0 then none else Toml.readBraces (depth - 1) fuel (Toml.skipBlanks rest)
      else Toml.readWord cs

/-- Reads the items of an array after those that are already read. -/
def Toml.readItems (depth : Nat) (items : List Toml) : Nat → List Char → Option (Toml × List Char)
  | 0, _ => none
  | fuel + 1, cs => do
    match ← Toml.skipLines false cs with
    | ']' :: rest => some (.array items, rest)
    | cs =>
      let (item, rest) ← Toml.readValue depth fuel cs
      match ← Toml.skipLines false rest with
      | ',' :: rest => Toml.readItems depth (items ++ [item]) fuel rest
      | ']' :: rest => some (.array (items ++ [item]), rest)
      | _ => none

/-- Reads a table in braces, the first brace taken off. -/
def Toml.readBraces (depth : Nat) : Nat → List Char → Option (Toml × List Char)
  | 0, _ => none
  | fuel + 1, cs =>
    match cs with
    | '\x7d' :: rest => some (.table .braces [], rest)
    | _ => Toml.readPairs depth [] fuel cs

/-- Reads the pairs of a table in braces after those that are already read. -/
def Toml.readPairs (depth : Nat) (entries : TomlEntries) :
    Nat → List Char → Option (Toml × List Char)
  | 0, _ => none
  | fuel + 1, cs => do
    let (path, key, value, rest) ← Toml.readPair depth fuel cs
    let entries ← Toml.assign path key value .braces entries
    match Toml.skipBlanks rest with
    | ',' :: rest => Toml.readPairs depth entries fuel rest
    | '\x7d' :: rest => some (.table .braces entries, rest)
    | _ => none

/-- Reads a key, an equals sign and a value. -/
def Toml.readPair (depth : Nat) : Nat → List Char → Option (List String × String × Toml × List Char)
  | 0, _ => none
  | fuel + 1, cs => do
    let (keys, rest) ← Toml.readKeys Toml.depthLimit cs
    let (path, key) ← Toml.splitPath? keys
    match rest with
    | '=' :: rest =>
      let (value, rest) ← Toml.readValue depth fuel (Toml.skipBlanks rest)
      some (path, key, value, rest)
    | _ => none

end

/-- A document as far as it is read: the path of the last header, and the entries of the root. -/
structure TomlState where
  path : List String
  root : TomlEntries

/-- Reads a header, the first bracket taken off, and opens its table. -/
def TomlState.readHeader (s : TomlState) (cs : List Char) : Option (TomlState × List Char) := do
  let repeated := cs.head? = some '['
  let (keys, rest) ← Toml.readKeys Toml.depthLimit (if repeated then cs.drop 1 else cs)
  let (path, key) ← Toml.splitPath? keys
  let root ← Toml.at false (if repeated then Toml.appendTable key else Toml.openTable key) path .header s.root
  let rest ← match rest with
    | ']' :: ']' :: rest => if repeated then some rest else none
    | ']' :: rest => if repeated then none else some rest
    | _ => none
  some (⟨keys, root⟩, ← Toml.afterLine? rest)

/-- Reads an assignment to the table of the last header. -/
def TomlState.readAssignment (s : TomlState) (cs : List Char) : Option (TomlState × List Char) := do
  let (path, key, value, rest) ← Toml.readPair Toml.depthLimit (2 * cs.length + 2) cs
  let root ← Toml.at false (Toml.assign path key value) s.path .header s.root
  some ({ s with root }, ← Toml.afterLine? rest)

/-- Reads the lines of a document, each of them shortening the text. -/
def TomlState.readLines (s : TomlState) (cs : List Char) : Option TomlState :=
  let step : Option (TomlState × List Char) :=
    match Toml.skipBlanks cs with
    | '[' :: rest => s.readHeader rest
    | '#' :: rest => (Toml.afterLine? ('#' :: rest)).map fun rest => (s, rest)
    | text =>
      match Toml.afterNewline? text with
      | some rest => some (s, rest)
      | none => s.readAssignment text
  if (Toml.skipBlanks cs).isEmpty then some s
  else
    match step with
    | some (s, rest) => if rest.length < cs.length then TomlState.readLines s rest else none
    | none => none
termination_by cs.length

/-- The entries of the root of a document. A mark of the byte order in front is skipped. -/
def Toml.read? (text : String) : Option TomlEntries :=
  let cs :=
    match text.toList with
    | '\ufeff' :: rest => rest
    | cs => cs
  (TomlState.readLines ⟨[], []⟩ cs).map TomlState.root

end SqlMapper
