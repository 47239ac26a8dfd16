import SqlMapper.Text.Hex

/-!
# Lexical parts of TOML

Blanks, line ends, comments, the four forms of strings, and keys. A string is read piece by piece: a
step takes one character, one escape or one run of quotes off the text and says whether the string
goes on.
-/

namespace SqlMapper

/-- Space and tab. -/
def Toml.isBlank (c : Char) : Bool := c == ' ' || c == '\t'

/-- The text after blanks. -/
def Toml.skipBlanks (cs : List Char) : List Char := cs.dropWhile Toml.isBlank

/-- The text after a line feed, with or without a carriage return in front of it. -/
def Toml.afterNewline? : List Char → Option (List Char)
  | '\n' :: rest => some rest
  | '\r' :: '\n' :: rest => some rest
  | _ => none

/-- Characters that may stand in a comment and, the quotes and the backslash apart, in a string on
one line: no control characters but the tab. -/
def Toml.isPlain (c : Char) : Bool := c == '\t' || (0x20 ≤ c.toNat && c.toNat != 0x7F)

/-- The text after the rest of a line: blanks, perhaps a comment, and a line end or the end of the
text. -/
def Toml.afterLine? (cs : List Char) : Option (List Char) :=
  let cs := Toml.skipBlanks cs
  let cs :=
    match cs with
    | '#' :: rest => rest.dropWhile Toml.isPlain
    | _ => cs
  if cs.isEmpty then some [] else Toml.afterNewline? cs

/-- The text after blanks and line ends. -/
def Toml.skipSpace : List Char → List Char
  | '\n' :: rest => Toml.skipSpace rest
  | '\r' :: '\n' :: rest => Toml.skipSpace rest
  | c :: rest => if Toml.isBlank c then Toml.skipSpace rest else c :: rest
  | [] => []

/-- The text after blanks, line ends and comments, each comment ended by a line end. The flag tells
whether a comment is being skipped. -/
def Toml.skipLines : Bool → List Char → Option (List Char)
  | inComment, [] => if inComment then none else some []
  | _, '\n' :: rest => Toml.skipLines false rest
  | _, '\r' :: '\n' :: rest => Toml.skipLines false rest
  | true, c :: rest => if Toml.isPlain c then Toml.skipLines true rest else none
  | false, c :: rest =>
    if Toml.isBlank c then Toml.skipLines false rest
    else if c = '#' then Toml.skipLines true rest
    else some (c :: rest)

/-! ## Strings -/

/-- A piece of a string and the text after it; the last piece ends the string. -/
inductive Toml.Piece where
  | more (piece rest : List Char)
  | last (piece rest : List Char)

/-- Reads pieces up to the last one, if that is not beyond the first `fuel` of them. -/
def Toml.collectWithin (step : List Char → Option Toml.Piece) :
    Nat → List Char → Option (List Char × List Char)
  | 0, _ => none
  | fuel + 1, cs =>
    match step cs with
    | none => none
    | some (.last piece rest) => some (piece, rest)
    | some (.more piece rest) =>
      (Toml.collectWithin step fuel rest).map fun r => (piece ++ r.1, r.2)

/-- Reads pieces up to the last one. Each takes a character at least, so there are no more pieces
than characters. -/
def Toml.collect (step : List Char → Option Toml.Piece) (cs : List Char) :
    Option (List Char × List Char) :=
  Toml.collectWithin step (cs.length + 1) cs

/-- The character of so many hexadecimal digits. -/
def Toml.codePoint? (width : Nat) (cs : List Char) : Option Toml.Piece := do
  let ds := cs.take width
  let n ← ds.foldl (fun n c => do return 16 * (← n) + (← Hex.digit? c)) (some 0)
  if ds.length = width ∧ n.isValidChar then some (.more [Char.ofNat n] (cs.drop width)) else none

/-- The character after a backslash stands for. -/
def Toml.escape? : List Char → Option Toml.Piece
  | 'b' :: rest => some (.more ['\x08'] rest)
  | 't' :: rest => some (.more ['\t'] rest)
  | 'n' :: rest => some (.more ['\n'] rest)
  | 'f' :: rest => some (.more ['\x0c'] rest)
  | 'r' :: rest => some (.more ['\r'] rest)
  | '"' :: rest => some (.more ['"'] rest)
  | '\\' :: rest => some (.more ['\\'] rest)
  | 'u' :: rest => Toml.codePoint? 4 rest
  | 'U' :: rest => Toml.codePoint? 8 rest
  | _ => none

/-- A character that stands for itself. -/
def Toml.plainPiece? : List Char → Option Toml.Piece
  | c :: rest => if Toml.isPlain c then some (.more [c] rest) else none
  | [] => none

/-- A step in a string between quotes on one line. -/
def Toml.basicStep : List Char → Option Toml.Piece
  | '"' :: rest => some (.last [] rest)
  | '\\' :: rest => Toml.escape? rest
  | cs => Toml.plainPiece? cs

/-- A step in a string between apostrophes on one line. -/
def Toml.literalStep : List Char → Option Toml.Piece
  | '\'' :: rest => some (.last [] rest)
  | cs => Toml.plainPiece? cs

/-- A run of marks in a string on several lines: up to two stand for themselves, three end the
string, and up to two before the three that end it belong to it. -/
def Toml.markRun (mark : Char) (cs : List Char) : Toml.Piece :=
  let n := (cs.takeWhile (· == mark)).length
  if n < 3 then .more (List.replicate n mark) (cs.drop n)
  else .last (List.replicate (min (n - 3) 2) mark) (cs.drop (min n 5))

/-- The text after the blanks and line ends that a backslash at the end of a line takes with it. -/
def Toml.afterJoin? (cs : List Char) : Option (List Char) :=
  (Toml.afterNewline? (Toml.skipBlanks cs)).map Toml.skipSpace

/-- A line end inside a string, or a character that stands for itself. -/
def Toml.linePiece? (cs : List Char) : Option Toml.Piece :=
  match Toml.afterNewline? cs with
  | some rest => some (.more ['\n'] rest)
  | none => Toml.plainPiece? cs

/-- A step in a string between quotes on several lines. -/
def Toml.basicLinesStep : List Char → Option Toml.Piece
  | '"' :: rest => some (Toml.markRun '"' ('"' :: rest))
  | '\\' :: rest =>
    match Toml.afterJoin? rest with
    | some rest => some (.more [] rest)
    | none => Toml.escape? rest
  | cs => Toml.linePiece? cs

/-- A step in a string between apostrophes on several lines. -/
def Toml.literalLinesStep : List Char → Option Toml.Piece
  | '\'' :: rest => some (Toml.markRun '\'' ('\'' :: rest))
  | cs => Toml.linePiece? cs

/-- A string on several lines; a line end right after the opening marks is not part of it. -/
def Toml.readLines (step : List Char → Option Toml.Piece) (cs : List Char) :
    Option (List Char × List Char) :=
  Toml.collect step ((Toml.afterNewline? cs).getD cs)

/-- A string of any form. -/
def Toml.readString : List Char → Option (List Char × List Char)
  | '"' :: '"' :: '"' :: rest => Toml.readLines Toml.basicLinesStep rest
  | '"' :: rest => Toml.collect Toml.basicStep rest
  | '\'' :: '\'' :: '\'' :: rest => Toml.readLines Toml.literalLinesStep rest
  | '\'' :: rest => Toml.collect Toml.literalStep rest
  | _ => none

/-! ## Keys -/

/-- Characters of a key without quotes. -/
def Toml.isKeyChar (c : Char) : Bool := c.isAlphanum || c == '-' || c == '_'

/-- A key without dots: bare, or a string on one line. -/
def Toml.readSimpleKey : List Char → Option (String × List Char)
  | '"' :: rest => (Toml.collect Toml.basicStep rest).map fun r => (String.ofList r.1, r.2)
  | '\'' :: rest => (Toml.collect Toml.literalStep rest).map fun r => (String.ofList r.1, r.2)
  | cs =>
    let name := cs.takeWhile Toml.isKeyChar
    if name.isEmpty then none else some (String.ofList name, cs.dropWhile Toml.isKeyChar)

/-- Keys joined by dots, blanks around each; the number bounds how many there may be. -/
def Toml.readKeys : Nat → List Char → Option (List String × List Char)
  | 0, _ => none
  | most + 1, cs => do
    let (key, rest) ← Toml.readSimpleKey (Toml.skipBlanks cs)
    match Toml.skipBlanks rest with
    | '.' :: rest =>
      let (keys, rest) ← Toml.readKeys most rest
      some (key :: keys, rest)
    | rest => some ([key], rest)

/-- How deep values nest and how many keys a dotted key has, at most. -/
def Toml.depthLimit : Nat := 79

end SqlMapper
