import SqlMapper.Text.Hex

/-!
# UUIDs

Sixteen bytes. They are written as lower-case digits with hyphens after the eighth, twelfth,
sixteenth and twentieth digit, so that the texts are ordered as the bytes are. Reading also takes
the digits without hyphens, the hyphenated form between braces and the hyphenated form after
`urn:uuid:`, in any case.
-/

namespace SqlMapper

/-- Sixteen bytes. -/
structure Uuid where
  bytes : List UInt8
  length_eq : bytes.length = 16
  deriving DecidableEq

/-- The UUID of sixteen bytes. -/
def Uuid.ofBytes? (bytes : List UInt8) : Option Uuid :=
  if h : bytes.length = 16 then some ⟨bytes, h⟩ else none

/-- Digits with hyphens after the eighth, twelfth, sixteenth and twentieth. -/
def Uuid.hyphenate (ds : List Char) : List Char :=
  ds.take 8 ++ '-' :: (ds.drop 8).take 4 ++ '-' :: (ds.drop 12).take 4 ++ '-' :: (ds.drop 16).take 4 ++
    '-' :: ds.drop 20

/-- The hyphenated text in lower case. -/
def Uuid.write (u : Uuid) : String := String.ofList (Uuid.hyphenate (Hex.lower u.bytes))

/-- Reads 32 digits. -/
def Uuid.readPlain? (cs : List Char) : Option Uuid := do
  Uuid.ofBytes? (← Hex.read? cs)

/-- Reads the hyphenated form. -/
def Uuid.readHyphenated? (cs : List Char) : Option Uuid :=
  let ds := cs.filter fun c => c != '-'
  if ds.length = 32 ∧ Uuid.hyphenate ds = cs then Uuid.readPlain? ds else none

/-- Takes `urn:uuid:` off, in any case. -/
def Uuid.afterUrn? (cs : List Char) : Option (List Char) :=
  if (cs.take 9).map Char.toLower = "urn:uuid:".toList then some (cs.drop 9) else none

/-- Takes braces off. -/
def Uuid.betweenBraces? (cs : List Char) : Option (List Char) :=
  match cs with
  | c :: rest => if c = '\x7b' ∧ rest.getLast? = some '\x7d' then some rest.dropLast else none
  | [] => none

/-- Reads a UUID in any of its forms. -/
def Uuid.read? (s : String) : Option Uuid :=
  let cs := s.toList
  match Uuid.readPlain? cs with
  | some u => some u
  | none =>
    match Uuid.readHyphenated? cs with
    | some u => some u
    | none =>
      match Uuid.betweenBraces? cs, Uuid.afterUrn? cs with
      | some inner, _ => Uuid.readHyphenated? inner
      | none, some rest => Uuid.readHyphenated? rest
      | none, none => none

end SqlMapper
