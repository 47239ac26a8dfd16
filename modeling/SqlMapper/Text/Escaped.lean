import SqlMapper.Text.Unseen

/-!
# Escaped text

A name inside a list of names is written between double quotes with the characters escaped that
would not show as themselves: the quote and the backslash after a backslash, tab, line feed,
carriage return and the null character by their letters, and every other character that does not
show by its code point between braces. Letters of any script stand as they are.
-/

namespace SqlMapper

/-- One character of an escaped text. -/
def Escaped.char (c : Char) : List Char :=
  if c = '"' then ['\\', '"']
  else if c = '\\' then ['\\', '\\']
  else if c = '\t' then ['\\', 't']
  else if c = '\n' then ['\\', 'n']
  else if c = '\r' then ['\\', 'r']
  else if c.toNat = 0 then ['\\', '0']
  else if isUnseen c then
    ['\\', 'u', '\x7b'] ++ Nat.toDigits 16 c.toNat ++ ['\x7d']
  else [c]

/-- A text between double quotes, escaped. -/
def Escaped.write (s : String) : String :=
  String.ofList ('"' :: (s.toList.flatMap Escaped.char ++ ['"']))

/-- A list of escaped texts between brackets. -/
def Escaped.writeList (names : List String) : String :=
  "[" ++ ", ".intercalate (names.map Escaped.write) ++ "]"

end SqlMapper
