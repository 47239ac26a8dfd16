import SqlMapper.Text.Hex

/-!
# Percent encoding

A character that may not stand in some part of a URL is written as the bytes of its UTF-8 form, each
as a percent sign and two upper-case digits. Which characters these are depends on the part: every
set holds the controls, the delete character and all that is not ASCII.
-/

namespace SqlMapper

/-- Controls, the delete character and what is not ASCII. -/
def Percent.control (c : Char) : Bool := c.toNat < 0x20 || 0x7F ≤ c.toNat

/-- What is encoded in a fragment. -/
def Percent.fragment (c : Char) : Bool :=
  Percent.control c || [' ', '"', '<', '>', '\x60'].contains c

/-- What is encoded in a query. -/
def Percent.query (c : Char) : Bool := Percent.control c || [' ', '"', '#', '<', '>'].contains c

/-- What is encoded in a query of a special scheme. -/
def Percent.specialQuery (c : Char) : Bool := Percent.query c || c == '\''

/-- What is encoded in a path. -/
def Percent.path (c : Char) : Bool := Percent.fragment c || ['#', '?', '\x7b', '\x7d'].contains c

/-- What is encoded in a user name or a password. -/
def Percent.userInfo (c : Char) : Bool :=
  Percent.path c || ['/', ':', ';', '=', '@', '[', '\\', ']', '^', '|'].contains c

/-- Encodes the characters of a set. -/
def Percent.encode (set : Char → Bool) (cs : List Char) : List Char :=
  cs.flatMap fun c =>
    if set c then
      (String.singleton c).toUTF8.data.toList.flatMap fun b => '%' :: Hex.upper [b]
    else [c]

/-- The bytes of a text, with every percent sign before two digits and the digits read as one byte.
-/
def Percent.decode : List Char → List UInt8
  | [] => []
  | [c] => (String.singleton c).toUTF8.data.toList
  | [c, d] => (String.ofList [c, d]).toUTF8.data.toList
  | c :: d :: e :: rest =>
    match c == '%', Hex.digit? d, Hex.digit? e with
    | true, some high, some low => UInt8.ofNat (16 * high + low) :: Percent.decode rest
    | _, _, _ => (String.singleton c).toUTF8.data.toList ++ Percent.decode (d :: e :: rest)

end SqlMapper
