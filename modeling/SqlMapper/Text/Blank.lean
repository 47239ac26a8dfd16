/-!
# Blank text

A name is blank when nothing but white space is in it, white space being the characters of the
Unicode property `White_Space`.
-/

namespace SqlMapper

/-- The characters of the Unicode property `White_Space`. -/
def isWhiteSpace (c : Char) : Bool :=
  let n := c.toNat
  (9 ≤ n && n ≤ 13) || n == 0x20 || n == 0x85 || n == 0xA0 || n == 0x1680 || (0x2000 ≤ n && n ≤ 0x200A) ||
    n == 0x2028 || n == 0x2029 || n == 0x202F || n == 0x205F || n == 0x3000

/-- A text with nothing but white space in it; the empty text is blank. -/
def isBlank (s : String) : Bool := s.toList.all isWhiteSpace

end SqlMapper
