import SqlMapper.Text.Composed
import SqlMapper.Text.Joining
import SqlMapper.Url.LabelClass
import SqlMapper.Url.Punycode

/-!
# Labels of domains

A label that begins with `xn--` stands for a text beyond ASCII. That text has to be one that is
written in no other way: composed, of characters that a label may hold, without a mark in front, and
with joiners only where they change what is seen. If anything in a domain runs from right to left,
each of its labels has to keep to one direction.
-/

namespace SqlMapper

/-! ## Joiners -/

/-- Keeps apart two letters that would join. -/
def Label.nonJoiner : Char := '\u200c'

/-- Joins what would stand apart. -/
def Label.joiner : Char := '\u200d'

/-- Marks that do not come between two letters that join. -/
def Label.isPassedOver (c : Char) : Bool :=
  LabelClass.of? c == some .nonspacingMark ||
    [0xCBF, 0xCC6, 0x11A07, 0x11A08, 0x11C3F, 0x1E94B].contains c.toNat

/-- Whether the first character that is not passed over has a property. -/
def Label.nextHas (property : Nat → Bool) (cs : List Char) : Bool :=
  match cs.dropWhile Label.isPassedOver with
  | c :: _ => property c.toNat
  | [] => false

/-- Whether a character is a sign that takes the vowel off the consonant before it; such signs have
a combining class of their own. -/
def Label.isVowelKiller (c : Char) : Bool := combiningClass c.toNat == 9

/-- Whether each joiner stands after a sign that takes the vowel off, or is a non-joiner between two
letters that would join. `before` is the text in front, its last character first. -/
def Label.joinersFit (before : List Char) : List Char → Bool
  | [] => true
  | c :: rest =>
    let afterKiller := (before.head?.map Label.isVowelKiller).getD false
    let betweenLetters := Label.nextHas joinsNext before && Label.nextHas joinsPrevious rest
    let fits :=
      if c = Label.nonJoiner then afterKiller || betweenLetters
      else if c = Label.joiner then afterKiller
      else true
    fits && Label.joinersFit (c :: before) rest

/-! ## Direction -/

/-- Whether a character runs from right to left, or is a number written among such. -/
def Label.runsBack (c : Char) : Bool :=
  match LabelClass.of? c with
  | some .rightToLeft => true
  | some .arabicNumber => true
  | _ => false

/-- Whether a label keeps to one direction. The first character says which. A label from left to
right ends in a letter or a number; one from right to left does too, and has numbers of one kind
only. Marks at the end do not count. -/
def Label.keepsDirection (label : List Char) : Bool :=
  let classes := label.filterMap LabelClass.of?
  let ending := (classes.reverse.dropWhile (· == .nonspacingMark)).head?
  let endsIn (ends : List LabelClass) : Bool := (ending.map ends.contains).getD false
  match classes with
  | [] => true
  | .letter :: _ =>
    !(classes.contains .rightToLeft || classes.contains .arabicNumber) &&
      endsIn [.letter, .spacingMark, .number]
  | .rightToLeft :: _ =>
    !(classes.contains .letter || classes.contains .spacingMark) &&
      !(classes.contains .number && classes.contains .arabicNumber) &&
      endsIn [.rightToLeft, .number, .arabicNumber]
  | _ => false

/-! ## Reading -/

/-- Whether a text begins with a mark. -/
def Label.beginsWithMark (cs : List Char) : Bool :=
  match cs.head?.bind LabelClass.of? with
  | some .spacingMark => true
  | some .nonspacingMark => true
  | _ => false

/-- The letters in front of a coded label. -/
def Label.codedFront : List Char := "xn--".toList

/-- Whether a text is one that is written as a coded label. -/
def Label.isCodable (text : List Char) : Bool :=
  text.any (fun c => 0x80 ≤ c.toNat) && text.all (fun c => (LabelClass.of? c).isSome) &&
    isComposed text && !Label.beginsWithMark text && !Label.codedFront.isPrefixOf text &&
    Label.joinersFit [] text

/-- The text that a label in lower case stands for: its own, or the one that it is the code of. -/
def Label.read? (label : List Char) : Option (List Char) :=
  if Label.codedFront.isPrefixOf label then
    (Punycode.decode? (label.drop Label.codedFront.length)).filter Label.isCodable
  else some label

/-- The texts of all labels of a domain. -/
def Label.readAll? (labels : List (List Char)) : Option (List (List Char)) := do
  let texts ← labels.mapM Label.read?
  if texts.any (·.any Label.runsBack) && !texts.all Label.keepsDirection then none else some texts

end SqlMapper
