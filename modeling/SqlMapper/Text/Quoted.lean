/-!
# Quoted text: a mark at both ends, and twice inside

Identifiers are written between double quotes and strings between apostrophes. Inside either, the
mark itself is written twice and every other character once, so that the text ends at the first mark
that is not doubled. `Quoted.scan` reads one quoted text back and hands over what follows it.
-/

namespace SqlMapper

/-- Every mark written twice, every other character once. -/
def Quoted.double (mark : Char) : List Char → List Char
  | [] => []
  | c :: rest => if c = mark then mark :: mark :: double mark rest else c :: double mark rest

/-- A text between two marks, with the marks inside it doubled. -/
def Quoted.chars (mark : Char) (s : List Char) : List Char :=
  mark :: (Quoted.double mark s ++ [mark])

/-- A text between two marks, with the marks inside it doubled. -/
def Quoted.write (mark : Char) (s : String) : String :=
  String.ofList (Quoted.chars mark s.toList)

/-- Reads what follows an opening mark: the text up to the first mark that is not doubled, and the
rest after that mark. There is no reading when no such mark comes. -/
def Quoted.scan (mark : Char) : List Char → Option (List Char × List Char)
  | [] => none
  | [c] => if c = mark then some ([], []) else none
  | c :: d :: rest =>
    if c = mark then
      if d = mark then (scan mark rest).map fun r => (mark :: r.1, r.2) else some ([], d :: rest)
    else (scan mark (d :: rest)).map fun r => (c :: r.1, r.2)

/-- A character that is not the mark belongs to the text. -/
theorem Quoted.scan_cons {mark c : Char} {cs : List Char} (h : c ≠ mark) (hcs : cs ≠ []) :
    Quoted.scan mark (c :: cs) = (Quoted.scan mark cs).map fun r => (c :: r.1, r.2) := by
  cases cs with
  | nil => exact absurd rfl hcs
  | cons d rest => simp [Quoted.scan, h]

/-- A mark that no other mark follows ends the text. -/
theorem Quoted.scan_mark {mark : Char} {rest : List Char} (h : rest.head? ≠ some mark) :
    Quoted.scan mark (mark :: rest) = some ([], rest) := by
  cases rest with
  | nil => simp [Quoted.scan]
  | cons d rest =>
    have hd : d ≠ mark := fun e => h (by simp [e])
    simp [Quoted.scan, hd]

/-- What was written is read back, whatever follows it but another mark. -/
theorem Quoted.scan_double {mark : Char} (s : List Char) {rest : List Char}
    (h : rest.head? ≠ some mark) :
    Quoted.scan mark (Quoted.double mark s ++ mark :: rest) = some (s, rest) := by
  induction s with
  | nil => exact Quoted.scan_mark h
  | cons c s ih =>
    by_cases hc : c = mark
    · simp [Quoted.double, Quoted.scan, hc, ih]
    · rw [Quoted.double, if_neg hc, List.cons_append, Quoted.scan_cons hc (by simp), ih]
      rfl

/-- An identifier as SQL writes it. -/
def quoteIdentifier (name : String) : String := Quoted.write '"' name

/-- A string as SQL writes it. -/
def quoteString (text : String) : String := Quoted.write '\'' text

end SqlMapper
