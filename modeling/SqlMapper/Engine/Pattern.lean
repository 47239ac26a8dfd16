/-!
# Patterns

A pattern is a text in which a percent sign stands for any run of characters and an underscore for
any one character. Every other character stands for itself, and a letter of ASCII for either of its
cases; nothing takes the two signs their meaning.
-/

namespace SqlMapper

/-- All endings of a list, the list itself first and the empty one last. -/
def endings {α : Type} : List α → List (List α)
  | [] => [[]]
  | a :: rest => (a :: rest) :: endings rest

/-- The endings of a list are its suffixes. -/
theorem mem_endings {α : Type} {t s : List α} : t ∈ endings s ↔ t <:+ s := by
  induction s with
  | nil => simp [endings]
  | cons a s ih => simp [endings, ih, List.suffix_cons_iff]

/-- The same character, up to the case of letters of ASCII. -/
def sameLetter (a b : Char) : Bool := a.toLower == b.toLower

/-- Whether a sign of a pattern that is not a percent sign stands for a character. -/
def standsFor (p c : Char) : Bool := p == '_' || sameLetter p c

/-- Whether a pattern matches a text. -/
def patternMatches : List Char → List Char → Bool
  | [], text => text.isEmpty
  | p :: rest, text =>
    if p = '%' then (endings text).any (patternMatches rest)
    else
      match text with
      | [] => false
      | c :: text => standsFor p c && patternMatches rest text

/-! ## Matching in rows

A row says for each ending of the text whether a pattern matches it. The row of a longer pattern
follows from the row of its rest, so the work is the product of the two lengths. -/

/-- For each place of a row, whether it or a later one holds. -/
def fromHereOn : List Bool → List Bool
  | [] => []
  | b :: row =>
    let later := fromHereOn row
    (b || later.headD false) :: later

/-- The row of a pattern that begins with one sign, from the row of its rest. -/
def stepRow (p : Char) : List Char → List Bool → List Bool
  | c :: text, _ :: row => (standsFor p c && row.headD false) :: stepRow p text row
  | _, _ => [false]

/-- The row of a pattern: for each ending of the text, whether the pattern matches it. -/
def patternRow (text : List Char) : List Char → List Bool
  | [] => (endings text).map List.isEmpty
  | p :: rest =>
    if p = '%' then fromHereOn (patternRow text rest) else stepRow p text (patternRow text rest)

/-- What holds from the first position on is what holds anywhere in the row. -/
theorem headD_fromHereOn (row : List Bool) : (fromHereOn row).headD false = row.any id := by
  induction row with
  | nil => rfl
  | cons b row ih => simp_all [fromHereOn]

/-- If a row says of each ending whether a test holds of it, the next row says whether it holds of an ending of
that. -/
theorem fromHereOn_map_endings (f : List Char → Bool) (text : List Char) :
    fromHereOn ((endings text).map f) = (endings text).map fun t => (endings t).any f := by
  induction text with
  | nil => simp [endings, fromHereOn]
  | cons c text ih =>
    simp only [endings, List.map_cons, fromHereOn, headD_fromHereOn, List.any_cons]
    simp [ih, List.any_map]

/-- One character more in front of the pattern: the row then says of each ending whether its first character fits
and the rest was matched. -/
theorem stepRow_map_endings (p : Char) (f : List Char → Bool) (text : List Char) :
    stepRow p text ((endings text).map f) = (endings text).map fun t =>
      match t with
      | [] => false
      | c :: t => standsFor p c && f t := by
  induction text with
  | nil => rfl
  | cons c text ih =>
    simp only [endings, List.map_cons, stepRow, ih]
    cases text <;> simp [endings]

/-- The row of a pattern says of every ending of the text whether the pattern matches it. -/
theorem patternRow_eq_map (text pattern : List Char) :
    patternRow text pattern = (endings text).map (patternMatches pattern) := by
  induction pattern with
  | nil => exact List.map_congr_left fun t _ => by simp [patternMatches]
  | cons p rest ih =>
    by_cases h : p = '%'
    · simp only [patternRow, h, ih, if_true, fromHereOn_map_endings]
      exact List.map_congr_left fun t _ => by simp [patternMatches]
    · simp only [patternRow, h, ih, if_false, stepRow_map_endings]
      exact List.map_congr_left fun t _ => by cases t <;> simp [patternMatches, h]

/-- The whole text is the first of its endings. -/
theorem headD_patternRow (text pattern : List Char) :
    (patternRow text pattern).headD false = patternMatches pattern text := by
  rw [patternRow_eq_map]
  cases text <;> simp [endings]

/-- A text up to the first null character. -/
def upToNull (s : String) : List Char := s.toList.takeWhile fun c => c.toNat != 0

/-- Whether a text is like a pattern; both end at a null character. -/
def isLike (text pattern : String) : Bool :=
  (patternRow (upToNull text) (upToNull pattern)).headD false

/-- The match that is computed row by row is the one that is defined by recursion on the pattern. -/
theorem isLike_eq (text pattern : String) :
    isLike text pattern = patternMatches (upToNull pattern) (upToNull text) :=
  headD_patternRow _ _

end SqlMapper
