import SqlMapper.Engine.Database
import SqlMapper.Proofs.Compiler.Filling
import SqlMapper.Query.Compile

/-!
# Values for the places of a text

`substitute` puts texts in the place of the question marks of a text, from left to right. A question mark between
quotation marks of either sort is no place. A doubled mark ends a quoted text and begins another one at once, so it
takes no case of its own.

A piece of text that leaves quotation as it found it can be filled by itself (`Fills`): pieces that can be filled
are filled one after another, and this is how the text of a statement is filled from the texts of its parts.
-/

namespace SqlMapper

/-- Puts texts in the place of question marks outside quotation marks. The first argument is the mark of the quoted
text that has been begun. There must be as many texts as places, and no quoted text may be left open. -/
def substitute : Option Char → List Char → List (List Char) → Option (List Char)
  | none, [], [] => some []
  | none, [], _ :: _ => none
  | some _, [], _ => none
  | some mark, c :: cs, vs => (substitute (if c = mark then none else some mark) cs vs).map (c :: ·)
  | none, c :: cs, vs =>
    if c = '?' then
      match vs with
      | [] => none
      | v :: vs => (substitute none cs vs).map (v ++ ·)
    else (substitute (if c = '"' ∨ c = '\'' then some c else none) cs vs).map (c :: ·)

/-- Filling a piece of text with some texts gives another piece, whatever follows it. -/
def Fills (piece : List Char) (texts : List (List Char)) (filled : List Char) : Prop :=
  ∀ rest more, substitute none (piece ++ rest) (texts ++ more) = (substitute none rest more).map (filled ++ ·)

/-- A character that neither is a place nor a quotation mark. -/
def isPlain (c : Char) : Bool := c != '?' && c != '"' && c != '\''

/-- A text of such characters. -/
def isPlainText (text : String) : Bool := text.toList.all isPlain

namespace Fills

theorem nil : Fills [] [] [] := by
  intro rest more
  simp

/-- Pieces are filled one after another. -/
theorem append {p q i j : List Char} {vs ws : List (List Char)} (hp : Fills p vs i) (hq : Fills q ws j) :
    Fills (p ++ q) (vs ++ ws) (i ++ j) := by
  intro rest more
  rw [List.append_assoc, List.append_assoc, hp, hq, Option.map_map]
  congr 1
  funext cs
  exact (List.append_assoc i j cs).symm

/-- A place is filled with a text. -/
theorem place (v : List Char) : Fills ['?'] [v] v := by
  intro rest more
  simp [substitute]

/-- Plain text has no places. -/
theorem plain {cs : List Char} (h : cs.all isPlain = true) : Fills cs [] cs := by
  induction cs with
  | nil => exact nil
  | cons c cs ih =>
    intro rest more
    rw [List.all_cons, Bool.and_eq_true] at h
    have hrest := ih h.2 rest more
    rw [List.nil_append] at hrest
    simp only [isPlain, Bool.and_eq_true, bne_iff_ne] at h
    obtain ⟨⟨⟨hplace, hquote⟩, hmark⟩, -⟩ := h
    simp [substitute, hplace, hquote, hmark, hrest, Function.comp_def]

/-- Inside a quoted text nothing is filled. -/
theorem substitute_double {mark : Char} (hm : mark = '"' ∨ mark = '\'') (cs rest : List Char)
    (more : List (List Char)) :
    substitute (some mark) (Quoted.double mark cs ++ mark :: rest) more =
      (substitute none rest more).map fun r => Quoted.double mark cs ++ mark :: r := by
  have hplace : mark ≠ '?' := by rcases hm with rfl | rfl <;> decide
  induction cs with
  | nil => simp [Quoted.double, substitute]
  | cons c cs ih =>
    by_cases hc : c = mark
    · simp [Quoted.double, substitute, hc, hplace, hm, ih, Function.comp_def]
    · simp [Quoted.double, substitute, hc, ih, Function.comp_def]

/-- A quoted text has no places, whatever is in it. -/
theorem quoted {mark : Char} (hm : mark = '"' ∨ mark = '\'') (cs : List Char) :
    Fills (Quoted.chars mark cs) [] (Quoted.chars mark cs) := by
  intro rest more
  have hplace : mark ≠ '?' := by rcases hm with rfl | rfl <;> decide
  have h := substitute_double hm cs rest more
  simp [Quoted.chars, substitute, hplace, hm, h, Function.comp_def]

/-- A whole text is filled with as many texts as it has places. -/
theorem substitute_eq {piece filled : List Char} {texts : List (List Char)} (h : Fills piece texts filled) :
    substitute none piece texts = some filled := by
  have h := h [] []
  simpa [substitute] using h

end Fills

/-! ## Texts with values -/

/-- The literals of values, as characters. -/
def literalChars (values : List Native) : List (List Char) := values.map fun v => (Sql.literalText v).toList

/-- A text whose places are filled with the literals of values, all of which have one, is another text. -/
structure FilledBy (text : String) (values : List Native) (filled : String) : Prop where
  literal : ∀ v ∈ values, v.checkLiteral = .ok v
  fills : Fills text.toList (literalChars values) filled.toList

/-- Digits are plain, and so is a sign. -/
theorem isPlainText_int (n : Int) : isPlainText (toString n) = true := by
  have hdigits : ∀ m : Nat, (Nat.toDigits 10 m).all isPlain = true := by
    intro m
    rw [List.all_eq_true]
    intro c hc
    have hdigit : c.isDigit = true := Nat.isDigit_of_mem_toDigits (by decide) (by decide) hc
    simp only [isPlain, Bool.and_eq_true, bne_iff_ne]
    refine ⟨⟨?_, ?_⟩, ?_⟩ <;> (rintro rfl; exact absurd hdigit (by decide))
  cases n with
  | ofNat m => simpa [isPlainText, toString, Int.repr] using hdigits m
  | negSucc m =>
    have hsign : isPlain '-' = true := rfl
    simpa [isPlainText, toString, Int.repr, hsign] using hdigits (m + 1)

namespace FilledBy

/-- Text without places and quoted texts stays as it is. -/
theorem plain {text : String} (h : isPlainText text = true) : FilledBy text [] text := ⟨by simp, Fills.plain h⟩

/-- A place is filled with the literal of a value. -/
theorem place {v : Native} (h : v.checkLiteral = .ok v) : FilledBy "?" [v] (Sql.literalText v) := by
  refine ⟨by simpa using h, ?_⟩
  simpa [literalChars] using Fills.place (Sql.literalText v).toList

theorem quoted {mark : Char} (hm : mark = '"' ∨ mark = '\'') (s : String) :
    FilledBy (Quoted.write mark s) [] (Quoted.write mark s) :=
  ⟨by simp, by simpa [Quoted.write, literalChars] using Fills.quoted hm s.toList⟩

theorem identifier (name : String) : FilledBy (quoteIdentifier name) [] (quoteIdentifier name) := quoted (.inl rfl) name

theorem append {p q i j : String} {vs ws : List Native} (hp : FilledBy p vs i) (hq : FilledBy q ws j) :
    FilledBy (p ++ q) (vs ++ ws) (i ++ j) := by
  refine ⟨fun v hv => (List.mem_append.1 hv).elim (hp.literal v) (hq.literal v), ?_⟩
  have h := hp.fills.append hq.fills
  rwa [String.toList_append, String.toList_append, literalChars, List.map_append]

/-- Plain text in front changes nothing but itself. -/
theorem prepend {p i t : String} {vs : List Native} (h : FilledBy p vs i) (ht : isPlainText t = true) :
    FilledBy (t ++ p) vs (t ++ i) := (plain ht).append h

/-- Plain text behind changes nothing but itself. -/
theorem postpend {p i t : String} {vs : List Native} (h : FilledBy p vs i) (ht : isPlainText t = true) :
    FilledBy (p ++ t) vs (i ++ t) := by
  have ha := h.append (plain ht)
  rwa [List.append_nil] at ha

end FilledBy

namespace Each

/-- Texts with plain text between them are filled one after another. -/
theorem intercalate {ps is : List String} {vs : List Native} {separator : String}
    (hs : isPlainText separator = true) (h : Each FilledBy ps vs is) :
    FilledBy (separator.intercalate ps) vs (separator.intercalate is) := by
  induction h with
  | nil => exact FilledBy.plain rfl
  | cons first rest ih =>
    cases rest with
    | nil =>
      rw [String.intercalate_singleton, String.intercalate_singleton, List.append_nil]
      exact first
    | cons second rest =>
      rw [String.intercalate_cons_cons, String.intercalate_cons_cons]
      exact (first.postpend hs).append ih

end Each

/-! ## Characters -/

/-- What is no place stays in the text. -/
theorem mem_of_substitute {mark : Option Char} {cs : List Char} {vs : List (List Char)} {filled : List Char}
    (h : substitute mark cs vs = some filled) {c : Char} (hc : c ∈ cs) : c = '?' ∨ c ∈ filled := by
  fun_induction substitute mark cs vs generalizing filled with
  | case1 => cases hc
  | case2 => cases h
  | case3 => cases h
  | case4 mark d cs vs ih =>
    obtain ⟨others, hothers, rfl⟩ := Option.map_eq_some_iff.1 h
    rcases List.mem_cons.1 hc with rfl | hc
    · exact .inr List.mem_cons_self
    · exact (ih hothers hc).imp_right (List.mem_cons_of_mem _)
  | case5 cs => cases h
  | case6 cs v vs ih =>
    obtain ⟨others, hothers, rfl⟩ := Option.map_eq_some_iff.1 h
    rcases List.mem_cons.1 hc with rfl | hc
    · exact .inl rfl
    · exact (ih hothers hc).imp_right (List.mem_append_right v)
  | case7 d cs vs _ ih =>
    obtain ⟨others, hothers, rfl⟩ := Option.map_eq_some_iff.1 h
    rcases List.mem_cons.1 hc with rfl | hc
    · exact .inr List.mem_cons_self
    · exact (ih hothers hc).imp_right (List.mem_cons_of_mem _)

/-- So a text is read to its end if it is with its places filled. -/
theorem FilledBy.isSendable_text {p i : String} {vs : List Native} (h : FilledBy p vs i) (hi : isSendable i = true) :
    isSendable p = true := by
  have hfills := h.fills [] []
  simp only [List.append_nil, substitute, Option.map_some] at hfills
  refine List.all_eq_true.2 fun c hc => ?_
  rcases mem_of_substitute hfills hc with rfl | hc
  · decide
  · exact List.all_eq_true.1 hi c hc

end SqlMapper
