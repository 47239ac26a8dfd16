import Mathlib.Data.List.Forall2
import SqlMapper.Sql.Lexer

/-!
# Tokens of written text

The pieces of text that terms are written with fall into the tokens of the terms. A piece is read by itself as long
as a blank, the end of a line, a comma or a closing parenthesis comes next (`Lexed`), and these are what terms are
put together with, so the tokens of a whole are those of its parts one after another.
-/

namespace SqlMapper

namespace Sql

/-- The tokens of characters. -/
def tokensFrom (cs : List Char) : List Token := (placedTokens cs).map Prod.fst

/-- The tokens of a text that can be sent are those of all its characters. -/
theorem lex_eq_tokensFrom {text : String} (h : ∀ c ∈ text.toList, c.toNat ≠ 0) : lex text = tokensFrom text.toList := by
  have hsent : sentChars text = text.toList := by
    have hall : ∀ c ∈ text.toList, (c.toNat != 0) = true := fun c hc => by simpa using h c hc
    rw [sentChars, ← List.append_nil text.toList, List.takeWhile_append_of_pos hall]
    rfl
  rw [lex, hsent, tokensFrom]

/-- Nothing is read from no text. -/
theorem tokensFrom_nil : tokensFrom [] = [] := by
  rw [tokensFrom, placedTokens, List.map_nil]

/-- A token is read off the front. -/
theorem tokensFrom_cons {c : Char} {cs rest : List Char} {t : Token} (h : lexeme c cs = (some t, rest))
    (hle : rest.length ≤ cs.length) : tokensFrom (c :: cs) = t :: tokensFrom rest := by
  rw [tokensFrom, placedTokens, h, if_pos hle]
  rfl

/-- A blank in front of something else is skipped. -/
theorem tokensFrom_space {b c : Char} (cs : List Char) (hb : isTokenSpace b = true) (hc : isSpacing c = false) :
    tokensFrom (b :: c :: cs) = tokensFrom (c :: cs) := by
  have hspace : lexeme b (c :: cs) = (none, c :: cs) := by
    simp [lexeme, hb, List.dropWhile, hc]
  rw [tokensFrom, placedTokens, hspace, if_pos (Nat.le_refl _)]
  rfl

/-! ## Separators -/

/-- What comes next is nothing, a blank, the end of a line, a closing parenthesis or a comma. -/
def Separated : List Char → Prop
  | [] => True
  | c :: _ => c = ' ' ∨ c = '\n' ∨ c = ')' ∨ c = ','

theorem Separated.blank (cs : List Char) : Separated (' ' :: cs) := Or.inl rfl

theorem Separated.line (cs : List Char) : Separated ('\n' :: cs) := Or.inr (Or.inl rfl)

theorem Separated.close (cs : List Char) : Separated (')' :: cs) := Or.inr (Or.inr (Or.inl rfl))

theorem Separated.comma (cs : List Char) : Separated (',' :: cs) := Or.inr (Or.inr (Or.inr rfl))

/-- A separator is of no kind that has none of the four characters. -/
theorem Separated.head_eq_false {rest : List Char} (h : Separated rest) (kind : Char → Bool) (hblank : kind ' ' = false)
    (hline : kind '\n' = false) (hclose : kind ')' = false) (hcomma : kind ',' = false) :
    ∀ c, rest.head? = some c → kind c = false := by
  intro c hc
  cases rest with
  | nil => cases hc
  | cons d rest =>
    obtain rfl := Option.some.inj hc
    rcases h with rfl | rfl | rfl | rfl
    · exact hblank
    · exact hline
    · exact hclose
    · exact hcomma

/-- Characters of a kind end where something of another kind comes next. -/
theorem takeWhile_kind (kind : Char → Bool) {cs rest : List Char} (hcs : ∀ c ∈ cs, kind c = true)
    (hrest : ∀ c, rest.head? = some c → kind c = false) : (cs ++ rest).takeWhile kind = cs := by
  rw [List.takeWhile_append_of_pos hcs]
  cases rest with
  | nil => simp
  | cons c rest => simp [hrest c rfl]

/-- A piece of text that begins with no blank, and is read as some tokens when a separator comes next. -/
structure Lexed (piece : List Char) (tokens : List Token) : Prop where
  start : ∃ c cs, piece = c :: cs ∧ isSpacing c = false
  tokens : ∀ rest, Separated rest → tokensFrom (piece ++ rest) = tokens ++ tokensFrom rest

namespace Lexed

variable {p q : List Char} {ts us : List Token}

/-- One token. -/
theorem of_lexeme {c : Char} {cs : List Char} {t : Token} (hc : isSpacing c = false)
    (h : ∀ rest, Separated rest → lexeme c (cs ++ rest) = (some t, rest)) : Lexed (c :: cs) [t] where
  start := ⟨c, cs, rfl, hc⟩
  tokens rest hrest := tokensFrom_cons (h rest hrest) (by simp)

/-- A piece that is the whole text. -/
theorem tokensFrom_eq (hp : Lexed p ts) : tokensFrom p = ts := by
  have h := hp.tokens [] trivial
  simpa [tokensFrom_nil] using h

/-- A blank or the end of a line in front of a piece is skipped. -/
theorem tokensFrom_space_append (hp : Lexed p ts) {b : Char} (hb : isTokenSpace b = true) {rest : List Char}
    (hrest : Separated rest) : tokensFrom (b :: (p ++ rest)) = ts ++ tokensFrom rest := by
  have hnext := hp.tokens rest hrest
  obtain ⟨c, cs, rfl, hc⟩ := hp.start
  rw [List.cons_append, tokensFrom_space _ hb hc, ← List.cons_append, hnext]

/-- A blank between two pieces. -/
theorem space (hp : Lexed p ts) (hq : Lexed q us) : Lexed (p ++ ' ' :: q) (ts ++ us) where
  start := by
    obtain ⟨c, cs, rfl, hc⟩ := hp.start
    exact ⟨c, _, rfl, hc⟩
  tokens rest hrest := by
    rw [List.append_assoc, List.cons_append, hp.tokens _ (.blank _), hq.tokensFrom_space_append rfl hrest,
      List.append_assoc]

/-- The end of a line between two pieces. -/
theorem line (hp : Lexed p ts) (hq : Lexed q us) : Lexed (p ++ '\n' :: q) (ts ++ us) where
  start := by
    obtain ⟨c, cs, rfl, hc⟩ := hp.start
    exact ⟨c, _, rfl, hc⟩
  tokens rest hrest := by
    rw [List.append_assoc, List.cons_append, hp.tokens _ (.line _), hq.tokensFrom_space_append rfl hrest,
      List.append_assoc]

/-- A comma and a blank between two pieces. -/
theorem comma (hp : Lexed p ts) (hq : Lexed q us) : Lexed (p ++ ',' :: ' ' :: q) (ts ++ .symbol .comma :: us) where
  start := by
    obtain ⟨c, cs, rfl, hc⟩ := hp.start
    exact ⟨c, _, rfl, hc⟩
  tokens rest hrest := by
    have hcomma : ∀ cs, lexeme ',' (' ' :: cs) = (some (.symbol .comma), ' ' :: cs) := fun _ => rfl
    rw [List.append_assoc, List.cons_append, hp.tokens _ (.comma _), List.cons_append,
      tokensFrom_cons (hcomma _) (Nat.le_refl _), hq.tokensFrom_space_append rfl hrest, List.append_assoc,
      List.cons_append]

/-- Parentheses around a piece; what comes next does not matter. -/
theorem tokensFrom_paren (hp : Lexed p ts) (rest : List Char) :
    tokensFrom ('(' :: (p ++ ')' :: rest)) = parenTokens ts ++ tokensFrom rest := by
  have hopen : ∀ cs, lexeme '(' cs = (some (.symbol .open), cs) := fun cs => by cases cs <;> rfl
  have hclose : ∀ cs, lexeme ')' cs = (some (.symbol .close), cs) := fun cs => by cases cs <;> rfl
  rw [tokensFrom_cons (hopen _) (Nat.le_refl _), hp.tokens _ (.close _),
    tokensFrom_cons (hclose _) (Nat.le_refl _), parenTokens]
  simp

/-- A piece in parentheses is read as its tokens in parentheses. -/
theorem paren (hp : Lexed p ts) : Lexed ('(' :: (p ++ [')'])) (parenTokens ts) where
  start := ⟨'(', _, rfl, rfl⟩
  tokens rest _ := by
    have h := tokensFrom_paren hp rest
    simpa using h

/-- A piece on lines of its own between parentheses. -/
theorem parenLines (hp : Lexed p ts) : Lexed ('(' :: '\n' :: (p ++ ['\n', ')'])) (parenTokens ts) where
  start := ⟨'(', _, rfl, rfl⟩
  tokens rest _ := by
    have hopen : ∀ cs, lexeme '(' cs = (some (.symbol .open), cs) := fun cs => by cases cs <;> rfl
    have hclose : lexeme ')' rest = (some (.symbol .close), rest) := by cases rest <;> rfl
    have hinside := hp.tokensFrom_space_append (b := '\n') rfl (.line (')' :: rest))
    rw [tokensFrom_space rest rfl rfl, tokensFrom_cons hclose (Nat.le_refl _)] at hinside
    rw [List.cons_append, tokensFrom_cons (hopen _) (Nat.le_refl _), List.cons_append, List.append_assoc,
      List.cons_append, List.singleton_append, hinside]
    simp [parenTokens]

end Lexed

/-! ## Lists of pieces -/

/-- Pieces of text that are each read by themselves. -/
def LexedEach (pieces : List String) (tss : List (List Token)) : Prop :=
  List.Forall₂ (fun piece ts => Lexed piece.toList ts) pieces tss

namespace Lexed

variable {pieces : List String} {tss : List (List Token)}

/-- Pieces with commas between them, when there are any. -/
theorem commas (h : LexedEach pieces tss) (hne : pieces ≠ []) :
    Lexed (", ".intercalate pieces).toList (commaTokens tss) := by
  induction h with
  | nil => exact absurd rfl hne
  | cons hfirst hothers ih =>
    cases hothers with
    | nil => simpa [commaTokens] using hfirst
    | cons hsecond hothers =>
      have hlexed := hfirst.comma (ih (by simp))
      simpa [commaTokens, String.intercalate_cons_cons] using hlexed

/-- Pieces on a line each, when there are any. -/
theorem lines (h : LexedEach pieces tss) (hne : pieces ≠ []) : Lexed ("\n".intercalate pieces).toList tss.flatten := by
  induction h with
  | nil => exact absurd rfl hne
  | cons hfirst hothers ih =>
    cases hothers with
    | nil => simpa using hfirst
    | cons hsecond hothers =>
      have hlexed := hfirst.line (ih (by simp))
      simpa [String.intercalate_cons_cons] using hlexed

end Lexed

/-! ## Words and symbols -/

/-- Words that begin with a letter, but not with that of a blob. -/
def isPlainWord (word : String) : Bool :=
  match word.toList with
  | [] => false
  | c :: cs => c.isAlpha && cs.all isWordChar && c != 'x' && c != 'X'

/-- What a plain word consists of. -/
theorem exists_cons_of_isPlainWord {word : String} (h : isPlainWord word = true) :
    ∃ c cs, word.toList = c :: cs ∧ c.isAlpha = true ∧ (∀ d ∈ cs, isWordChar d = true) ∧ c ≠ 'x' ∧ c ≠ 'X' := by
  unfold isPlainWord at h
  split at h
  · cases h
  · rename_i c cs hword
    simp only [Bool.and_eq_true, List.all_eq_true, bne_iff_ne] at h
    obtain ⟨⟨⟨hc, hcs⟩, hx⟩, hX⟩ := h
    exact ⟨c, cs, hword, hc, hcs, hx, hX⟩

/-- A character of a kind that no white space is of is none. -/
theorem not_isSpacing_of_kind {kind : Char → Bool} {c : Char} (h : kind c = true)
    (hkind : [' ', '\t', '\n', '\x0c', '\r', '\x0b'].all (fun d => !kind d) = true) : isSpacing c = false := by
  have hne : ∀ d ∈ [' ', '\t', '\n', '\x0c', '\r', '\x0b'], c ≠ d := fun d hd =>
    ne_of_apply_ne kind (by simpa [h] using List.all_eq_true.1 hkind d hd)
  simpa [isSpacing, isTokenSpace, and_assoc] using hne

/-- A word ends where no character of a word comes next. -/
theorem lexeme_word {c : Char} {cs : List Char} (rest : List Char) (hc : c.isAlpha = true)
    (hcs : ∀ d ∈ cs, isWordChar d = true) (hrest : ∀ d, rest.head? = some d → isWordChar d = false)
    (hx : c ≠ 'x' ∧ c ≠ 'X') :
    lexeme c (cs ++ rest) = (some (wordToken (String.ofList (c :: cs))), rest) := by
  have hne : ∀ d, Char.isAlpha d = false → c ≠ d := fun d hd => ne_of_apply_ne Char.isAlpha (by simp [hc, hd])
  have hspace : isTokenSpace c = false := (Bool.or_eq_false_iff.1 (not_isSpacing_of_kind hc rfl)).1
  have hstart : isWordStart c = true := by simp [isWordStart, hc]
  have htake : (c :: cs ++ rest).takeWhile isWordChar = c :: cs := by
    refine takeWhile_kind isWordChar ?_ hrest
    intro d hd
    rcases List.mem_cons.1 hd with rfl | hd
    · simp [isWordChar, hstart]
    · exact hcs d hd
  rw [List.cons_append] at htake
  simp [lexeme, hspace, hne '"' rfl, hne '\'' rfl, hne '\x60' rfl, hne '[' rfl, hne '\ufeff' rfl, hx.1, hx.2,
    hstart, wordLexeme, htake]

theorem Separated.not_wordChar {rest : List Char} (h : Separated rest) :
    ∀ d, rest.head? = some d → isWordChar d = false := h.head_eq_false _ rfl rfl rfl rfl

namespace Lexed

/-- A plain word is one token. -/
theorem word {word : String} (h : isPlainWord word = true) : Lexed word.toList [wordToken word] := by
  obtain ⟨c, cs, hword, hc, hcs, hx⟩ := exists_cons_of_isPlainWord h
  have htoken : wordToken word = wordToken (String.ofList (c :: cs)) := by rw [← hword, String.ofList_toList]
  rw [hword, htoken]
  exact of_lexeme (not_isSpacing_of_kind hc rfl) fun rest hrest => lexeme_word rest hc hcs hrest.not_wordChar hx

/-- A keyword is read as itself. -/
theorem keyword (k : Keyword) : Lexed k.text.toList [k.token] := by
  have hplain : isPlainWord k.text = true := by cases k <;> rfl
  have htoken : wordToken k.text = k.token := by cases k <;> rfl
  have hlexed := word hplain
  rwa [htoken] at hlexed

/-- A word right before an opening parenthesis. -/
theorem call {p : List Char} {ts : List Token} {word : String} (hp : Lexed p ts) (h : isPlainWord word = true) :
    Lexed (word.toList ++ '(' :: (p ++ [')'])) (wordToken word :: parenTokens ts) := by
  obtain ⟨c, cs, hword, hc, hcs, hx⟩ := exists_cons_of_isPlainWord h
  have htoken : wordToken word = wordToken (String.ofList (c :: cs)) := by rw [← hword, String.ofList_toList]
  refine ⟨⟨c, _, by rw [hword]; rfl, not_isSpacing_of_kind hc rfl⟩, ?_⟩
  intro rest hrest
  have hlexeme := lexeme_word ('(' :: (p ++ [')'] ++ rest)) hc hcs (by rintro d ⟨⟩; rfl) hx
  have hparen := tokensFrom_paren hp rest
  rw [hword, htoken, List.cons_append, List.cons_append, List.append_assoc, List.cons_append,
    tokensFrom_cons hlexeme (by simp)]
  simpa using hparen

/-- The spelling of an operator. -/
theorem operator (op : BinaryOp) : Lexed op.text.toList op.tokens := by
  cases op
  case or => exact keyword .or
  case and => exact keyword .and
  case is => exact keyword .is
  case like => exact keyword .like
  case isNot => exact (keyword .is).space (keyword .not)
  all_goals
    refine of_lexeme rfl ?_
    rintro (_ | ⟨d, rest⟩) hrest
    · rfl
    · rcases hrest with rfl | rfl | rfl | rfl <;> rfl

/-- The star of a count. -/
theorem star : Lexed ['*'] [.symbol .star] := by
  refine of_lexeme rfl ?_
  rintro (_ | ⟨d, rest⟩) hrest
  · rfl
  · rcases hrest with rfl | rfl | rfl | rfl <;> rfl

/-! ## Names and texts -/

/-- A quoted text is read up to its closing mark. -/
theorem quotedLexeme_chars {mark : Char} (make : String → Token) (s : List Char) {rest : List Char}
    (h : rest.head? ≠ some mark) :
    quotedLexeme mark make (Quoted.double mark s ++ mark :: rest) = (some (make (String.ofList s)), rest) := by
  rw [quotedLexeme, Quoted.scan_double s h]

theorem head?_ne {rest : List Char} (mark : Char) (h : Separated rest) (hb : (' ' == mark) = false)
    (hl : ('\n' == mark) = false) (hc : (')' == mark) = false) (hm : (',' == mark) = false) :
    rest.head? ≠ some mark := by
  intro he
  have hne := h.head_eq_false (fun c => c == mark) hb hl hc hm mark he
  simp at hne

/-- A name in quotation marks, whatever is in it. -/
theorem identifier (name : String) : Lexed (quoteIdentifier name).toList [.quoted name] := by
  have hlexeme : ∀ rest, Separated rest →
      lexeme '"' (Quoted.double '"' name.toList ++ ['"'] ++ rest) = (some (.quoted name), rest) := by
    intro rest hrest
    have hquoted := quotedLexeme_chars .quoted name.toList (head?_ne '"' hrest rfl rfl rfl rfl)
    rw [String.ofList_toList] at hquoted
    rw [List.append_assoc]
    exact hquoted
  have hlexed := of_lexeme (c := '"') rfl hlexeme
  simpa [quoteIdentifier, Quoted.write, Quoted.chars] using hlexed

/-- A text in apostrophes, whatever is in it. -/
theorem string (text : String) : Lexed (quoteString text).toList [.string text] := by
  have hlexeme : ∀ rest, Separated rest →
      lexeme '\'' (Quoted.double '\'' text.toList ++ ['\''] ++ rest) = (some (.string text), rest) := by
    intro rest hrest
    have hquoted := quotedLexeme_chars .string text.toList (head?_ne '\'' hrest rfl rfl rfl rfl)
    rw [String.ofList_toList] at hquoted
    rw [List.append_assoc]
    exact hquoted
  have hlexed := of_lexeme (c := '\'') rfl hlexeme
  simpa [quoteString, Quoted.write, Quoted.chars] using hlexed

/-- A column, after its table if it has one. -/
theorem column (table : Option String) (name : String) :
    Lexed (columnText table name).toList (columnTokens table name) := by
  cases table with
  | none => exact identifier name
  | some t =>
    have hname := identifier name
    have hpiece : ∃ cs, (columnText (some t) name).toList = '"' :: cs := by
      simp [columnText, quoteIdentifier, Quoted.write, Quoted.chars]
    refine ⟨?_, ?_⟩
    · obtain ⟨cs, hcs⟩ := hpiece
      exact ⟨'"', cs, hcs, rfl⟩
    · intro rest hrest
      obtain ⟨cs, hcs⟩ : ∃ cs, (quoteIdentifier name).toList = '"' :: cs := by
        simp [quoteIdentifier, Quoted.write, Quoted.chars]
      have hnext := hname.tokens rest hrest
      have hdot : lexeme '.' ((quoteIdentifier name).toList ++ rest) =
          (some (.symbol .dot), (quoteIdentifier name).toList ++ rest) := by
        rw [hcs]
        rfl
      have htable : lexeme '"' (Quoted.double '"' t.toList ++ '"' :: '.' :: ((quoteIdentifier name).toList ++ rest)) =
          (some (.quoted t), '.' :: ((quoteIdentifier name).toList ++ rest)) := by
        have hend : ('.' :: ((quoteIdentifier name).toList ++ rest)).head? ≠ some '"' := by simp
        have hquoted := quotedLexeme_chars .quoted t.toList hend
        rw [String.ofList_toList] at hquoted
        exact hquoted
      have htext : (columnText (some t) name).toList ++ rest =
          '"' :: (Quoted.double '"' t.toList ++ '"' :: '.' :: ((quoteIdentifier name).toList ++ rest)) := by
        simp [columnText, quoteIdentifier, Quoted.write, Quoted.chars]
      rw [htext, tokensFrom_cons htable (by simp; omega), tokensFrom_cons hdot (Nat.le_refl _), hnext]
      rfl

/-! ## Places -/

/-- A place without a name. -/
theorem anonymous : Lexed ['?'] [.place .anonymous] := by
  refine of_lexeme rfl ?_
  intro rest hrest
  have hdigits : rest.takeWhile Char.isDigit = [] := by
    have htake := takeWhile_kind Char.isDigit (List.forall_mem_nil _) (hrest.head_eq_false _ rfl rfl rfl rfl)
    simpa using htake
  have hplace : lexeme '?' rest = placeLexeme rest := by
    cases rest <;> rfl
  rw [List.nil_append, hplace, placeLexeme, hdigits]
  rfl

/-- The name of a parameter ends where a separator comes next. -/
theorem parameterName_append {cs rest : List Char} (hcs : ∀ c ∈ cs, isWordChar c = true) (hrest : Separated rest) :
    parameterName true (cs ++ rest) = some (cs, rest) := by
  induction cs with
  | nil =>
    rcases rest with _ | ⟨d, rest⟩
    · rfl
    · rcases hrest with rfl | rfl | rfl | rfl <;> cases rest <;> rfl
  | cons c cs ih =>
    have hc := hcs c List.mem_cons_self
    have hcolon : c ≠ ':' := by
      rintro rfl
      exact absurd hc (by decide)
    have hih := ih fun d hd => hcs d (List.mem_cons_of_mem _ hd)
    rw [List.cons_append, parameterName]
    · simp [hc, hih]
    · exact fun _ h _ => hcolon h

/-- A place with a name of letters, digits and underscores. -/
theorem named {name : String} (hne : name.toList ≠ []) (hname : ∀ c ∈ name.toList, isWordChar c = true) :
    Lexed (':' :: name.toList) [.place (.named ':' name)] := by
  refine of_lexeme rfl ?_
  intro rest hrest
  obtain ⟨c, cs, hcs⟩ := List.exists_cons_of_ne_nil hne
  have hc := hname c (by simp [hcs])
  have hcolon : c ≠ ':' := by
    rintro rfl
    exact absurd hc (by decide)
  have htail := parameterName_append (fun d (hd : d ∈ cs) => hname d (by simp [hcs, hd])) hrest
  have hfound : parameterName false (name.toList ++ rest) = some (name.toList, rest) := by
    rw [hcs, List.cons_append, parameterName]
    · simp [hc, htail]
    · exact fun _ h _ => hcolon h
  have hlexeme : lexeme ':' (name.toList ++ rest) = namedLexeme ':' (name.toList ++ rest) := rfl
  rw [hlexeme, namedLexeme, hfound]
  simp

/-! ## Blobs -/

theorem isSome_digit?_of_mem_upper {c : Char} {bytes : List UInt8} (h : c ∈ Hex.upper bytes) :
    (Hex.digit? c).isSome = true := by
  simp only [Hex.upper, List.mem_flatMap, List.mem_cons, List.not_mem_nil, or_false] at h
  obtain ⟨b, -, hc⟩ := h
  have hb := b.toNat_lt
  rcases hc with rfl | rfl
  · rw [Hex.digit?_upperDigit (by omega)]
    rfl
  · rw [Hex.digit?_upperDigit (by omega)]
    rfl

/-- Bytes in hexadecimal digits. -/
theorem blob (bytes : List UInt8) : Lexed ('X' :: '\'' :: (Hex.upper bytes ++ ['\''])) [.blob bytes] := by
  refine of_lexeme rfl ?_
  intro rest _
  have hmark : ∀ c, ('\'' :: rest).head? = some c → (Hex.digit? c).isSome = false := by
    rintro c ⟨⟩
    rfl
  have hdigits := takeWhile_kind (fun c => (Hex.digit? c).isSome)
    (fun c (hc : c ∈ Hex.upper bytes) => isSome_digit?_of_mem_upper hc) hmark
  have hlexeme : lexeme 'X' ('\'' :: (Hex.upper bytes ++ '\'' :: rest)) = blobLexeme
      (Hex.upper bytes ++ '\'' :: rest) := rfl
  rw [List.cons_append, List.append_assoc, List.singleton_append, hlexeme, blobLexeme, hdigits, List.drop_left,
    Hex.read?_upper]
  rfl

end Lexed

end Sql

end SqlMapper
