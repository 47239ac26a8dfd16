import SqlMapper.Sql.Token
import SqlMapper.Text.Digits

/-!
# Tokens of a text

A text falls into tokens from left to right, each as long as it can be. Blanks and comments stand
between tokens, a quoted token ends at the first mark that is not doubled, and the text ends at a
null character. What is no token is one illegal token, after which nothing is read.
-/

namespace SqlMapper

namespace Sql

/-- White space that stands between tokens. -/
def isTokenSpace (c : Char) : Bool := c == ' ' || c == '\t' || c == '\n' || c == '\x0c' || c == '\r'

/-- White space that goes on with a blank; a vertical tab does not begin one. -/
def isSpacing (c : Char) : Bool := isTokenSpace c || c == '\x0b'

/-- Characters that a word begins with: letters of ASCII, underscores, and all that lies outside
ASCII. -/
def isWordStart (c : Char) : Bool := c.isAlpha || c == '_' || 128 ≤ c.toNat

/-- Characters that a word goes on with. -/
def isWordChar (c : Char) : Bool := isWordStart c || c.isDigit || c == '$'

/-- What follows a comment that ends with a star and a slash; a comment may also end with the text.
-/
def afterComment : List Char → List Char
  | '*' :: '/' :: rest => rest
  | _ :: rest => afterComment rest
  | [] => []

/-- What a token is read as: the token, or none for a blank or a comment, and what follows it. -/
abbrev Lexeme := Option Token × List Char

/-- What is no token; nothing is read after it. -/
def noLexeme : Lexeme := (some .illegal, [])

/-- A token that is quoted, its opening mark taken off. -/
def quotedLexeme (mark : Char) (make : String → Token) (cs : List Char) : Lexeme :=
  match Quoted.scan mark cs with
  | some (text, rest) => (some (make (String.ofList text)), rest)
  | none => noLexeme

/-- A name in brackets, the opening one taken off; it ends at the first closing bracket. -/
def bracketLexeme (cs : List Char) : Lexeme :=
  let name := cs.takeWhile (· != ']')
  match cs.drop name.length with
  | _ :: rest => (some (.bracketed (String.ofList name)), rest)
  | [] => noLexeme

/-- A blob, its letter and opening mark taken off: pairs of digits and a closing mark. -/
def blobLexeme (cs : List Char) : Lexeme :=
  let digits := cs.takeWhile fun c => (Hex.digit? c).isSome
  match cs.drop digits.length, Hex.read? digits with
  | '\'' :: rest, some bytes => (some (.blob bytes), rest)
  | _, _ => noLexeme

/-! ## Numbers -/

/-- Whether a text begins with a character of a kind. -/
def beginsWith (kind : Char → Bool) (cs : List Char) : Bool := (cs.head?.map kind).getD false

/-- Digits in which underscores may separate groups. -/
def isDigitOrUnderscore (c : Char) : Bool := c.isDigit || c == '_'

/-- Whether every underscore stands between two digits; the flag tells whether a digit came just
before. -/
def separatesDigits (isDigit : Char → Bool) : Bool → List Char → Bool
  | _, [] => true
  | afterDigit, c :: rest =>
    if c = '_' then afterDigit && beginsWith isDigit rest && separatesDigits isDigit false rest
    else separatesDigits isDigit (isDigit c) rest

/-- The exponent at the beginning of a text: its letter, perhaps a sign, and digits. -/
def exponentPart (cs : List Char) : List Char :=
  match cs with
  | e :: rest =>
    if e = 'e' ∨ e = 'E' then
      let sign := rest.takeWhile fun c => c == '+' || c == '-'
      let digits := rest.drop sign.length
      if sign.length ≤ 1 ∧ beginsWith Char.isDigit digits then e :: sign ++ digits.takeWhile isDigitOrUnderscore
      else []
    else []
  | [] => []

/-- The fraction at the beginning of a text: a point and digits. -/
def fractionPart : List Char → List Char
  | '.' :: rest => '.' :: rest.takeWhile isDigitOrUnderscore
  | _ => []

/-- A number in base ten: digits, a fraction and an exponent. A word may not follow at once. -/
def decimalLexeme (cs : List Char) : Lexeme :=
  let whole := cs.takeWhile isDigitOrUnderscore
  let fraction := fractionPart (cs.drop whole.length)
  let exponent := exponentPart (cs.drop (whole.length + fraction.length))
  let digits := whole ++ fraction ++ exponent
  let rest := cs.drop digits.length
  if beginsWith isWordChar rest || !separatesDigits Char.isDigit false digits then noLexeme
  else (some (.number (digits.filter (· != '_'))), rest)

/-- The value of digits in base sixteen. -/
def hexValue (digits : List Char) : Nat :=
  digits.foldl (fun n c => n * 16 + (Hex.digit? c).getD 0) 0

/-- An integer in base sixteen, its zero and letter taken off: at most 64 bits. -/
def hexLexeme (cs : List Char) : Lexeme :=
  let isDigit (c : Char) : Bool := (Hex.digit? c).isSome
  let digits := cs.takeWhile fun c => isDigit c || c == '_'
  let rest := cs.drop digits.length
  let value := hexValue (digits.filter (· != '_'))
  if beginsWith isWordChar rest || !separatesDigits isDigit false digits || 2 ^ 64 ≤ value then noLexeme
  else (some (.bits (Int64.ofInt value)), rest)

/-- A number in base sixteen or ten. -/
def numberLexeme : List Char → Lexeme
  | '0' :: x :: d :: rest =>
    if (x = 'x' ∨ x = 'X') ∧ (Hex.digit? d).isSome then hexLexeme (d :: rest)
    else decimalLexeme ('0' :: x :: d :: rest)
  | cs => decimalLexeme cs

/-! ## Words and parameters -/

/-- The token of a word: a keyword, a word with another use, or a name. -/
def wordToken (word : String) : Token :=
  let capitals := String.ofList (word.toList.map Char.toUpper)
  match Keyword.ofWord? capitals, WordUse.ofWord? capitals with
  | some k, _ => .keyword k word
  | none, some use => .foreign use word
  | none, none => .word word

/-- A word. -/
def wordLexeme (cs : List Char) : Lexeme :=
  let word := cs.takeWhile isWordChar
  (some (wordToken (String.ofList word)), cs.drop word.length)

/-- The name of a parameter: the characters of a word, with pairs of colons among them and perhaps
something in parentheses after them. The flag tells whether such a character has come. -/
def parameterName : Bool → List Char → Option (List Char × List Char)
  | named, ':' :: ':' :: rest => (parameterName named rest).map fun r => (':' :: ':' :: r.1, r.2)
  | named, c :: rest =>
    if isWordChar c then (parameterName true rest).map fun r => (c :: r.1, r.2)
    else if !named then none
    else if c = '(' then
      let inner := rest.takeWhile fun d => d != ')' && !isSpacing d
      match rest.drop inner.length with
      | ')' :: rest => some (c :: inner ++ [')'], rest)
      | _ => none
    else some ([], c :: rest)
  | named, [] => if named then some ([], []) else none

/-- A parameter with a name, its mark taken off. -/
def namedLexeme (mark : Char) (cs : List Char) : Lexeme :=
  match parameterName false cs with
  | some (name, rest) => (some (.place (.named mark (String.ofList name))), rest)
  | none => noLexeme

/-- The largest number of a parameter. -/
def largestParameter : Nat := 32766

/-- A parameter without a name, its question mark taken off; a number may follow. -/
def placeLexeme (cs : List Char) : Lexeme :=
  let digits := cs.takeWhile Char.isDigit
  let number := digitsValue digits
  if digits.isEmpty then (some (.place .anonymous), cs)
  else if 1 ≤ number ∧ number ≤ largestParameter then
    (some (.place (.numbered number)), cs.drop digits.length)
  else noLexeme

/-! ## Symbols -/

/-- A symbol of two characters. -/
def longSymbol? : Char → Char → Option Symbol
  | '|', '|' => some .concat
  | '=', '=' => some .eq
  | '!', '=' => some .ne
  | '<', '>' => some .ne
  | '<', '=' => some .le
  | '>', '=' => some .ge
  | _, _ => none

/-- A symbol of one character. -/
def shortSymbol? : Char → Option Symbol
  | '(' => some .open
  | ')' => some .close
  | ',' => some .comma
  | '.' => some .dot
  | ';' => some .semicolon
  | '*' => some .star
  | '+' => some .plus
  | '-' => some .minus
  | '/' => some .slash
  | '%' => some .percent
  | '&' => some .bitAnd
  | '|' => some .bitOr
  | '=' => some .eq
  | '<' => some .lt
  | '>' => some .gt
  | _ => none

/-- A symbol, given its first character. -/
def symbolLexeme (c : Char) (cs : List Char) : Lexeme :=
  match cs.head?.bind (longSymbol? c) with
  | some s => (some (.symbol s), cs.drop 1)
  | none =>
    match shortSymbol? c with
    | some s => (some (.symbol s), cs)
    | none => noLexeme

/-! ## Texts -/

/-- The first token of a text, given its first character. -/
def lexeme (c : Char) (cs : List Char) : Lexeme :=
  if isTokenSpace c then (none, cs.dropWhile isSpacing)
  else if c = '"' then quotedLexeme '"' .quoted cs
  else if c = '\'' then quotedLexeme '\'' .string cs
  else if c = '\x60' then quotedLexeme '\x60' .bracketed cs
  else if c = '[' then bracketLexeme cs
  else if (c = 'x' ∨ c = 'X') ∧ cs.head? = some '\'' then blobLexeme (cs.drop 1)
  else if c = '\ufeff' then (none, cs)
  else if isWordStart c then wordLexeme (c :: cs)
  else if c.isDigit ∨ (c = '.' ∧ beginsWith Char.isDigit cs) then numberLexeme (c :: cs)
  else if c = '?' then placeLexeme cs
  else if c = ':' ∨ c = '@' ∨ c = '$' then namedLexeme c cs
  else if c = '-' ∧ cs.head? = some '-' then (none, cs.dropWhile fun d => d != '\n')
  else if c = '/' ∧ cs.head? = some '*' ∧ !(cs.drop 1).isEmpty then (none, afterComment (cs.drop 1))
  else symbolLexeme c cs

/-- The tokens of a text, each with the text from it on. -/
def placedTokens : List Char → List (Token × List Char)
  | [] => []
  | c :: cs =>
    ((lexeme c cs).1.toList.map fun t => (t, c :: cs)) ++
      if (lexeme c cs).2.length ≤ cs.length then placedTokens (lexeme c cs).2 else []
termination_by cs => cs.length
decreasing_by simp only [List.length_cons]; omega

/-- The part of a text that is read, up to the first null character. -/
def sentChars (text : String) : List Char := text.toList.takeWhile fun c => c.toNat != 0

/-- The tokens of a text. -/
def lex (text : String) : List Token := (placedTokens (sentChars text)).map Prod.fst

end Sql

end SqlMapper
