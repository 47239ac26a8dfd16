import SqlMapper.Sql.Term

/-!
# Tokens of SQL

The tokens that a text is made of, and the tokens of a term. A quoted token carries the name or the
text that it stands for, not its spelling.
-/

namespace SqlMapper

namespace Sql

/-- The keywords that statements are made with. -/
inductive Keyword where
  | select | distinct | all | from | inner | left | join | on | where | order | by | limit | offset
  | as | and | or | not | is | in | like | null | cast | desc | asc
  | insert | into | values | default | update | set | delete
  | begin | deferred | immediate | exclusive | transaction | commit | «end» | rollback | to | savepoint | release
  | pragma
  deriving DecidableEq, Repr

/-- The spelling of a keyword in capitals. -/
def Keyword.text : Keyword → String
  | .select => "SELECT"
  | .distinct => "DISTINCT"
  | .all => "ALL"
  | .from => "FROM"
  | .inner => "INNER"
  | .left => "LEFT"
  | .join => "JOIN"
  | .on => "ON"
  | .where => "WHERE"
  | .order => "ORDER"
  | .by => "BY"
  | .limit => "LIMIT"
  | .offset => "OFFSET"
  | .as => "AS"
  | .and => "AND"
  | .or => "OR"
  | .not => "NOT"
  | .is => "IS"
  | .in => "IN"
  | .like => "LIKE"
  | .null => "NULL"
  | .cast => "CAST"
  | .desc => "DESC"
  | .asc => "ASC"
  | .insert => "INSERT"
  | .into => "INTO"
  | .values => "VALUES"
  | .default => "DEFAULT"
  | .update => "UPDATE"
  | .set => "SET"
  | .delete => "DELETE"
  | .begin => "BEGIN"
  | .deferred => "DEFERRED"
  | .immediate => "IMMEDIATE"
  | .exclusive => "EXCLUSIVE"
  | .transaction => "TRANSACTION"
  | .commit => "COMMIT"
  | .end => "END"
  | .rollback => "ROLLBACK"
  | .to => "TO"
  | .savepoint => "SAVEPOINT"
  | .release => "RELEASE"
  | .pragma => "PRAGMA"

/-- All keywords. -/
def Keyword.list : List Keyword :=
  [.select, .distinct, .all, .from, .inner, .left, .join, .on, .where, .order, .by, .limit, .offset, .as, .and, .or,
    .not, .is, .in, .like, .null, .cast, .desc, .asc, .insert, .into, .values, .default, .update, .set, .delete, .begin,
    .deferred, .immediate, .exclusive, .transaction, .commit, .end, .rollback, .to, .savepoint, .release, .pragma]

/-- The keyword that a word in capitals is. -/
def Keyword.ofWord? (word : String) : Option Keyword := Keyword.list.find? fun k => k.text = word

/-- Keywords that are names wherever they are no keyword. -/
def Keyword.isName : Keyword → Bool
  | .by | .offset | .like | .cast | .desc | .asc | .begin | .deferred | .immediate | .exclusive | .end
  | .rollback | .savepoint | .release | .pragma => true
  | _ => false

/-- Keywords that are names where nothing but a name can stand. -/
def Keyword.isJoining : Keyword → Bool
  | .inner | .left => true
  | _ => false

/-- What the language uses a word for with which no statement is made here: to join tables, as an
operator that is a name elsewhere, to go on after a term, to begin a term, to begin a statement, or
in some other way. -/
inductive WordUse where
  | joining | operating | continuing | beginning | stating | reserved
  deriving DecidableEq, Repr

/-- The words of a use, in capitals. -/
def WordUse.words : WordUse → List String
  | .joining => ["CROSS", "FULL", "INDEXED", "NATURAL", "OUTER", "RIGHT"]
  | .operating => ["GLOB", "MATCH", "REGEXP"]
  | .continuing => ["BETWEEN", "COLLATE", "EXCEPT", "GROUP", "HAVING", "INTERSECT", "UNION"]
  | .beginning => ["CASE", "EXISTS"]
  | .stating => ["ALTER", "CREATE", "DROP"]
  | .reserved =>
    ["ADD", "AUTOINCREMENT", "CHECK", "CONSTRAINT", "DEFERRABLE", "ELSE", "ESCAPE", "FOREIGN", "INDEX", "ISNULL",
      "NOTHING", "NOTNULL", "PRIMARY", "REFERENCES", "RETURNING", "TABLE", "THEN", "UNIQUE", "USING", "WHEN"]

/-- The use of a word in capitals, if it has one. -/
def WordUse.ofWord? (word : String) : Option WordUse :=
  [WordUse.joining, .operating, .continuing, .beginning, .stating, .reserved].find? fun u => u.words.contains word

/-- Words that are names where nothing but a name can stand. -/
def WordUse.isName : WordUse → Bool
  | .joining | .operating => true
  | _ => false

/-- Punctuation and the operators that are not words. -/
inductive Symbol where
  | open | close | comma | dot | semicolon
  | star | plus | minus | slash | percent | concat | bitAnd | bitOr
  | eq | ne | lt | le | gt | ge
  deriving DecidableEq, Repr

/-- A token. A word of any kind keeps its spelling. -/
inductive Token where
  | keyword (k : Keyword) (spelling : String)
  | foreign (use : WordUse) (spelling : String)
  | symbol (s : Symbol)
  /-- A name in quotation marks. -/
  | quoted (name : String)
  /-- A name in brackets or between grave accents. -/
  | bracketed (name : String)
  | word (name : String)
  | string (text : String)
  | blob (bytes : List UInt8)
  | number (digits : List Char)
  /-- An integer in base sixteen, as the 64 bits it stands for. -/
  | bits (value : Int64)
  | place (p : Place)
  | illegal
  deriving DecidableEq

/-- A keyword in capitals. -/
def Keyword.token (k : Keyword) : Token := .keyword k k.text

/-! ## Tokens of terms -/

/-- The tokens of a binary operator. -/
def BinaryOp.tokens : BinaryOp → List Token
  | .or => [Keyword.token .or]
  | .and => [Keyword.token .and]
  | .eq => [.symbol .eq]
  | .ne => [.symbol .ne]
  | .is => [Keyword.token .is]
  | .isNot => [Keyword.token .is, Keyword.token .not]
  | .like => [Keyword.token .like]
  | .lt => [.symbol .lt]
  | .le => [.symbol .le]
  | .gt => [.symbol .gt]
  | .ge => [.symbol .ge]
  | .bitAnd => [.symbol .bitAnd]
  | .bitOr => [.symbol .bitOr]
  | .add => [.symbol .plus]
  | .sub => [.symbol .minus]
  | .mul => [.symbol .star]
  | .div => [.symbol .slash]
  | .rem => [.symbol .percent]
  | .concat => [.symbol .concat]

/-- The tokens of a number: a minus sign is one of its own. -/
def numberTokens (negative : Bool) (digits : List Char) : List Token :=
  if negative then [.symbol .minus, .number digits] else [.number digits]

/-- The tokens of a literal. -/
def literalTokens : Native → List Token
  | .null => [Keyword.token .null]
  | .integer n => numberTokens (n.toInt < 0) (Nat.toDigits 10 n.toInt.natAbs)
  | .real x =>
    numberTokens x.negative (if x.isZero then ['0', '.', '0'] else RealLayout.literal.magnitude x.magnitude)
  | .text s => [.string s]
  | .blob b => [.blob b]

/-- The tokens of a constant. -/
def Constant.tokens : Constant → List Token
  | .literal v => literalTokens v
  | .place p => [.place p]

/-- Lists of tokens with a comma between each two. -/
def commaTokens : List (List Token) → List Token
  | [] => []
  | [ts] => ts
  | ts :: rest => ts ++ .symbol .comma :: commaTokens rest

/-- Tokens between parentheses. -/
def parenTokens (ts : List Token) : List Token := .symbol .open :: ts ++ [.symbol .close]

/-- The tokens of a column, after its table if it has one. -/
def columnTokens (table : Option String) (name : String) : List Token :=
  match table with
  | some t => [.quoted t, .symbol .dot, .quoted name]
  | none => [.quoted name]

/-- The tokens of a term. -/
def Term.tokens : Term → List Token
  | .constant c => c.tokens
  | .column table name => columnTokens table name
  | .word name => [.word name]
  | .truth b => [.word (if b then "TRUE" else "FALSE")]
  | .sign negative x => .symbol (if negative then .minus else .plus) :: x.tokens
  | .not x => Keyword.token .not :: x.tokens
  | .binary op l r => l.tokens ++ op.tokens ++ r.tokens
  | .member item set => item.tokens ++ Keyword.token .in :: parenTokens (commaTokens (set.map Constant.tokens))
  | .apply f x => .word f.text :: parenTokens x.tokens
  | .replace x old new =>
    .word "replace" :: parenTokens (x.tokens ++ .symbol .comma :: old.tokens ++ .symbol .comma :: new.tokens)
  | .castText x => Keyword.token .cast :: parenTokens (x.tokens ++ [Keyword.token .as, .word "TEXT"])
  | .paren x => parenTokens x.tokens

end Sql

end SqlMapper
