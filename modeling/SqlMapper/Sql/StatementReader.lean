import SqlMapper.Sql.Lexer
import SqlMapper.Sql.Statement
import SqlMapper.Sql.TermReader

/-!
# Reading statements

A text holds statements with semicolons between them. Each is read when its turn comes, so a text
with a fault in a later statement still has the earlier ones. A result column without a title is
titled by its spelling, that is by the part of the text that it takes up.
-/

namespace SqlMapper

namespace Sql

/-! ## Spelling -/

/-- The part of a text that tokens take up, from the one with so many tokens left to the one with so
many tokens left. -/
abbrev Spelling := Nat → Nat → String

/-- A text without the white space at its ends. -/
def trimSpacing (cs : List Char) : List Char :=
  ((cs.dropWhile isSpacing).reverse.dropWhile isSpacing).reverse

/-- The spelling of tokens, given the text from each of them on and what follows the last. -/
def Spelling.ofStarts (starts : List (List Char)) (stop : List Char) : Spelling := fun first last =>
  let onwards := stop :: starts.reverse
  let text := onwards[first]?.getD []
  let after := onwards[last]?.getD []
  String.ofList (trimSpacing (text.take (text.length - after.length)))

/-! ## Queries -/

/-- A term out of its parentheses. -/
def Term.bare : Term → Term
  | .paren t => t.bare
  | t => t

/-- Whether a term is a name and nothing else. -/
def Term.isName (t : Term) : Bool :=
  match t.bare with
  | .column .. | .word _ => true
  | _ => false

/-- The title that a token is, where the title is not announced. -/
def Token.title? : Token → Option String
  | .keyword k spelling => if k.isName then some spelling else none
  | .foreign .. => none
  | t => t.name?

/-- Reads a result column: a star, or a term with or without a title. -/
def readResultColumn (spelling : Spelling) (ts : List Token) :
    Except SyntaxFault (ResultColumn × List Token) :=
  match ts with
  | .symbol .star :: rest => .ok (.all, rest)
  | _ => do
    let (t, rest) ← readWholeTerm ts
    match rest with
    | .keyword .as _ :: rest =>
      let (title, rest) ← readName rest
      return (.term t (some title), rest)
    | _ =>
      match rest.head?.bind Token.title? with
      | some title => return (.term t (some title), rest.drop 1)
      | none =>
        let spelled := if t.isName then none else some (spelling ts.length rest.length)
        return (.term t spelled, rest)

/-- The kind of join at the front. -/
def readJoinKind : List Token → Except SyntaxFault (Option JoinKind × List Token)
  | .keyword .join _ :: rest => .ok (some .inner, rest)
  | .keyword .inner _ :: rest => (expectWord .join rest).map fun rest => (some .inner, rest)
  | .keyword .left _ :: rest => (expectWord .join rest).map fun rest => (some .left, rest)
  | ts => .ok (none, ts)

/-- Reads the joins that follow a table. -/
def readJoins : Nat → List Token → Except SyntaxFault (List Join × List Token)
  | 0, ts => stuck ts
  | most + 1, ts => do
    match ← readJoinKind ts with
    | (some kind, rest) =>
      let (table, rest) ← readName rest
      let (condition, rest) ← readWholeTerm (← expectWord .on rest)
      let (joins, rest) ← readJoins most rest
      return (⟨kind, table, condition⟩ :: joins, rest)
    | (none, rest) => return ([], rest)

/-- Reads a table and the joins that follow it. -/
def readSource (ts : List Token) : Except SyntaxFault (Source × List Token) := do
  let (table, rest) ← readName ts
  let (joins, rest) ← readJoins (rest.length + 1) rest
  return (⟨table, joins⟩, rest)

/-- Reads what follows a keyword, if the keyword is there. -/
def readAfter {α : Type} (k : Keyword) (read : List Token → Except SyntaxFault (α × List Token))
    (ts : List Token) : Except SyntaxFault (Option α × List Token) :=
  match ts with
  | .keyword j _ :: rest => if j = k then (read rest).map fun r => (some r.1, r.2) else .ok (none, ts)
  | _ => .ok (none, ts)

/-- The number that a term is: an integer literal of less than 32 bits, perhaps with signs. -/
def Term.number? : Term → Option Int
  | .paren t => t.number?
  | .sign negative t => t.number?.map fun n => if negative then -n else n
  | .constant (.literal (.integer n)) => if n.toInt.natAbs < 2 ^ 31 then some n.toInt else none
  | _ => none

/-- The key of a term that was read. -/
def SortKey.ofTerm (t : Term) (descending : Bool) : SortKey := ⟨t, descending, t.number?⟩

/-- Reads a key of an order. -/
def readSortKey (ts : List Token) : Except SyntaxFault (SortKey × List Token) := do
  let (t, rest) ← readWholeTerm ts
  match rest with
  | .keyword .desc _ :: rest => return (.ofTerm t true, rest)
  | .keyword .asc _ :: rest => return (.ofTerm t false, rest)
  | _ => return (.ofTerm t false, rest)

/-- Reads the keys of an order. -/
def readOrder (ts : List Token) : Except SyntaxFault (List SortKey × List Token) := do
  readCommas readSortKey (ts.length + 1) (← expectWord .by ts)

/-- Reads an integer. -/
def readInteger (ts : List Token) : Except SyntaxFault (Int × List Token) := do
  match ← readConstant ts with
  | (.literal (.integer n), rest) => return (n.toInt, rest)
  | _ => .error .unexpected

/-- Whether the only token left is a word that goes on after a term. -/
def goesOn : List Token → Bool
  | [.foreign .continuing _] | [.foreign .operating _] => true
  | _ => false

/-- Reads a query after its first keyword. -/
def readSelect (spelling : Spelling) (ts : List Token) :
    Except SyntaxFault (Select × List Token) := do
  let (distinct, ts) :=
    match ts with
    | .keyword .distinct _ :: rest => (true, rest)
    | .keyword .all _ :: rest => (false, rest)
    | _ => (false, ts)
  let (columns, rest) ← readCommas (readResultColumn spelling) (ts.length + 1) ts
  let (source, rest) ← readAfter .from readSource rest
  let (condition, rest) ← readAfter .where readWholeTerm rest
  let (order, rest) ← readAfter .order readOrder rest
  let (limit, rest) ← readAfter .limit readInteger rest
  let (offset, rest) ← if limit.isSome then readAfter .offset readInteger rest else .ok (none, rest)
  if goesOn rest then .error .incomplete
  else return ({ distinct, columns, source, condition, order := order.getD [], limit, offset }, rest)

/-- Reads what rows are counted of, the tokens before it taken off: a query in parentheses, or a
source. -/
def readCount (spelling : Spelling) (ts : List Token) :
    Except SyntaxFault (Statement × List Token) :=
  match ts with
  | .symbol .open :: rest => do
    let (q, rest) ← readSelect spelling (← expectWord .select rest)
    return (.countOf q, ← expect .close rest)
  | ts => do
    let (source, rest) ← readSource ts
    let (condition, rest) ← readAfter .where readWholeTerm rest
    return (.countRows source condition, rest)

/-! ## Other statements -/

/-- Reads names in parentheses, the opening one taken off. -/
def readNames (ts : List Token) : Except SyntaxFault (List String × List Token) := do
  let (names, rest) ← readCommas readName (ts.length + 1) ts
  return (names, ← expect .close rest)

/-- Reads the table, the columns and the values of an insertion. -/
def readInsert (ts : List Token) : Except SyntaxFault (Statement × List Token) := do
  let (table, rest) ← readName (← expectWord .into ts)
  match rest with
  | .keyword .default _ :: rest => return (.insertDefaults table, ← expectWord .values rest)
  | _ =>
    let (columns, rest) ← match rest with
      | .symbol .open :: rest => readNames rest
      | _ => .ok ([], rest)
    let (values, rest) ← readSet (← expect .open (← expectWord .values rest))
    if values.isEmpty then .error .unexpected else return (.insert table columns values, rest)

/-- Reads the table, the column, the value and the condition of an update. -/
def readUpdate (ts : List Token) : Except SyntaxFault (Statement × List Token) := do
  let (table, rest) ← readName ts
  let (column, rest) ← readName (← expectWord .set rest)
  let (value, rest) ← readConstant (← expect .eq rest)
  let (condition, rest) ← readAfter .where readWholeTerm rest
  return (.update table column value condition, rest)

/-- Reads the table and the condition of a deletion. -/
def readDelete (ts : List Token) : Except SyntaxFault (Statement × List Token) := do
  let (table, rest) ← readName (← expectWord .from ts)
  let (condition, rest) ← readAfter .where readWholeTerm rest
  return (.delete table condition, rest)

/-- Reads the mode of a transaction. -/
def readMode : List Token → LockMode × List Token
  | .keyword .deferred _ :: rest => (.deferred, rest)
  | .keyword .immediate _ :: rest => (.immediate, rest)
  | .keyword .exclusive _ :: rest => (.exclusive, rest)
  | ts => (.deferred, ts)

/-- The tokens after a keyword that may be there. -/
def skip (k : Keyword) (ts : List Token) : List Token :=
  match ts with
  | .keyword j _ :: rest => if j = k then rest else ts
  | _ => ts

/-- The tokens after the word for a transaction and the name it may have, which means nothing. -/
def skipTransaction : List Token → List Token
  | .keyword .transaction _ :: t :: rest =>
    match t with
    | .keyword .to _ => t :: rest
    | _ => if t.name?.isSome then rest else t :: rest
  | [.keyword .transaction _] => []
  | ts => ts

/-- Reads what follows the keyword of a rollback. -/
def readRollback (ts : List Token) : Except SyntaxFault (Statement × List Token) :=
  match skipTransaction ts with
  | .keyword .to _ :: rest => (readName (skip .savepoint rest)).map fun r => (.rollbackTo r.1, r.2)
  | ts => .ok (.rollback, ts)

/-- Reads a statement from its tokens. -/
def readStatement (spelling : Spelling) :
    List Token → Except SyntaxFault (Statement × List Token)
  | .keyword .select _ :: rest =>
    match rest with
    | .word name :: .symbol .open :: .symbol .star :: rest =>
      if sameWord name "count" then do
        readCount spelling (← expectWord .from (← expect .close rest))
      else .error .unexpected
    | _ => (readSelect spelling rest).map fun r => (.select r.1, r.2)
  | .keyword .insert _ :: rest => readInsert rest
  | .keyword .update _ :: rest => readUpdate rest
  | .keyword .delete _ :: rest => readDelete rest
  | .keyword .begin _ :: rest =>
    let r := readMode rest
    .ok (.begin r.1, skipTransaction r.2)
  | .keyword .commit _ :: rest | .keyword .end _ :: rest => .ok (.commit, skipTransaction rest)
  | .keyword .rollback _ :: rest => readRollback rest
  | .keyword .savepoint _ :: rest => (readName rest).map fun r => (.savepoint r.1, r.2)
  | .keyword .release _ :: rest => (readName (skip .savepoint rest)).map fun r => (.release r.1, r.2)
  | .keyword .pragma _ :: rest => (readName rest).map fun r => (.setting r.1, r.2)
  | [.keyword .values _] | [.foreign .stating _] => .error .incomplete
  | ts => stuck ts

/-- The statement of tokens, all of which it takes. -/
def Statement.ofTokens (spelling : Spelling) (ts : List Token) : Except SyntaxFault Statement := do
  match ← readStatement spelling ts with
  | (s, []) => return s
  | _ => .error .unexpected

/-! ## Grouping -/

/-- A result column with its term grouped. One that is not just a name is still titled by the text
as it was sent. -/
def ResultColumn.grouped : ResultColumn → ResultColumn
  | .all => .all
  | .term t title => .term t.grouped (title.or (if t.isName then none else some t.text))

/-- A source with the conditions of its joins grouped. -/
def Source.grouped (s : Source) : Source :=
  { s with joins := s.joins.map fun j => { j with condition := j.condition.grouped } }

/-- A query with its terms grouped. -/
def Select.grouped (q : Select) : Select :=
  { q with
    columns := q.columns.map ResultColumn.grouped
    source := q.source.map Source.grouped
    condition := q.condition.map Term.grouped
    order := q.order.map fun k => .ofTerm k.term.grouped k.descending }

/-- The statement with its terms grouped as its text means them. -/
def Statement.grouped : Statement → Statement
  | .select q => .select q.grouped
  | .countOf q => .countOf q.grouped
  | .countRows source condition => .countRows source.grouped (condition.map Term.grouped)
  | .delete table condition => .delete table (condition.map Term.grouped)
  | .update table column value condition => .update table column value (condition.map Term.grouped)
  | s => s

/-! ## Batches -/

/-- A statement of a text: its tokens, each with the text from it on, and what follows them. It is
closed if that is a semicolon. -/
structure Segment where
  tokens : List (Token × List Char)
  stop : List Char
  closed : Bool

/-- The segments between semicolons. -/
def segments : List (Token × List Char) → List Segment
  | [] => [⟨[], [], false⟩]
  | t :: rest =>
    if t.1 = .symbol .semicolon then ⟨[], t.2, true⟩ :: segments rest
    else
      match segments rest with
      | first :: others => { first with tokens := t :: first.tokens } :: others
      | [] => [⟨[t], [], false⟩]

/-- The statement of a segment. One that is closed is never incomplete. -/
def Segment.statement (s : Segment) : Except SyntaxFault Statement :=
  let spelling := Spelling.ofStarts (s.tokens.map Prod.snd) s.stop
  match Statement.ofTokens spelling (s.tokens.map Prod.fst) with
  | .error .incomplete => .error (if s.closed then .unexpected else .incomplete)
  | r => r

/-- The statements of a text, in order; a fault for one that cannot be read. -/
def readBatch (text : String) : List (Except SyntaxFault Statement) :=
  ((segments (placedTokens (sentChars text))).filter fun s => !s.tokens.isEmpty).map Segment.statement

end Sql

end SqlMapper
