import SqlMapper.Sql.Token
import SqlMapper.Value.NumberText

/-!
# Reading terms

Terms are read from tokens by precedence: an operator takes the operands that bind tighter than it
does, and operators of one level group from the left. The operand of `NOT` reaches over every
operator that binds tighter than `NOT`, wherever the `NOT` stands, so the term that is read from the
tokens of another may be grouped differently (`Term.grouped`). A reading fails at the first token
that cannot stand where it is, or at the end if more has to come.
-/

namespace SqlMapper

namespace Sql

/-- Why tokens cannot be read. -/
inductive SyntaxFault where
  /-- A token cannot stand where it is. -/
  | unexpected
  /-- The tokens end too early. -/
  | incomplete
  deriving DecidableEq, Repr

/-- Fails at the next token, or at the end. -/
def stuck {α : Type} : List Token → Except SyntaxFault α
  | [] => .error .incomplete
  | _ => .error .unexpected

/-- The value of a number. -/
def numberValue (negative : Bool) (digits : List Char) : Native :=
  (NumberText.read (String.ofList (if negative then '-' :: digits else digits))).value

/-- The value of the token of a number, perhaps with a minus in front. The smallest integer has no
such value in base sixteen. -/
def Token.number? (negative : Bool) : Token → Option Native
  | .number ds => some (numberValue negative ds)
  | .bits n =>
    if !negative then some (.integer n) else if n.toInt = -2 ^ 63 then none else some (.integer (-n))
  | _ => none

/-- Reads a constant. -/
def readConstant (ts : List Token) : Except SyntaxFault (Constant × List Token) :=
  match ts with
  | .keyword .null _ :: rest => .ok (.literal .null, rest)
  | .string s :: rest => .ok (.literal (.text s), rest)
  | .blob b :: rest => .ok (.literal (.blob b), rest)
  | .place p :: rest => .ok (.place p, rest)
  | .symbol .minus :: t :: rest =>
    match t.number? true with
    | some v => .ok (.literal v, rest)
    | none => .error .unexpected
  | [.symbol .minus] => .error .incomplete
  | t :: rest =>
    match t.number? false with
    | some v => .ok (.literal v, rest)
    | none => .error .unexpected
  | [] => .error .incomplete

/-- Reads items with a comma between each two; the number bounds how many there may be. -/
def readCommas {α : Type} (read : List Token → Except SyntaxFault (α × List Token)) :
    Nat → List Token → Except SyntaxFault (List α × List Token)
  | 0, ts => stuck ts
  | most + 1, ts => do
    let (item, rest) ← read ts
    match rest with
    | .symbol .comma :: rest =>
      let (items, rest) ← readCommas read most rest
      return (item :: items, rest)
    | _ => return ([item], rest)

/-- Takes a symbol off. -/
def expect (s : Symbol) : List Token → Except SyntaxFault (List Token)
  | .symbol t :: rest => if t = s then .ok rest else .error .unexpected
  | ts => stuck ts

/-- Takes a keyword off. -/
def expectWord (k : Keyword) : List Token → Except SyntaxFault (List Token)
  | .keyword j _ :: rest => if j = k then .ok rest else .error .unexpected
  | ts => stuck ts

/-- Reads the constants of a set and the parenthesis that closes it; the set may be empty. -/
def readSet (ts : List Token) : Except SyntaxFault (List Constant × List Token) :=
  match ts with
  | .symbol .close :: rest => .ok ([], rest)
  | _ => do
    let (items, rest) ← readCommas readConstant (ts.length + 1) ts
    return (items, ← expect .close rest)

/-- The binary operator at the front. -/
def readBinaryOp : List Token → Option (BinaryOp × List Token)
  | .keyword .is _ :: .keyword .not _ :: rest => some (.isNot, rest)
  | .keyword .is _ :: rest => some (.is, rest)
  | .keyword .or _ :: rest => some (.or, rest)
  | .keyword .and _ :: rest => some (.and, rest)
  | .keyword .like _ :: rest => some (.like, rest)
  | .symbol .eq :: rest => some (.eq, rest)
  | .symbol .ne :: rest => some (.ne, rest)
  | .symbol .lt :: rest => some (.lt, rest)
  | .symbol .le :: rest => some (.le, rest)
  | .symbol .gt :: rest => some (.gt, rest)
  | .symbol .ge :: rest => some (.ge, rest)
  | .symbol .bitAnd :: rest => some (.bitAnd, rest)
  | .symbol .bitOr :: rest => some (.bitOr, rest)
  | .symbol .plus :: rest => some (.add, rest)
  | .symbol .minus :: rest => some (.sub, rest)
  | .symbol .star :: rest => some (.mul, rest)
  | .symbol .slash :: rest => some (.div, rest)
  | .symbol .percent :: rest => some (.rem, rest)
  | .symbol .concat :: rest => some (.concat, rest)
  | _ => none

/-- The level of membership: that of equality. -/
def memberLevel : Nat := 3

/-- Whether two words are one, up to the case of letters of ASCII. -/
def sameWord (a b : String) : Bool := a.toList.map Char.toLower == b.toList.map Char.toLower

/-- The function of one argument that a word names. -/
def TextFunction.ofWord? (word : String) : Option TextFunction :=
  [TextFunction.lower, .upper, .trim].find? fun f => sameWord f.text word

/-- The term of a function by name. -/
def applyNamed? (name : String) : List Term → Option Term
  | [x] => (TextFunction.ofWord? name).map fun f => .apply f x
  | [x, old, new] => if sameWord name "replace" then some (.replace x old new) else none
  | _ => none

/-- The name that a token is where nothing but a name can stand. -/
def Token.name? : Token → Option String
  | .quoted name | .bracketed name | .word name | .string name => some name
  | .keyword k spelling => if k.isName || k.isJoining then some spelling else none
  | .foreign use spelling => if use.isName then some spelling else none
  | _ => none

/-- Reads a name. -/
def readName : List Token → Except SyntaxFault (String × List Token)
  | t :: rest =>
    match t.name? with
    | some name => .ok (name, rest)
    | none => .error .unexpected
  | [] => .error .incomplete

/-- The word `TRUE` or `FALSE`, or a column by the name. -/
def Term.ofWord (name : String) : Term :=
  if sameWord name "TRUE" then .truth true else if sameWord name "FALSE" then .truth false else .word name

/-- The column that a token names. -/
def Token.column? : Token → Option Term
  | .quoted name => some (.column none name)
  | .word name => some (.ofWord name)
  | .string _ => none
  | t => t.name?.map .word

/-- Reads what has no parts: a constant, a parameter or a column. -/
def readLeaf (ts : List Token) : Except SyntaxFault (Term × List Token) :=
  let whole : Except SyntaxFault (Term × List Token) :=
    match ts.head?.bind Token.column? with
    | some t => .ok (t, ts.drop 1)
    | none => (readConstant ts).map fun r => (.constant r.1, r.2)
  match ts with
  | t :: .symbol .dot :: rest =>
    match t.name? with
    | some table => (readName rest).map fun r => (.column (some table) r.1, r.2)
    | none => whole
  | _ => whole

/-- The number that stands alone in parentheses, so many of them being open. -/
def enclosedNumber : Nat → List Token → Option (Token × List Token)
  | n, .symbol .open :: rest => enclosedNumber (n + 1) rest
  | n, t :: rest =>
    if (t.number? false).isSome ∧ rest.take n = List.replicate n (.symbol .close) then some (t, rest.drop n)
    else none
  | _, [] => none

mutual

/-- Reads a term whose operators outside parentheses are of at least a level. -/
def readTerm : Nat → Nat → List Token → Except SyntaxFault (Term × List Token)
  | 0, _, ts => stuck ts
  | fuel + 1, level, ts => do
    let (left, rest) ← readOperand fuel ts
    extendTerm fuel level left rest

/-- Goes on with the operators after a term, as long as they are of at least a level. -/
def extendTerm : Nat → Nat → Term → List Token → Except SyntaxFault (Term × List Token)
  | 0, _, _, ts => stuck ts
  | fuel + 1, level, left, ts =>
    match ts with
    | .keyword .in _ :: rest =>
      if level ≤ memberLevel then do
        let (set, rest) ← readSet (← expect .open rest)
        extendTerm fuel level (.member left set) rest
      else .ok (left, ts)
    | [.keyword .not _] => .error .incomplete
    | _ =>
      match readBinaryOp ts with
      | some (op, rest) =>
        if level ≤ op.level then do
          let (right, rest) ← readTerm fuel (op.level + 1) rest
          extendTerm fuel level (.binary op left right) rest
        else .ok (left, ts)
      | none => .ok (left, ts)

/-- Reads an operand: a negation, a sign, a term in parentheses, a function, or what has no parts. A
minus in front of a number is part of it. -/
def readOperand : Nat → List Token → Except SyntaxFault (Term × List Token)
  | 0, ts => stuck ts
  | fuel + 1, ts =>
    match ts with
    | .keyword .not _ :: rest => do
      let (x, rest) ← readTerm fuel (notLevel + 1) rest
      return (.not x, rest)
    | .symbol .plus :: rest => do
      let (x, rest) ← readOperand fuel rest
      return (.sign false x, rest)
    | .symbol .minus :: rest =>
      match enclosedNumber 0 rest with
      | some (t, rest) => (readConstant [.symbol .minus, t]).map fun r => (.constant r.1, rest)
      | none => do
        let (x, rest) ← readOperand fuel rest
        return (.sign true x, rest)
    | .symbol .open :: rest => do
      let (x, rest) ← readTerm fuel 0 rest
      return (.paren x, ← expect .close rest)
    | .keyword .cast _ :: rest => do
      let (x, rest) ← readTerm fuel 0 (← expect .open rest)
      let (type, rest) ← readName (← expectWord .as rest)
      if sameWord type "TEXT" then return (.castText x, ← expect .close rest) else .error .unexpected
    | .word name :: .symbol .open :: rest => do
      let (args, rest) ← readArgs fuel rest
      match applyNamed? name args with
      | some x => return (x, rest)
      | none => .error .unexpected
    | [.foreign .beginning _] => .error .incomplete
    | _ => readLeaf ts

/-- Reads the arguments of a function and the parenthesis that closes them. -/
def readArgs : Nat → List Token → Except SyntaxFault (List Term × List Token)
  | 0, ts => stuck ts
  | fuel + 1, ts => do
    let (x, rest) ← readTerm fuel 0 ts
    match rest with
    | .symbol .comma :: rest =>
      let (args, rest) ← readArgs fuel rest
      return (x :: args, rest)
    | .symbol .close :: rest => return ([x], rest)
    | _ => stuck rest

end

/-- Reads a term as far as it goes. Every call takes a token off or goes on with tokens that were
not looked at, so four calls for a token are enough. -/
def readWholeTerm (ts : List Token) : Except SyntaxFault (Term × List Token) :=
  readTerm (4 * ts.length + 4) 0 ts

/-- The term that a text with the tokens of a term means. -/
def Term.grouped (t : Term) : Term :=
  match readWholeTerm t.tokens with
  | .ok (t, []) => t
  | _ => t

end Sql

end SqlMapper
