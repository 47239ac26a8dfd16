import SqlMapper.Compiler.Method
import SqlMapper.Compiler.Scope

/-!
# Compiling expressions

An expression becomes an SQL term in a scope, with its constants written out or bound to places in
the order of the text. The grammar is closed: what is not in it is an error, and the first error
from left to right is the one reported. A null is written out in either style, and an equality or
inequality whose right side is a null becomes `IS NULL` or `IS NOT NULL`.
-/

namespace SqlMapper

/-- How constants are written: out, or as places that values are bound to. -/
inductive Style where
  | inline | positional
  deriving DecidableEq, Repr

/-- A piece of SQL and the values of its places, in the order of the text. -/
structure Bound (α : Type) where
  sql : α
  params : List Native
  deriving DecidableEq

/-- SQL without places. -/
def Bound.pure {α : Type} (sql : α) : Bound α := ⟨sql, []⟩

/-- The same values with another piece of SQL. -/
def Bound.map {α β : Type} (f : α → β) (b : Bound α) : Bound β := ⟨f b.sql, b.params⟩

/-- What a compilation depends on. -/
structure Compiler where
  scope : Scope
  style : Style
  coercion : Coercion

/-- A value as a literal; a real that is not finite has none. -/
def Native.checkLiteral (v : Native) : Except Error Native :=
  match v with
  | .real x => if x.isFinite then .ok v else .error (.expression (.nonFinite x))
  | _ => .ok v

/-- The text of a value as a literal. -/
def Native.literal (v : Native) : Except Error String := do
  return Sql.literalText (← v.checkLiteral)

/-- Compiles a constant. -/
def Compiler.constant (c : Compiler) (s : Scalar) : Except Error (Bound Sql.Constant) := do
  let v ← Error.ofCoercion (s.toNative c.coercion)
  let v ← v.checkLiteral
  if v.isNull || c.style = .inline then return ⟨.literal v, []⟩ else return ⟨.placeholder, [v]⟩

/-- Compiles the constants of a list. -/
def Compiler.constants (c : Compiler) : List Scalar → Except Error (Bound (List Sql.Constant))
  | [] => .ok ⟨[], []⟩
  | s :: rest => do
    let first ← c.constant s
    let others ← c.constants rest
    return ⟨first.sql :: others.sql, first.params ++ others.params⟩

/-- Names of parameters: letters and digits of ASCII and underscores, at least one. -/
def isParameterName (name : String) : Bool :=
  !name.isEmpty && name.toList.all fun c => c.isAlphanum || c == '_'

/-- An operator on two terms; equality and inequality with the literal null are tests for null. -/
def Sql.Term.operate (op : Sql.BinaryOp) (l r : Sql.Term) : Sql.Term :=
  .paren <|
    match op with
    | .eq => if r = .null then .binary .is l r else .binary .eq l r
    | .ne => if r = .null then .binary .isNot l r else .binary .ne l r
    | _ => .binary op l r

/-- A membership: the item, then the set. -/
def Bound.member (item : Bound Sql.Term) (set : Bound (List Sql.Constant)) : Bound Sql.Term :=
  ⟨.paren (.member item.sql set.sql), item.params ++ set.params⟩

/-- The compiled operands one after another, or the first error among them. -/
def Bound.collect {α : Type} : List (Except Error (Bound α)) → Except Error (Bound (List α))
  | [] => .ok ⟨[], []⟩
  | x :: rest => do
    let first ← x
    let others ← Bound.collect rest
    return ⟨first.sql :: others.sql, first.params ++ others.params⟩

/-- A method on compiled operands. -/
def Method.apply (m : Method) (operands : Bound (List Sql.Term)) : Except Error (Bound Sql.Term) :=
  match m.term? operands.sql with
  | some t => .ok ⟨t, m.params operands.params⟩
  | none => .error (.expression (.arity m.name m.arity operands.sql.length))

/-- The values of a list of constants. -/
def Expr.values? : Expr → Option (List Scalar)
  | .list values => some values
  | _ => none

/-- A call of a method by name. `Contains` on a list of constants and one more operand is a
membership, the item compiled before the set; in every other call the number of operands is checked
first. -/
def Compiler.invoke (c : Compiler) (name : String) (set : Option (List Scalar))
    (operands : List (Except Error (Bound Sql.Term))) : Except Error (Bound Sql.Term) :=
  match Method.ofName? name with
  | none => .error (.unknownMethod name)
  | some m =>
    match m, set, operands with
    | .contains, some values, [_, item] => do
      let item ← item
      let set ← c.constants values
      return .member item set
    | _, _, _ =>
      if operands.length = m.arity then do
        m.apply (← Bound.collect operands)
      else .error (.expression (.arity name m.arity operands.length))

mutual

/-- Compiles an expression. -/
def Compiler.compile (c : Compiler) : Expr → Except Error (Bound Sql.Term)
  | .constant s => do
    let k ← c.constant s
    return k.map .constant
  | .list _ => .error (.expression .listOutsideMembership)
  | .parameter name =>
    if isParameterName name then .ok (.pure (.parameter name))
    else .error (.expression (.parameterName name))
  | .column ref => do
    let (t, col) ← c.scope.resolve ref
    return .pure (c.scope.term t col)
  | .binary op left right =>
    match op.toSql? with
    | none => .error (.operator op)
    | some o => do
      let l ← c.compile left
      let r ← c.compile right
      return ⟨.operate o l.sql r.sql, l.params ++ r.params⟩
  | .not x => do
    let x ← c.compile x
    return x.map fun t => .not (.paren t)
  | .method name receiver args => c.invoke name receiver.values? (c.compile receiver :: c.compileEach args)
  | .call name args => c.invoke name (args.head?.bind Expr.values?) (c.compileEach args)
  | .convert x _ => c.compile x

/-- Compiles expressions one by one. -/
def Compiler.compileEach (c : Compiler) : List Expr → List (Except Error (Bound Sql.Term))
  | [] => []
  | x :: rest => c.compile x :: c.compileEach rest

end

/-- Compiles expressions from left to right. -/
def Compiler.compileAll (c : Compiler) (xs : List Expr) : Except Error (Bound (List Sql.Term)) :=
  Bound.collect (c.compileEach xs)

/-- The text of an expression with its constants written out. -/
def Expr.toSql (scope : Scope) (x : Expr) : Except Error String := do
  let b ← Compiler.compile ⟨scope, .inline, {}⟩ x
  return b.sql.text

end SqlMapper
