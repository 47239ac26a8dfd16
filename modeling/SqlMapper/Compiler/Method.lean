import SqlMapper.Sql.Term

/-!
# Methods

The methods that an expression may call, with the number of operands each takes, the receiver
counted, and the SQL that it stands for.
-/

namespace SqlMapper

/-- The methods. -/
inductive Method where
  | like | contains | startsWith | endsWith | equals | is | isNot
  | toLower | toUpper | trim
  | replace
  | isNullOrEmpty
  deriving DecidableEq, Repr

/-- The name of a method. -/
def Method.name : Method → String
  | .like => "Like"
  | .contains => "Contains"
  | .startsWith => "StartsWith"
  | .endsWith => "EndsWith"
  | .equals => "Equals"
  | .is => "Is"
  | .isNot => "IsNot"
  | .toLower => "ToLower"
  | .toUpper => "ToUpper"
  | .trim => "Trim"
  | .replace => "Replace"
  | .isNullOrEmpty => "IsNullOrEmpty"

/-- All methods. -/
def Method.all : List Method :=
  [.like, .contains, .startsWith, .endsWith, .equals, .is, .isNot, .toLower, .toUpper, .trim, .replace, .isNullOrEmpty]

/-- The method with a name. -/
def Method.ofName? (name : String) : Option Method := Method.all.find? fun m => m.name = name

/-- The number of operands. -/
def Method.arity : Method → Nat
  | .toLower | .toUpper | .trim | .isNullOrEmpty => 1
  | .replace => 3
  | _ => 2

/-- The SQL of a method on as many operands as it takes. Patterns are put together around the needle
as it is, and the operand of `isNullOrEmpty` is written twice. -/
def Method.term? : Method → List Sql.Term → Option Sql.Term
  | .like, [a, b] => some (.paren (.binary .like a b))
  | .contains, [a, b] =>
    some (.paren (.binary .like a
      (.paren (.binary .concat (.binary .concat (.string "%") b) (.string "%")))))
  | .startsWith, [a, b] => some (.paren (.binary .like a (.paren (.binary .concat b (.string "%")))))
  | .endsWith, [a, b] => some (.paren (.binary .like a (.paren (.binary .concat (.string "%") b))))
  | .equals, [a, b] => some (.paren (.binary .eq a b))
  | .is, [a, b] => some (.paren (.binary .is a b))
  | .isNot, [a, b] => some (.paren (.binary .isNot a b))
  | .toLower, [a] => some (.apply .lower a)
  | .toUpper, [a] => some (.apply .upper a)
  | .trim, [a] => some (.apply .trim a)
  | .replace, [a, b, c] => some (.replace a b c)
  | .isNullOrEmpty, [a] => some (.paren (.binary .or (.binary .is a .null) (.binary .eq a (.string ""))))
  | _, _ => none

/-- The values bound in the SQL of a method, in the order of its places: the operand of
`isNullOrEmpty` comes twice. -/
def Method.params (m : Method) (operands : List Native) : List Native :=
  match m with
  | .isNullOrEmpty => operands ++ operands
  | _ => operands

end SqlMapper
