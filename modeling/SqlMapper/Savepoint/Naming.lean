import SqlMapper.Random.ChaCha

/-!
# Names of savepoints

A savepoint is named after a number and the depth at which it is opened. The numbers are counted, or
drawn from a stream of words; a name that is in use is passed over. As a name in use carries a
smaller depth, none ever is when names are minted for the depth at hand, so the bound on the number
of attempts is never reached.
-/

namespace SqlMapper

/-- How savepoints are named. -/
inductive SavepointNaming where
  | counter
  | random (seed : Option UInt64)
  deriving DecidableEq, Repr

/-- Where the numbers come from: the last number counted, or a stream of words and how many of them
have been drawn. -/
inductive NameSource where
  | counter (last : Nat)
  | draws (words : Nat → UInt32) (drawn : Nat)

/-- The source of a way of naming. A stream without a seed starts from zero. -/
def SavepointNaming.source : SavepointNaming → NameSource
  | .counter => .counter 0
  | .random seed => .draws (chaChaWords (seed.getD 0)) 0

/-- The next number. -/
def NameSource.next : NameSource → Nat × NameSource
  | .counter last => (last + 1, .counter (last + 1))
  | .draws words drawn => ((words drawn).toNat, .draws words (drawn + 1))

/-- The name of a number and a depth. -/
def savepointName (number depth : Nat) : String := "S" ++ toString number ++ "D" ++ toString depth

/-- A name that is not in use, by so many attempts and one more. -/
def NameSource.mint (depth : Nat) (inUse : String → Bool) : Nat → NameSource → String × NameSource
  | 0, source =>
    let r := source.next
    (savepointName r.1 depth, r.2)
  | attempts + 1, source =>
    let r := source.next
    let name := savepointName r.1 depth
    if inUse name then NameSource.mint depth inUse attempts r.2 else (name, r.2)

/-- So many names for an empty stack. -/
def NameSource.mintMany : Nat → NameSource → List String × NameSource
  | 0, source => ([], source)
  | count + 1, source =>
    let r := source.mint 0 (fun _ => false) 0
    let rest := NameSource.mintMany count r.2
    (r.1 :: rest.1, rest.2)

end SqlMapper
