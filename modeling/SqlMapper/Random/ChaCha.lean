import SqlMapper.Number.Power

/-!
# The ChaCha8 generator

A stream of 32-bit words that a key of eight words determines: the block function of ChaCha with
eight rounds, a nonce of zero and a block counter that starts at zero. A 64-bit seed is stretched to
the key by a permuted congruential generator.
-/

namespace SqlMapper

/-- The state that the block function works on: sixteen words. -/
abbrev ChaChaState := Vector UInt32 16

/-- Rotation to the left. -/
def rotateLeft (x : UInt32) (n : UInt32) : UInt32 := (x <<< n) ||| (x >>> (32 - n))

/-- Rotation to the right. -/
def rotateRight (x : UInt32) (n : UInt32) : UInt32 :=
  if n = 0 then x else (x >>> n) ||| (x <<< (32 - n))

/-- The quarter round on four places. -/
def ChaChaState.quarter (s : ChaChaState) (a b c d : Fin 16) : ChaChaState :=
  let s := s.set a (s[a] + s[b])
  let s := s.set d (rotateLeft (s[d] ^^^ s[a]) 16)
  let s := s.set c (s[c] + s[d])
  let s := s.set b (rotateLeft (s[b] ^^^ s[c]) 12)
  let s := s.set a (s[a] + s[b])
  let s := s.set d (rotateLeft (s[d] ^^^ s[a]) 8)
  let s := s.set c (s[c] + s[d])
  s.set b (rotateLeft (s[b] ^^^ s[c]) 7)

/-- A round on the columns and one on the diagonals. -/
def ChaChaState.doubleRound (s : ChaChaState) : ChaChaState :=
  let s := ((s.quarter 0 4 8 12).quarter 1 5 9 13).quarter 2 6 10 14
  let s := (s.quarter 3 7 11 15).quarter 0 5 10 15
  ((s.quarter 1 6 11 12).quarter 2 7 8 13).quarter 3 4 9 14

/-- The state before the rounds: constants, key, counter and nonce. -/
def ChaChaState.initial (key : Vector UInt32 8) (counter : Nat) : ChaChaState :=
  #v[0x61707865, 0x3320646e, 0x79622d32, 0x6b206574, key[0], key[1], key[2], key[3], key[4], key[5], key[6], key[7],
    UInt32.ofNat counter, UInt32.ofNat (counter / 2 ^ 32), 0, 0]

/-- A block of the stream: eight rounds, and the state before them added. -/
def chaChaBlock (key : Vector UInt32 8) (counter : Nat) : ChaChaState :=
  let s := ChaChaState.initial key counter
  let mixed := s.doubleRound.doubleRound.doubleRound.doubleRound
  mixed.zipWith (· + ·) s

/-- A word of the stream. -/
def chaChaWord (key : Vector UInt32 8) (index : Nat) : UInt32 :=
  (chaChaBlock key (index / 16)).get ⟨index % 16, Nat.mod_lt _ (by decide)⟩

/-- One step of the generator that stretches a seed: the next state and the word it gives. -/
def stretchStep (state : UInt64) : UInt64 × UInt32 :=
  let s := state * 6364136223846793005 + 11634580027462260723
  let x : UInt32 := (((s >>> 18) ^^^ s) >>> 27).toUInt32
  (s, rotateRight x (s >>> 59).toUInt32)

/-- So many words from a seed. -/
def stretchWords : Nat → UInt64 → List UInt32
  | 0, _ => []
  | n + 1, state =>
    let r := stretchStep state
    r.2 :: stretchWords n r.1

/-- The key that a seed is stretched to. -/
def chaChaKey (seed : UInt64) : Vector UInt32 8 :=
  let words := stretchWords 8 seed
  Vector.ofFn fun i => words[i.val]?.getD 0

/-- The words of a seed, by their index. -/
def chaChaWords (seed : UInt64) : Nat → UInt32 := chaChaWord (chaChaKey seed)

end SqlMapper
