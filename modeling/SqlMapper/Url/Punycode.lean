import SqlMapper.Number.Power

/-!
# Punycode

A label that is not ASCII is written in ASCII: its ASCII characters, a hyphen, and then the others
in ascending order, each as the distance from the one before it. The distance counts every place of
every character in between. It is a number with digits `a` to `z` and `0` to `9`, the lowest first,
whose last digit is below a threshold that follows the size of the distances.
-/

namespace SqlMapper

/-- The value of a digit. -/
def Punycode.digit? (c : Char) : Option Nat :=
  if 'a' ≤ c ∧ c ≤ 'z' then some (c.toNat - 'a'.toNat)
  else if 'A' ≤ c ∧ c ≤ 'Z' then some (c.toNat - 'A'.toNat)
  else if c.isDigit then some (c.toNat - '0'.toNat + 26)
  else none

/-- The threshold at a position, which grows by 36 with every digit: a digit below it is the last.
-/
def Punycode.threshold (position bias : Nat) : Nat := min 26 (max 1 (position - bias))

/-- Numbers are below this; no label needs a greater one. -/
def Punycode.limit : Nat := 2 ^ 32

/-- Reads a distance: its digits weigh more and more, and it is added to `sum`. -/
def Punycode.readDistance? (bias position weight sum : Nat) : List Char → Option (Nat × List Char)
  | [] => none
  | c :: rest => do
    let d ← Punycode.digit? c
    let t := Punycode.threshold position bias
    let sum := sum + d * weight
    if Punycode.limit ≤ sum then none
    else if d < t then some (sum, rest)
    else if Punycode.limit ≤ weight * (36 - t) then none
    else Punycode.readDistance? bias (position + 36) (weight * (36 - t)) sum rest

/-- A distance takes one digit at least. -/
theorem Punycode.length_lt_of_readDistance? {bias position weight sum value : Nat}
    {cs rest : List Char}
    (h : Punycode.readDistance? bias position weight sum cs = some (value, rest)) :
    rest.length < cs.length := by
  induction cs generalizing position weight sum with
  | nil => simp [readDistance?] at h
  | cons c cs ih =>
    rw [readDistance?, Option.bind_eq_bind, Option.bind_eq_some_iff] at h
    obtain ⟨d, _, h⟩ := h
    dsimp only at h
    split at h
    · exact absurd h (by simp)
    · split at h
      · simp only [Option.some.injEq, Prod.mk.injEq] at h
        simp [← h.2]
      · split at h
        · exact absurd h (by simp)
        · exact Nat.lt_succ_of_lt (ih h)

/-- Divides by 35 until the value is at most 455, and counts 36 for every time. -/
def Punycode.scaleDown (delta : Nat) : Nat × Nat :=
  if 455 < delta then
    let r := Punycode.scaleDown (delta / 35)
    (r.1, r.2 + 36)
  else (delta, 0)
termination_by delta
decreasing_by omega

/-- The bias after a distance, in a text that then has `count` characters. The first distance is by
far the longest, and counts less. -/
def Punycode.adapt (distance count : Nat) (first : Bool) : Nat :=
  let halved := if first then distance / 700 else distance / 2
  let (delta, position) := Punycode.scaleDown (halved + halved / count)
  position + 36 * delta / (delta + 38)

/-- Puts in the characters that the distances lead to. `code` is the last character put in and
`index` the place after it. -/
def Punycode.insertAll? (bias code index : Nat) (text cs : List Char) : Option (List Char) :=
  if cs.isEmpty then some text
  else
    match _h : Punycode.readDistance? bias 36 1 index cs with
    | none => none
    | some (sum, rest) =>
      let count := text.length + 1
      let code := code + sum / count
      if code.isValidChar then
        Punycode.insertAll? (Punycode.adapt (sum - index) count (index == 0)) code (sum % count + 1)
          (text.insertIdx (sum % count) (Char.ofNat code)) rest
      else none
termination_by cs.length
decreasing_by exact Punycode.length_lt_of_readDistance? (by assumption)

/-- Reads a label. What stands before the last hyphen are its ASCII characters; a hyphen in front of
everything is none of them and is not read. -/
def Punycode.decode? (cs : List Char) : Option (List Char) :=
  let coded := (cs.reverse.takeWhile (· != '-')).reverse
  let plain := cs.take (cs.length - coded.length - 1)
  if coded.length = cs.length then Punycode.insertAll? 72 128 0 [] cs
  else if plain.isEmpty then none
  else Punycode.insertAll? 72 128 0 plain coded

end SqlMapper
