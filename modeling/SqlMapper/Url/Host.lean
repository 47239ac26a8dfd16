import SqlMapper.Text.Digits
import SqlMapper.Url.Label
import SqlMapper.Url.Percent

/-!
# Hosts

A host is a domain, an IPv4 or an IPv6 address, or an opaque name when the scheme is not a special
one. A domain is put into lower case, and one whose last label is a number has to be an IPv4
address, whose parts may be octal or hexadecimal and of which the last fills what is left. IPv6
addresses are written with the first of the longest runs of zeros left out. Hosts are ASCII; a label
beyond it comes in its code.
-/

namespace SqlMapper

/-- The host of a URL. -/
inductive Host where
  | name (text : List Char)
  | ipv4 (address : Nat)
  | ipv6 (pieces : List Nat)
  deriving DecidableEq

/-- The parts of a text between the separators. -/
def splitOnChar (separator : Char) : List Char → List (List Char)
  | [] => [[]]
  | c :: rest =>
    match splitOnChar separator rest with
    | [] => [[c]]
    | first :: others => if c = separator then [] :: first :: others else (c :: first) :: others

/-! ## IPv4 -/

/-- The number of a part of an IPv4 address: decimal, octal after a zero, hexadecimal after `0x`. -/
def Host.ipv4Number? (cs : List Char) : Option Nat :=
  let read (base : Nat) (body : List Char) : Option Nat := do
    let ds ← body.mapM Hex.digit?
    if ds.all (· < base) then some (ds.foldl (fun n d => n * base + d) 0) else none
  match cs with
  | [] => none
  | '0' :: 'x' :: body => read 16 body
  | '0' :: 'X' :: body => read 16 body
  | '0' :: c :: body => read 8 (c :: body)
  | _ => read 10 cs

/-- The parts of a dotted name, without the empty one that a dot at the end leaves. -/
def Host.labels (cs : List Char) : List (List Char) :=
  let parts := splitOnChar '.' cs
  if parts.getLast? = some [] then parts.dropLast else parts

/-- Whether the last label is a number, so that the name has to be an IPv4 address. -/
def Host.endsInNumber (cs : List Char) : Bool :=
  match (Host.labels cs).getLast? with
  | none => false
  | some last => (!last.isEmpty && last.all Char.isDigit) || (Host.ipv4Number? last).isSome

/-- Reads an IPv4 address: at most four numbers, each but the last below 256, the last filling the
remaining bytes. -/
def Host.readIpv4? (cs : List Char) : Option Nat := do
  let numbers ← (Host.labels cs).mapM Host.ipv4Number?
  let last ← numbers.getLast?
  let others := numbers.dropLast
  if 4 < numbers.length ∨ others.any (255 < ·) ∨ 256 ^ (5 - numbers.length) ≤ last then none
  else some (others.zipIdx.foldr (fun p sum => p.1 * 256 ^ (3 - p.2) + sum) last)

/-- The dotted text of an address. -/
def Host.writeIpv4 (n : Nat) : List Char :=
  Nat.toDigits 10 (n / 16777216 % 256) ++ '.' :: Nat.toDigits 10 (n / 65536 % 256) ++
    '.' :: Nat.toDigits 10 (n / 256 % 256) ++ '.' :: Nat.toDigits 10 (n % 256)

/-! ## IPv6 -/

/-- Pieces read so far: those before a double colon, and those after it if one has come. -/
structure Host.Ipv6Draft where
  front : List Nat
  back : Option (List Nat)

/-- How many pieces are taken up; a double colon stands for one at least. -/
def Host.Ipv6Draft.size (d : Host.Ipv6Draft) : Nat :=
  d.front.length + (match d.back with
    | none => 0
    | some b => b.length + 1)

/-- Adds a piece. -/
def Host.Ipv6Draft.push (d : Host.Ipv6Draft) (piece : Nat) : Host.Ipv6Draft :=
  match d.back with
  | none => { d with front := d.front ++ [piece] }
  | some b => { d with back := some (b ++ [piece]) }

/-- All eight pieces, if the draft is complete. -/
def Host.Ipv6Draft.finish? (d : Host.Ipv6Draft) : Option (List Nat) :=
  match d.back with
  | none => if d.front.length = 8 then some d.front else none
  | some b =>
    if d.size ≤ 8 then some (d.front ++ List.replicate (8 - d.front.length - b.length) 0 ++ b) else none

/-- Reads the dotted end of an IPv6 address: four numbers below 256 without leading zeros. -/
def Host.dottedEnd? (cs : List Char) : Option (List Nat) := do
  let parts := splitOnChar '.' cs
  let numbers ← parts.mapM fun p =>
    if p.isEmpty || !p.all Char.isDigit || (1 < p.length && p.head? == some '0') then none
    else if digitsValue p ≤ 255 then some (digitsValue p) else none
  match numbers with
  | [a, b, c, d] => some [a * 256 + b, c * 256 + d]
  | _ => none

/-- Reads pieces, each of at most four digits; the fuel is more than the number of characters. -/
def Host.readPieces? : Nat → Host.Ipv6Draft → List Char → Option (List Nat)
  | 0, _, _ => none
  | _ + 1, d, [] => d.finish?
  | fuel + 1, d, c :: rest =>
    if d.size = 8 then none
    else if c = ':' then
      if d.back.isSome then none else Host.readPieces? fuel { d with back := some [] } rest
    else
      let digits := ((c :: rest).take 4).takeWhile fun c => (Hex.digit? c).isSome
      let value := (digits.filterMap Hex.digit?).foldl (fun n x => n * 16 + x) 0
      match (c :: rest).drop digits.length with
      | [] => (d.push value).finish?
      | '.' :: _ =>
        if digits.isEmpty || 6 < d.size then none
        else do
          let pieces ← Host.dottedEnd? (c :: rest)
          (pieces.foldl Host.Ipv6Draft.push d).finish?
      | ':' :: after => if after.isEmpty then none else Host.readPieces? fuel (d.push value) after
      | _ => none

/-- Reads an IPv6 address: eight pieces, or fewer with one double colon. -/
def Host.readIpv6? (cs : List Char) : Option (List Nat) :=
  match cs with
  | ':' :: ':' :: rest => Host.readPieces? (cs.length + 1) ⟨[], some []⟩ rest
  | ':' :: _ => none
  | [] => none
  | [_] => none
  | _ => Host.readPieces? (cs.length + 1) ⟨[], none⟩ cs

/-- The number of zeros that a list begins with. -/
def Host.leadingZeros (pieces : List Nat) : Nat := (pieces.takeWhile (· == 0)).length

/-- Start and length of the first of the longest runs of zeros, if one is longer than a single
piece. -/
def Host.longestZeros (pieces : List Nat) : Option (Nat × Nat) :=
  let runs := (List.range 8).map fun i => (i, Host.leadingZeros (pieces.drop i))
  let best := runs.foldl (fun b r => if b.2 < r.2 then r else b) (0, 0)
  if 2 ≤ best.2 then some best else none

/-- Pieces in hexadecimal with colons between them. -/
def Host.writePieces (pieces : List Nat) : List Char :=
  ((pieces.map Hex.ofNat).intersperse [':']).flatten

/-- The text of an IPv6 address, between brackets. -/
def Host.writeIpv6 (pieces : List Nat) : List Char :=
  let inner :=
    match Host.longestZeros pieces with
    | none => Host.writePieces pieces
    | some (start, count) =>
      Host.writePieces (pieces.take start) ++ ':' :: ':' :: Host.writePieces (pieces.drop (start + count))
  '[' :: inner ++ [']']

/-! ## Names -/

/-- Characters that no domain has. -/
def Host.forbiddenInDomain (c : Char) : Bool :=
  c.toNat ≤ 0x20 || 0x7F ≤ c.toNat || "#%/:<>?@[\\]^|".toList.contains c

/-- Characters that no opaque host has. -/
def Host.forbiddenInOpaque (c : Char) : Bool :=
  c.toNat == 0 || "\t\n\r #/:<>?@[\\]^|".toList.contains c

/-- Reads what stands between brackets as an IPv6 address. -/
def Host.readBracketed? (cs : List Char) : Option Host := do
  if cs.getLast? = some ']' then some (.ipv6 (← Host.readIpv6? cs.tail.dropLast)) else none

/-- Reads the host of a special scheme. -/
def Host.readDomain? (cs : List Char) : Option Host :=
  if cs.head? = some '[' then Host.readBracketed? cs
  else
    let bytes := Percent.decode cs
    let domain := bytes.map fun b => (Char.ofNat b.toNat).toLower
    if domain.isEmpty || domain.any Host.forbiddenInDomain then none
    else if (Label.readAll? (splitOnChar '.' domain)).isNone then none
    else if Host.endsInNumber domain then (Host.readIpv4? domain).map .ipv4
    else some (.name domain)

/-- Reads the host of any other scheme; it may be empty. -/
def Host.readOpaque? (cs : List Char) : Option Host :=
  if cs.head? = some '[' then Host.readBracketed? cs
  else if cs.any Host.forbiddenInOpaque then none
  else some (.name (Percent.encode Percent.control cs))

/-- The text of a host. -/
def Host.write : Host → List Char
  | .name text => text
  | .ipv4 address => Host.writeIpv4 address
  | .ipv6 pieces => Host.writeIpv6 pieces

end SqlMapper
