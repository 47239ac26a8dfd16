import SqlMapper.Url.FilePath

/-!
# URLs

A URL is read by the rules of the URL standard, without a base, and is kept in its normal form: the
scheme and the domain in lower case, the default port left out, the dots of the path resolved and
what may not stand as it is percent-encoded. Two URLs are equal when their normal texts are.
-/

namespace SqlMapper

/-- User name, password, host and port. -/
structure Url.Authority where
  user : List Char
  password : Option (List Char)
  host : Host
  port : Option Nat
  deriving DecidableEq

/-- A URL in its parts, all of them encoded. -/
structure Url where
  scheme : List Char
  authority : Option Url.Authority
  path : List Char
  query : Option (List Char)
  fragment : Option (List Char)
  deriving DecidableEq

/-- The text of an authority. -/
def Url.Authority.write (a : Url.Authority) : List Char :=
  let password := match a.password with
    | some p => ':' :: p
    | none => []
  let user := if a.user.isEmpty && a.password.isNone then [] else a.user ++ password ++ ['@']
  let port := match a.port with
    | some n => ':' :: Nat.toDigits 10 n
    | none => []
  user ++ a.host.write ++ port

/-- The text of a URL. A path of two slashes in front of everything is kept apart from an authority.
-/
def Url.text (u : Url) : String :=
  let authority := match u.authority with
    | some a => '/' :: '/' :: a.write
    | none => if u.path.take 2 = ['/', '/'] then ['/', '.'] else []
  let query := match u.query with
    | some q => '?' :: q
    | none => []
  let fragment := match u.fragment with
    | some f => '#' :: f
    | none => []
  String.ofList (u.scheme ++ ':' :: authority ++ u.path ++ query ++ fragment)

/-- The port that a special scheme has when none is written. -/
def Url.defaultPort? (scheme : List Char) : Option Nat :=
  match String.ofList scheme with
  | "http" => some 80
  | "ws" => some 80
  | "https" => some 443
  | "wss" => some 443
  | "ftp" => some 21
  | _ => none

/-- The schemes whose URLs always have a host and a path of segments. -/
def Url.isSpecial (scheme : List Char) : Bool :=
  (Url.defaultPort? scheme).isSome || scheme == "file".toList

/-- Reads a scheme and the colon after it: a letter, and letters, digits and the marks `+`, `-` and
`.`. -/
def Url.readScheme? (cs : List Char) : Option (List Char × List Char) :=
  let inScheme (c : Char) : Bool := c.isAlphanum || c == '+' || c == '-' || c == '.'
  match cs.dropWhile inScheme with
  | ':' :: rest =>
    let scheme := (cs.takeWhile inScheme).map Char.toLower
    match scheme.head? with
    | some c => if c.isAlpha then some (scheme, rest) else none
    | none => none
  | _ => none

/-- Takes an authority off the front: what comes before a slash, a question mark or a number sign.
-/
def Url.authorityEnds (special : Bool) (c : Char) : Bool :=
  Url.isSlash special c || c == '?' || c == '#'

/-- The text before the last `@`, if there is one, and the text after it. -/
def Url.splitUser (cs : List Char) : Option (List Char) × List Char :=
  let after := (cs.reverse.takeWhile (· != '@')).reverse
  if after.length = cs.length then (none, cs) else (some (cs.take (cs.length - after.length - 1)), after)

/-- Reads user name and password. An empty password is the same as none. -/
def Url.readUser (cs : List Char) : List Char × Option (List Char) :=
  let encode := Percent.encode Percent.userInfo
  let user := encode (cs.takeWhile (· != ':'))
  match cs.dropWhile (· != ':') with
  | _ :: password => (user, if password.isEmpty then none else some (encode password))
  | [] => (user, none)

/-- Splits a host from the port after it; colons between brackets belong to the host. -/
def Url.splitPort (inside : Bool) : List Char → List Char × Option (List Char)
  | [] => ([], none)
  | c :: rest =>
    if c = ':' && !inside then ([], some rest)
    else
      let r := Url.splitPort (if c = '[' then true else if c = ']' then false else inside) rest
      (c :: r.1, r.2)

/-- Reads a port: digits of a number below 65536. No digits, or the scheme's own port, is the same
as none. What follows a backslash is not read. -/
def Url.readPort? (scheme : List Char) (cs : List Char) : Option (Option Nat) :=
  let ds := cs.takeWhile Char.isDigit
  let rest := cs.dropWhile Char.isDigit
  if !(rest.isEmpty || rest.head? == some '\\') then none
  else if ds.isEmpty then some none
  else
    let n := digitsValue ds
    if 65535 < n then none else some (if Url.defaultPort? scheme = some n then none else some n)

/-- What a port leaves unread. -/
def Url.afterPort : Option (List Char) → List Char
  | some cs => cs.dropWhile Char.isDigit
  | none => []

/-- Splits off the fragment and the query, and encodes them. -/
def Url.splitTail (special : Bool) (cs : List Char) :
    List Char × Option (List Char) × Option (List Char) :=
  let fragment := match cs.dropWhile (· != '#') with
    | _ :: f => some (Percent.encode Percent.fragment f)
    | [] => none
  let rest := cs.takeWhile (· != '#')
  let query := match rest.dropWhile (· != '?') with
    | _ :: q => some (Percent.encode (if special then Percent.specialQuery else Percent.query) q)
    | [] => none
  (rest.takeWhile (· != '?'), query, fragment)

/-- The path after an authority. In a special scheme it is never empty. -/
def Url.pathAfterAuthority (special : Bool) (cs : List Char) : List Char :=
  match cs with
  | [] => if special then ['/'] else []
  | c :: rest =>
    Url.writeSegments (Url.resolvePath special (if Url.isSlash special c then rest else c :: rest))

/-- Reads what follows two slashes, in every scheme but `file`. -/
def Url.readHierarchical? (scheme : List Char) (cs : List Char) : Option Url := do
  let special := Url.isSpecial scheme
  let (body, query, fragment) := Url.splitTail special cs
  let authority := body.takeWhile fun c => !Url.authorityEnds special c
  let rest := body.dropWhile fun c => !Url.authorityEnds special c
  let (userText, hostText) := Url.splitUser authority
  let (user, password) := match userText with
    | some text => Url.readUser text
    | none => ([], none)
  let (hostPart, portPart) := Url.splitPort false hostText
  let hostless := hostPart.isEmpty
  let userWritten := !user.isEmpty || password.isSome
  let bareAt := userText == some [] && hostText.isEmpty && !(rest.isEmpty && query.isNone && fragment.isNone)
  if hostless && (special || portPart.isSome || userWritten || bareAt) then none
  else
    let host ← if special then Host.readDomain? hostPart else Host.readOpaque? hostPart
    let port ← match portPart with
      | some text => Url.readPort? scheme text
      | none => some none
    let path := Url.pathAfterAuthority special (Url.afterPort portPart ++ rest)
    some { scheme, authority := some { user, password, host, port }, path, query, fragment }

/-- Reads what follows the colon of the scheme `file`, line marks and all. After two slashes comes a
host, which may be empty; the host `localhost` is the same as none, and what looks like a drive
letter is part of the path. After an empty host the path keeps its first slash. -/
def Url.readFile? (cs : List Char) : Option Url := do
  let (_, query, fragment) := Url.splitTail true (Url.dropLineMarks cs)
  let body := cs.takeWhile fun c => !(c == '?' || c == '#')
  let build (host path : List Char) : Url :=
    let path := Url.FilePath.ofText path
    let host := Host.name (if path.onDrive then [] else host)
    { scheme := "file".toList, authority := some { user := [], password := none, host, port := none }
      path := path.write, query, fragment }
  match Url.afterSlash? body with
  | none => some (build [] body)
  | some rest =>
    match Url.afterSlash? rest with
    | none => some (build [] rest)
    | some rest =>
      let hostText := Url.dropLineMarks (rest.takeWhile fun c => !Url.isSlash true c)
      let after := rest.dropWhile fun c => !Url.isSlash true c
      if Url.isDriveLetter hostText then some (build [] rest)
      else if hostText.isEmpty then some (build [] after)
      else
        let host ← Host.readDomain? hostText
        if host = .name "localhost".toList then some (build [] after)
        else some (build host.write after.tail)

/-- Reads what follows the colon of any other scheme: with two slashes an authority, with one a path
of segments, and without any an opaque path. -/
def Url.readGeneral? (scheme : List Char) (cs : List Char) : Option Url :=
  match cs with
  | '/' :: '/' :: rest => Url.readHierarchical? scheme rest
  | _ =>
    let (body, query, fragment) := Url.splitTail false cs
    let path := match body with
      | '/' :: rest => Url.writeSegments (Url.resolvePath false rest)
      | _ => Percent.encode Percent.control body
    some { scheme, authority := none, path, query, fragment }

/-- Controls and spaces, which are taken off both ends of a URL. -/
def Url.isTrimmed (c : Char) : Bool := c.toNat ≤ 0x20

/-- Reads a URL. Line marks are left out wherever they stand, but a file path is read with them. -/
def Url.read? (s : String) : Option Url := do
  let trimmed := (((s.toList.dropWhile Url.isTrimmed).reverse).dropWhile Url.isTrimmed).reverse
  let (scheme, rest) ← Url.readScheme? (Url.dropLineMarks trimmed)
  if scheme = "file".toList then Url.readFile? (trimmed.dropWhile (· != ':')).tail
  else if Url.isSpecial scheme then
    Url.readHierarchical? scheme (rest.dropWhile (Url.isSlash true))
  else Url.readGeneral? scheme rest

end SqlMapper
