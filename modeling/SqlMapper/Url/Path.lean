import SqlMapper.Url.Host

/-!
# Paths of URLs

A path is a list of segments. A segment of one dot is left out and one of two dots takes the segment
before it away, also when the dots are percent-encoded; at the end of the path either leaves an
empty segment. A segment that looks like a drive letter is never taken away.
-/

namespace SqlMapper

/-- Whether a character ends a segment: a slash, and a backslash in a special scheme. -/
def Url.isSlash (special : Bool) (c : Char) : Bool := c == '/' || (special && c == '\\')

/-- The segments between slashes. -/
def Url.segments (special : Bool) : List Char → List (List Char)
  | [] => [[]]
  | c :: rest =>
    match Url.segments special rest with
    | [] => [[c]]
    | first :: others => if Url.isSlash special c then [] :: first :: others else (c :: first) :: others

/-- A letter and a colon or a bar. -/
def Url.isDriveLetter : List Char → Bool
  | [c, d] => c.isAlpha && (d == ':' || d == '|')
  | _ => false

/-- A segment of one dot. -/
def Url.isSingleDot (segment : List Char) : Bool :=
  ["." , "%2e"].contains (String.ofList (segment.map Char.toLower))

/-- A segment of two dots. -/
def Url.isDoubleDot (segment : List Char) : Bool :=
  ["..", "%2e.", ".%2e", "%2e%2e"].contains (String.ofList (segment.map Char.toLower))

/-- Adds one segment to those resolved so far; `final` says that no slash follows it. -/
def Url.addSegment (final : Bool) (resolved : List (List Char)) (segment : List Char) :
    List (List Char) :=
  if Url.isDoubleDot segment then
    let shorter :=
      match resolved.getLast? with
      | some last => if Url.isDriveLetter last then resolved else resolved.dropLast
      | none => resolved
    if final then shorter ++ [[]] else shorter
  else if Url.isSingleDot segment then if final then resolved ++ [[]] else resolved
  else resolved ++ [segment]

/-- Adds segment after segment; only the last of them is final. -/
def Url.foldSegments {α : Type} (add : Bool → α → List Char → α) (resolved : α) :
    List (List Char) → α
  | [] => resolved
  | [segment] => add true resolved segment
  | segment :: rest => Url.foldSegments add (add false resolved segment) rest

/-- The text of a path: a slash in front of every segment. -/
def Url.writeSegments (segments : List (List Char)) : List Char :=
  segments.flatMap fun s => '/' :: s

/-- The segments of a path whose first slash is taken off, encoded and with the dots resolved. -/
def Url.resolvePath (special : Bool) (cs : List Char) : List (List Char) :=
  Url.foldSegments Url.addSegment [] ((Url.segments special cs).map (Percent.encode Percent.path))

end SqlMapper
