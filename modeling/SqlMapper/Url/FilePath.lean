import SqlMapper.Url.Path

/-!
# Paths of file URLs

The first segment of a file path may be a drive letter. It is written with a colon, and then the
URL has no host. A line mark between the colon and what follows in the same segment separates the
two as a slash would, and such a drive leaves the host as it is; all other line marks are left out.
-/

namespace SqlMapper

/-- Tabs and line ends, which a URL leaves out. -/
def Url.isLineMark (c : Char) : Bool := c == '\t' || c == '\n' || c == '\r'

/-- A text without its line marks. -/
def Url.dropLineMarks (cs : List Char) : List Char := cs.filter fun c => !Url.isLineMark c

/-- What follows a slash; line marks in front of it do not count. -/
def Url.afterSlash? (cs : List Char) : Option (List Char) :=
  match cs.dropWhile Url.isLineMark with
  | c :: rest => if Url.isSlash true c then some rest else none
  | [] => none

/-- The segments of a file path so far, and whether a drive letter stands in place of the host. -/
structure Url.FilePath where
  segments : List (List Char)
  onDrive : Bool

/-- A drive letter and what follows it in the same segment after a line mark. -/
def Url.splitDrive? (segment : List Char) : Option (List Char × List Char) :=
  match segment.dropWhile Url.isLineMark with
  | [] => none
  | letter :: more =>
    match more.dropWhile Url.isLineMark with
    | ':' :: mark :: rest =>
      let after := Url.dropLineMarks rest
      if letter.isAlpha && Url.isLineMark mark && !after.isEmpty then some ([letter, ':'], after)
      else none
    | _ => none

/-- Adds one segment, which may hold line marks. -/
def Url.FilePath.add (final : Bool) (path : Url.FilePath) (segment : List Char) : Url.FilePath :=
  let encode := Percent.encode Percent.path
  let plain := Url.dropLineMarks segment
  if !path.segments.isEmpty then
    { path with segments := Url.addSegment final path.segments (encode plain) }
  else
    match Url.splitDrive? segment with
    | some (drive, after) => { path with segments := [drive, encode after] }
    | none =>
      if Url.isDriveLetter plain then ⟨[plain.take 1 ++ [':']], true⟩
      else { path with segments := Url.addSegment final [] (encode plain) }

/-- Reads a file path whose first slash is taken off. -/
def Url.FilePath.ofText (cs : List Char) : Url.FilePath :=
  Url.foldSegments Url.FilePath.add ⟨[], false⟩ (Url.segments true cs)

/-- The text of a file path, which begins with no empty segments. -/
def Url.FilePath.write (path : Url.FilePath) : List Char :=
  match path.segments.dropWhile List.isEmpty with
  | [] => ['/']
  | segments => Url.writeSegments segments

end SqlMapper
