import ExtensionPublisher.Text.Parts
import ExtensionPublisher.Url.Percent

/-!
# Paths

A path is the list of its segments as they are written, with escapes; there is always one,
and a path that ends in a slash ends in an empty segment. Reading a path resolves the segments
of one and of two dots, however their dots are written. Adding a segment escapes every
character that would make it more than one segment, so a segment that was added is read back
as it was, apart from the characters that no address holds, and from dots alone.
-/
namespace ExtensionPublisher.Url

/-- The segments of a path, as written. A slash at the end is an empty last segment.
-/
abbrev Path := List (List Char)

/-- Characters that are skipped wherever they stand in an address: a tab and the two
line breaks. -/
def isSkipped (c : Char) : Bool := c == '\t' || c == '\n' || c == '\r'

/-- What a segment made of dots does. -/
inductive Dots where
  | none
  /-- The segment stays where it is. -/
  | here
  /-- The segment leads back. -/
  | back
  deriving DecidableEq, Repr

/-- A segment with its escaped dots written as dots. Either spelling leads where
dots lead. -/
def plainDots : List Char → List Char
  | '%' :: '2' :: 'e' :: rest | '%' :: '2' :: 'E' :: rest => '.' :: plainDots rest
  | c :: rest => c :: plainDots rest
  | [] => []

/-- What a segment does. Only a segment that is nothing but dots does something. -/
def dotsOf (segment : List Char) : Dots :=
  match plainDots segment with
  | ['.'] => .here
  | ['.', '.'] => .back
  | _ => .none

namespace Path

/-- The path behind a path when one more segment is read, which may be the last.
Dots at the end leave an empty segment, as a slash would. -/
def enter (path : Path) (isLast : Bool) (segment : List Char) : Path :=
  let closed (path : Path) := if isLast then path ++ [[]] else path
  match dotsOf segment with
  | .here => closed path
  | .back => closed path.dropLast
  | .none => path ++ [segment]

/-- Resolve the segments of dots behind a path, one after the other. -/
def resolve (path : Path) : List (List Char) → Path
  | [] => path
  | [segment] => path.enter true segment
  | segment :: rest => resolve (path.enter false segment) rest

/-- Read the text behind the first slash of a path. With `special` a backslash is a slash. -/
def read (special : Bool) (cs : List Char) : Path :=
  let slashed := if special then cs.map fun c => if c = '\\' then '/' else c else cs
  resolve [] ((Text.parts '/' slashed).map (percentEncode isEscapedInPath))

/-- A path without an empty last segment, unless it has no other. -/
def withoutTrailing (path : Path) : Path :=
  if 1 < path.length && path.getLast? == some [] then path.dropLast else path

/-- A path with one more segment, as it is given. A segment of dots is left out; one that
becomes dots when characters are skipped leads where dots lead. -/
def push (path : Path) (segment : List Char) : Path :=
  if segment = ['.'] ∨ segment = ['.', '.'] then path
  else
    let written := percentEncode isEscapedInSegment (segment.filter (!isSkipped ·))
    match dotsOf written with
    | .here => if path = [[]] then path else path ++ [[]]
    | .back => if path = [[]] then path else path.dropLast ++ [[]]
    | .none => if path = [[]] then [written] else path ++ [written]

/-- A path with more segments, as they are given, one after the other. -/
def pushAll (path : Path) (segments : List (List Char)) : Path := segments.foldl push path

/-- The path as it is written, a slash in front of each segment. -/
def text (path : Path) : List Char := path.flatMap fun segment => '/' :: segment

end Path

end ExtensionPublisher.Url
