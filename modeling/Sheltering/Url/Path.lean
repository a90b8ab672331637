import Sheltering.Text.Split
import Sheltering.Url.Escape

/-!
# Paths of addresses

A path is a list of segments with a slash before each. The segments `.` and `..` are steps, which
are taken when the path is read: `..` leaves out the segment before, unless it is the letter of a
drive.

* `segments`: the segments of a path.
* `isDrive`: a segment is the letter of a drive.
* `resolved`: the segments without the steps.
* `pathText`: some segments as they are written.
-/

namespace Sheltering.Url

open Text

/-- The segments of a path that begins with a slash. A backslash may stand for a slash. -/
def segments (isSpecial : Bool) (text : List Char) : List (List Char) :=
  splitAt '/' ((text.map fun c => if isSpecial && c = '\\' then '/' else c).drop 1)

/-- A segment with its escaped dots replaced. -/
def dots : List Char → List Char
  | '%' :: '2' :: 'e' :: rest => '.' :: dots rest
  | '%' :: '2' :: 'E' :: rest => '.' :: dots rest
  | c :: rest => c :: dots rest
  | [] => []

/-- A segment is the letter of a drive with its mark. -/
def isDrive : List Char → Bool
  | [letter, mark] => letter.isAlpha && (mark = ':' || mark = '|')
  | _ => false

/-- The letter of a drive with the usual mark, any other segment as it is. -/
def markedDrive (segment : List Char) : List Char :=
  if isDrive segment then segment.take 1 ++ [':'] else segment

/-- The segments without the steps `.` and `..`. `above` holds the segments before, last first. If
drives are `marked`, one at the start gets the usual mark. -/
def resolved (marked : Bool) (above : List (List Char)) : List (List Char) → List (List Char)
  | [] => above.reverse
  | segment :: rest =>
    let stays := if rest.isEmpty then [[]] else []
    if dots segment = ['.', '.'] then
      resolved marked (stays ++ if above.head?.any isDrive then above else above.drop 1) rest
    else if dots segment = ['.'] then resolved marked (stays ++ above) rest
    else
      resolved marked ((if marked && above.isEmpty then markedDrive segment else segment) :: above)
        rest

/-- Some segments with slashes before them. -/
def pathText (segments : List (List Char)) : String :=
  String.join (segments.map fun segment => "/" ++ escaped escapedInPath segment)

/-- The segments of a file. Empty ones at the start count as one slash. -/
def withoutSlashes (segments : List (List Char)) : List (List Char) :=
  match segments.dropWhile (·.isEmpty) with
  | [] => [[]]
  | rest => rest

end Sheltering.Url
