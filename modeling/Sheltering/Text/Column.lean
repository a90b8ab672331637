/-!
# Text in columns

Lengths are counted in characters.

* `truncated`: a text cut to a length, with three dots at a cut.
* `padRight`: a text with blanks up to a width.
-/

namespace Sheltering.Text

/-- A text of at most `most` characters. A longer one is cut for three dots to follow, which stand
even where there is no room for them. -/
def truncated (most : Nat) (s : String) : String :=
  if s.length ≤ most then s else String.ofList (s.toList.take (most - 3)) ++ "..."

/-- A text with blanks after it up to a width. -/
def padRight (width : Nat) (s : String) : String :=
  s ++ String.ofList (List.replicate (width - s.length) ' ')

end Sheltering.Text
