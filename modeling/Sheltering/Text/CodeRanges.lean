import Sheltering.Text.Digits
import Sheltering.Text.Split

/-!
# Ranges of characters

A table lists characters by the hexadecimal numbers of their codes: words of one number, or of the
first and the last number of a range.

* `CodeRanges.ofLines`: the ranges of a table.
* `CodeRanges.contains`: a character is in one of them.
-/

namespace Sheltering.Text

/-- The number of some hexadecimal digits. -/
def ofHexDigits (digits : List Char) : Nat :=
  (digits.filterMap hexDigit?).foldl (fun n d => 16 * n + d) 0

/-- The characters with codes from one to another. -/
structure CodeRange where
  first : Nat
  last : Nat
deriving DecidableEq, Repr

namespace CodeRange

/-- The range of a word. -/
def ofWord (word : List Char) : CodeRange :=
  let ends := (splitAt '-' word).map ofHexDigits
  ⟨ends.head?.getD 0, ends.getLast?.getD 0⟩

/-- A code is in the range. -/
def contains (r : CodeRange) (code : Nat) : Bool := r.first ≤ code && code ≤ r.last

end CodeRange

/-- The words of the lines of a table. -/
def tableWords (lines : List String) : List (List Char) :=
  lines.flatMap fun line => splitAt ' ' line.toList

/-- Some ranges. -/
abbrev CodeRanges := List CodeRange

namespace CodeRanges

/-- The ranges of the lines of a table. -/
def ofLines (lines : List String) : CodeRanges := (tableWords lines).map CodeRange.ofWord

/-- A character is in one of the ranges. -/
def contains (ranges : CodeRanges) (c : Char) : Bool := ranges.any (·.contains c.toNat)

end CodeRanges

end Sheltering.Text
