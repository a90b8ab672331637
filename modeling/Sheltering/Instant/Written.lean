import Sheltering.Instant.Calendar
import Sheltering.Text.Digits

/-!
# Written instants

An instant is written in the form of RFC 3339, in UTC. A year outside 0 … 9999 has a sign and at
least four digits.

* `Instant.stored`: the form of stored timestamps, always with six digits of fraction and `Z`.
* `Instant.shortest`: with 0, 3, 6 or 9 digits of fraction, the fewest that lose nothing, and `Z`.
* `Instant.offsetForm`: the same with `+00:00` for `Z`.
* `Instant.secondForm`: the form of listings, with a blank for `T`, no fraction and no offset.
-/

namespace Sheltering

open Text

/-- A year: four digits, with a sign outside 0 … 9999. -/
def writtenYear (year : Int) : List Char :=
  if 0 ≤ year ∧ year ≤ 9999 then padded 4 year.toNat
  else (if year < 0 then '-' else '+') :: padded 4 year.natAbs

namespace Date

/-- A date with hyphens. -/
def written (d : Date) : List Char :=
  writtenYear d.year ++ ['-'] ++ padded 2 d.month ++ ['-'] ++ padded 2 d.day

end Date

namespace Civil

/-- The time of day with colons. -/
def writtenTime (c : Civil) : List Char :=
  padded 2 c.hour ++ [':'] ++ padded 2 c.minute ++ [':'] ++ padded 2 c.second

/-- The fraction of the second: none, or three, six or nine digits. -/
def writtenFraction (c : Civil) : List Char :=
  if c.nano = 0 then []
  else if c.nano % 1000000 = 0 then '.' :: padded 3 (c.nano / 1000000)
  else if c.nano % 1000 = 0 then '.' :: padded 6 (c.nano / 1000)
  else '.' :: padded 9 c.nano

end Civil

namespace Instant

/-- The characters of a stored timestamp. -/
def storedChars (t : Instant) : List Char :=
  let c := t.civil
  c.date.written ++ ['T'] ++ c.writtenTime ++ ['.'] ++ padded 6 (c.nano / 1000) ++ ['Z']

/-- The form of stored timestamps, cut to microseconds. -/
def stored (t : Instant) : String := String.ofList t.storedChars

/-- The date, the time and the fraction that is needed. -/
def exactChars (t : Instant) : List Char :=
  let c := t.civil
  c.date.written ++ ['T'] ++ c.writtenTime ++ c.writtenFraction

/-- The shortest exact form, with `Z`. -/
def shortest (t : Instant) : String := String.ofList (t.exactChars ++ ['Z'])

/-- The shortest exact form, with `+00:00`. -/
def offsetForm (t : Instant) : String :=
  String.ofList (t.exactChars ++ ['+', '0', '0', ':', '0', '0'])

/-- The date and the time, separated by a blank. -/
def secondForm (t : Instant) : String :=
  String.ofList (t.civil.date.written ++ [' '] ++ t.civil.writtenTime)

end Instant

end Sheltering
