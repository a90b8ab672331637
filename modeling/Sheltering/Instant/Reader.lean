import Sheltering.Instant.Calendar
import Sheltering.Text.Blank
import Sheltering.Text.Digits

/-!
# Reading instants

* `Instant.ofStored?`: reads RFC 3339. Every field has its full width and the year four digits.
* `Instant.ofLoose?`: reads a laxer form. Blanks may stand around the fields and before the offset,
  fields may be short, a year with a sign may have any number of digits, and `UTC` is an offset.

In both forms the seconds may have a fraction, whose digits past the ninth are dropped, the second
60 of any minute is a leap second, and an offset is required.
-/

namespace Sheltering.Instant

open Text

/-! ## Fields -/

/-- A number of `least` to `most` digits. -/
def number? (least most : Nat) (text : List Char) : Option (Nat × List Char) :=
  let (digits, rest) := spanDigits most text
  if digits.length < least then none else some (ofDigits digits, rest)

/-- A given character. -/
def mark? (c : Char) : List Char → Option (List Char)
  | d :: rest => if d = c then some rest else none
  | [] => none

/-- The mark between date and time. -/
def timeMark? : List Char → Option (List Char)
  | c :: rest => if c = 'T' ∨ c = 't' ∨ c = ' ' then some rest else none
  | [] => none

/-- The nanoseconds of a fraction, zero where there is none. -/
def fraction? : List Char → Option (Nat × List Char)
  | '.' :: text =>
    let (digits, rest) := spanDigits 9 text
    if digits.isEmpty then none
    else
      some (ofDigits digits * Nat.pow 10 (9 - digits.length), rest.dropWhile isDigit)
  | text => some (0, text)

/-- The sign of an offset; the mathematical minus is one. -/
def offsetSign? : List Char → Option (Int × List Char)
  | '+' :: rest => some (1, rest)
  | '-' :: rest => some (-1, rest)
  | '−' :: rest => some (-1, rest)
  | _ => none

/-- An offset in seconds. `separator` reads what stands between hours and minutes. -/
def offset? (separator : List Char → Option (List Char)) (text : List Char) :
    Option (Int × List Char) :=
  match text with
  | 'Z' :: rest => some (0, rest)
  | 'z' :: rest => some (0, rest)
  | _ => do
    let (sign, rest) ← offsetSign? text
    let (hours, rest) ← number? 2 2 rest
    let rest ← separator rest
    let (minutes, rest) ← number? 2 2 rest
    if hours ≤ 23 ∧ minutes ≤ 59 then some (sign * (hours * 3600 + minutes * 60), rest) else none

/-- The instant at which clocks with an offset show `c`. Both the date shown and the instant lie
within the calendar. -/
def ofCivil? (c : Civil) (offset : Int) : Option Instant :=
  if c.Valid then
    let shown := c.toInstant
    let t : Instant := { shown with second := shown.second - offset }
    if shown.InCalendar ∧ t.InCalendar then some t else none
  else none

/-! ## RFC 3339 -/

/-- Reads the form of RFC 3339. -/
def ofStoredChars? (text : List Char) : Option Instant := do
  let (year, text) ← number? 4 4 text
  let text ← mark? '-' text
  let (month, text) ← number? 2 2 text
  let text ← mark? '-' text
  let (day, text) ← number? 2 2 text
  let text ← timeMark? text
  let (hour, text) ← number? 2 2 text
  let text ← mark? ':' text
  let (minute, text) ← number? 2 2 text
  let text ← mark? ':' text
  let (second, text) ← number? 2 2 text
  let (nano, text) ← fraction? text
  let (offset, text) ← offset? (mark? ':') text
  if text.isEmpty then ofCivil? ⟨⟨year, month, day⟩, hour, minute, second, nano⟩ offset else none

/-- Reads the form of RFC 3339. -/
def ofStored? (text : String) : Option Instant := ofStoredChars? text.toList

/-! ## The laxer form -/

/-- A year: a sign and any number of digits, or at most four digits. -/
def looseYear? (text : List Char) : Option (Int × List Char) :=
  match trimStart text with
  | '-' :: rest => (number? 1 rest.length rest).map fun (n, r) => (-(n : Int), r)
  | '+' :: rest => (number? 1 rest.length rest).map fun (n, r) => ((n : Int), r)
  | rest => (number? 1 4 rest).map fun (n, r) => ((n : Int), r)

/-- A field of one or two digits, blanks before it. -/
def looseField? (text : List Char) : Option (Nat × List Char) := number? 1 2 (trimStart text)

/-- A mark, blanks before it. -/
def looseMark? (c : Char) (text : List Char) : Option (List Char) := mark? c (trimStart text)

/-- An offset, blanks before it; hours and minutes may be separated by any colons and blanks. -/
def looseOffset? (text : List Char) : Option (Int × List Char) :=
  let text := trimStart text
  match text with
  | u :: t :: c :: rest =>
    if (u = 'U' ∨ u = 'u') ∧ (t = 'T' ∨ t = 't') ∧ (c = 'C' ∨ c = 'c') then some (0, rest)
    else separated text
  | _ => separated text
where
  separated (text : List Char) : Option (Int × List Char) :=
    offset? (fun r => some (r.dropWhile fun c => c = ':' || isBlank c)) text

/-- Reads the laxer form. -/
def ofLooseChars? (text : List Char) : Option Instant := do
  let (year, text) ← looseYear? text
  let text ← looseMark? '-' text
  let (month, text) ← looseField? text
  let text ← looseMark? '-' text
  let (day, text) ← looseField? text
  let text ← timeMark? text
  let (hour, text) ← looseField? text
  let text ← looseMark? ':' text
  let (minute, text) ← looseField? text
  let text ← looseMark? ':' text
  let (second, text) ← looseField? text
  let (nano, text) ← fraction? text
  let (offset, text) ← looseOffset? text
  if (trimStart text).isEmpty then
    ofCivil? ⟨⟨year, month, day⟩, hour, minute, second, nano⟩ offset
  else none

/-- Reads the laxer form. -/
def ofLoose? (text : String) : Option Instant := ofLooseChars? text.toList

end Sheltering.Instant
