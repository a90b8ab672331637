import Sheltering.Instant

/-!
# The civil calendar

Days are counted from 1970-01-01 in the proleptic Gregorian calendar. A year is taken to begin in
March, so that the leap day is its last, and years are grouped into eras of 400 with 146097 days.

* `Date.toDay`, `Date.ofDay`: a date and its day number.
* `Instant.civil`: an instant as it is read from a calendar and a clock.
-/

namespace Sheltering

/-- A date of the proleptic Gregorian calendar. -/
structure Date where
  year : Int
  month : Nat
  day : Nat
deriving DecidableEq, Repr

namespace Date

/-- The year has a 29 February. -/
def isLeapYear (year : Int) : Bool := year % 4 == 0 && (year % 100 != 0 || year % 400 == 0)

/-- The number of days of a month. -/
def daysInMonth (year : Int) (month : Nat) : Nat :=
  if month = 2 then (if isLeapYear year then 29 else 28)
  else if month = 4 ∨ month = 6 ∨ month = 9 ∨ month = 11 then 30
  else 31

/-- The date exists. -/
def Valid (d : Date) : Prop :=
  1 ≤ d.month ∧ d.month ≤ 12 ∧ 1 ≤ d.day ∧ d.day ≤ daysInMonth d.year d.month

instance (d : Date) : Decidable d.Valid := inferInstanceAs (Decidable (_ ∧ _))

/-- The days from 0000-03-01 to 1970-01-01. -/
def epoch : Int := 719468

/-- The number of the day. -/
def toDay (d : Date) : Int :=
  let year := if d.month ≤ 2 then d.year - 1 else d.year
  let era := year / 400
  let yearOfEra := year % 400
  let month : Int := (d.month + 9) % 12
  let dayOfYear := (153 * month + 2) / 5 + d.day - 1
  let dayOfEra := yearOfEra * 365 + yearOfEra / 4 - yearOfEra / 100 + dayOfYear
  era * 146097 + dayOfEra - epoch

/-- The date of a day number. -/
def ofDay (day : Int) : Date :=
  let shifted := day + epoch
  let era := shifted / 146097
  let dayOfEra := shifted % 146097
  let yearOfEra := (dayOfEra - dayOfEra / 1460 + dayOfEra / 36524 - dayOfEra / 146096) / 365
  let dayOfYear := dayOfEra - (365 * yearOfEra + yearOfEra / 4 - yearOfEra / 100)
  let month := (5 * dayOfYear + 2) / 153
  let day := dayOfYear - (153 * month + 2) / 5 + 1
  let year := era * 400 + yearOfEra
  if month < 10 then ⟨year, (month + 3).toNat, day.toNat⟩
  else ⟨year + 1, (month - 9).toNat, day.toNat⟩

end Date

/-- An instant as it is read from a calendar and a clock. The second is 60 in a leap second. -/
structure Civil where
  date : Date
  hour : Nat
  minute : Nat
  second : Nat
  nano : Nat
deriving DecidableEq, Repr

namespace Civil

/-- The fields lie in their ranges. -/
def Valid (c : Civil) : Prop :=
  c.date.Valid ∧ c.hour ≤ 23 ∧ c.minute ≤ 59 ∧ c.second ≤ 60 ∧ c.nano < 1000000000

instance (c : Civil) : Decidable c.Valid := inferInstanceAs (Decidable (_ ∧ _))

/-- The instant that UTC clocks show so. The second 60 continues the second 59. -/
def toInstant (c : Civil) : Instant :=
  let seconds : Int := c.hour * 3600 + c.minute * 60 + min c.second 59
  ⟨c.date.toDay * 86400 + seconds, if c.second = 60 then 1000000000 + c.nano else c.nano⟩

end Civil

/-- What UTC calendars and clocks show at an instant. -/
def Instant.civil (t : Instant) : Civil :=
  let ofDay := (t.second % 86400).toNat
  let leap := if t.isLeap then 1 else 0
  { date := Date.ofDay (t.second / 86400)
    hour := ofDay / 3600
    minute := ofDay / 60 % 60
    second := ofDay % 60 + leap
    nano := t.nano % 1000000000 }

end Sheltering
