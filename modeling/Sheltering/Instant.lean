/-!
# Instants and spans

An `Instant` is a point of UTC time to the nanosecond. A leap second is the second before it with a
count of nanoseconds from `10 ^ 9` on, so instants are ordered by second, then nanosecond.

* `Span`: a signed length of time in nanoseconds.
* `Instant.add?`: an instant moved by a span, if it stays within the calendar `Instant.first` …
  `Instant.last`. A span that ends inside the leap second it starts in is counted as it is, any
  later end skips the leap second.
* `Instant.toMicros`: an instant cut to microseconds, the precision of stored timestamps.
-/

namespace Sheltering

/-- A signed length of time. -/
structure Span where
  nanos : Int
deriving DecidableEq, Repr, Inhabited

namespace Span

/-- A number of seconds. -/
def ofSeconds (n : Int) : Span := ⟨n * 1000000000⟩

/-- A number of milliseconds. -/
def ofMillis (n : Int) : Span := ⟨n * 1000000⟩

/-- The whole seconds, toward zero. -/
def seconds (d : Span) : Int := d.nanos.tdiv 1000000000

/-- The whole milliseconds, toward zero. -/
def millis (d : Span) : Int := d.nanos.tdiv 1000000

/-- What is left of the span beside its whole seconds, with its sign. -/
def subsecond (d : Span) : Int := d.nanos.tmod 1000000000

/-- The longest span, `2 ^ 63 - 1` milliseconds. -/
def longest : Span := ofMillis 9223372036854775807

end Span

/-- A point of UTC time. -/
structure Instant where
  /-- Seconds since 1970 began, leap seconds not counted. -/
  second : Int
  /-- Nanoseconds of the second, from `10 ^ 9` on in a leap second. -/
  nano : Nat
deriving DecidableEq, Repr, Inhabited

namespace Instant

/-- Earlier or the same. -/
def le (a b : Instant) : Prop := a.second < b.second ∨ (a.second = b.second ∧ a.nano ≤ b.nano)

/-- Earlier. -/
def lt (a b : Instant) : Prop := a.second < b.second ∨ (a.second = b.second ∧ a.nano < b.nano)

instance : LE Instant := ⟨le⟩
instance : LT Instant := ⟨lt⟩

instance (a b : Instant) : Decidable (a ≤ b) := inferInstanceAs (Decidable (_ ∨ _))
instance (a b : Instant) : Decidable (a < b) := inferInstanceAs (Decidable (_ ∨ _))

/-- The first instant of the calendar, the start of the year -262143. -/
def first : Instant := ⟨-8334601228800, 0⟩

/-- The last instant of the calendar, the end of the year 262142. -/
def last : Instant := ⟨8210266876799, 999999999⟩

/-- The instant lies within the calendar. -/
def InCalendar (t : Instant) : Prop := first.second ≤ t.second ∧ t.second ≤ last.second

instance (t : Instant) : Decidable t.InCalendar := inferInstanceAs (Decidable (_ ∧ _))

/-- The instant some nanoseconds after 1970 began. -/
def ofNanos (n : Int) : Instant := ⟨n / 1000000000, (n % 1000000000).toNat⟩

/-- The instant some milliseconds after 1970 began. -/
def ofMillis (n : Int) : Instant := ofNanos (n * 1000000)

/-- The instant lies in a leap second. -/
def isLeap (t : Instant) : Bool := 1000000000 ≤ t.nano

/-- Moves an instant without regard to the ends of the calendar. -/
def add (t : Instant) (d : Span) : Instant :=
  let nano := t.nano + d.subsecond
  if t.isLeap ∧ d.seconds = 0 ∧ nano < 2 * 1000000000 then ⟨t.second, nano.toNat⟩
  else
    let skipped : Int := if t.isLeap ∧ 0 ≤ d.nanos then 1000000000 else 0
    ofNanos (t.second * 1000000000 + t.nano - skipped + d.nanos)

/-- Moves an instant by a span, if it stays within the calendar. -/
def add? (t : Instant) (d : Span) : Option Instant :=
  let moved := t.add d
  if moved.InCalendar then some moved else none

/-- The instant cut to microseconds. -/
def toMicros (t : Instant) : Instant := { t with nano := t.nano / 1000 * 1000 }

end Instant

end Sheltering
