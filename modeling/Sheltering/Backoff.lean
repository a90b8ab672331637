import Sheltering.Instant

/-!
# Backoff

A failed attempt opens a window during which its proposition is left alone. A `Backoff` maps ids to
the ends of their windows. Closed windows are dropped when they are looked up or swept; whether an
id is suppressed does not depend on that.

* `Backoff.remember`: opens a window, in the place of any other of the id.
* `Backoff.lookup`: is the id's window open?
* `Backoff.sweep`: drops all closed windows.
-/

namespace Sheltering

/-- The ends of backoff windows, by id. -/
structure Backoff where
  windows : List (String × Instant)
  /-- Each id has one window. -/
  distinct : windows.Pairwise fun a b => a.1 ≠ b.1 := by exact List.Pairwise.nil

namespace Backoff

/-- No windows. -/
def empty : Backoff := { windows := [] }

/-- The number of windows that are kept, open or not. -/
def size (b : Backoff) : Nat := b.windows.length

/-- The end of an id's window. -/
def get? (b : Backoff) (id : String) : Option Instant := b.windows.lookup id

/-- Keeps the windows that pass a test. -/
def filter (b : Backoff) (keep : String × Instant → Bool) : Backoff where
  windows := b.windows.filter keep
  distinct := b.distinct.filter keep

/-- Drops the window of an id. -/
def erase (b : Backoff) (id : String) : Backoff := b.filter (·.1 ≠ id)

/-- Opens a window that ends at an instant. -/
def insert (b : Backoff) (id : String) (expiry : Instant) : Backoff where
  windows := (id, expiry) :: (b.erase id).windows
  distinct := List.pairwise_cons.2
    ⟨fun w hw => by
      have h := (List.mem_filter.1 hw).2
      exact Ne.symm (by simpa using h), (b.erase id).distinct⟩

/-- The end of a window of length `ttl` that is opened at an instant. One that is out of the
calendar ends with the calendar. -/
def expiry (now : Instant) (ttl : Span) : Instant := (now.add? ttl).getD Instant.last

/-- Opens a window of length `ttl` for an id. -/
def remember (b : Backoff) (id : String) (ttl : Span) (now : Instant) : Backoff :=
  b.insert id (expiry now ttl)

/-- Whether the id's window is open. A closed one is dropped. -/
def lookup (b : Backoff) (id : String) (now : Instant) : Bool × Backoff :=
  match b.get? id with
  | none => (false, b)
  | some expiry => if now < expiry then (true, b) else (false, b.erase id)

/-- Drops the closed windows and counts them. -/
def sweep (b : Backoff) (now : Instant) : Nat × Backoff :=
  let kept := b.filter fun w => now < w.2
  (b.size - kept.size, kept)

end Backoff

end Sheltering
