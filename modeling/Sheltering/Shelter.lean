import Sheltering.Bundle
import Sheltering.Column

/-!
# The table of sheltered bundles

The table has a row per bundle with the time of its last mark.

* `ShelterTable.mark`: sets the time of a bundle.
* `ShelterTable.contains`: the bundle was ever marked.
* `ShelterTable.recent`: the bundles marked latest.
-/

namespace Sheltering

/-- A row of the table. -/
structure ShelterRow where
  bundle : String
  since : String
deriving DecidableEq, Repr

namespace ShelterRow

/-- The bundle that a row means. -/
def read (r : ShelterRow) : Except Fault ShelteredBundle := do
  let since ← Column.instant r.since
  pure { bundle := r.bundle, since }

end ShelterRow

/-- The table of sheltered bundles; later rows are of bundles first marked later. -/
structure ShelterTable where
  rows : List ShelterRow := []
deriving DecidableEq, Repr, Inhabited

namespace ShelterTable

/-- Marks a bundle as sheltered since an instant, also if it was marked before. -/
def mark (t : ShelterTable) (bundle : String) (now : Instant) : ShelterTable :=
  if t.rows.any (·.bundle == bundle) then
    ⟨t.rows.map fun r => if r.bundle == bundle then { r with since := now.stored } else r⟩
  else ⟨t.rows ++ [⟨bundle, now.stored⟩]⟩

/-- The bundle was marked. -/
def contains (t : ShelterTable) (bundle : String) : Bool := t.rows.any (·.bundle == bundle)

/-- The rows, latest first, as text says; of one time the bundle first marked last. -/
def latestFirst (t : ShelterTable) : List ShelterRow :=
  t.rows.reverse.mergeSort fun a b => b.since ≤ a.since

/-- The bundles marked latest, at most `limit`. -/
def recent (t : ShelterTable) (limit : Nat) : Except Fault (List ShelteredBundle) :=
  (t.latestFirst.take limit).mapM ShelterRow.read

/-- Puts a row in by hand. No column is empty and the bundle is new. -/
def insert (t : ShelterTable) (bundle since : Option String) : Except Fault ShelterTable :=
  match bundle, since with
  | some bundle, some since =>
    if t.contains bundle then .error (.database "the row exists")
    else .ok ⟨t.rows ++ [⟨bundle, since⟩]⟩
  | _, _ => .error (.database "a column is empty")

end ShelterTable

end Sheltering
