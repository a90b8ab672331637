import Sheltering.Fault
import Sheltering.Instant.Reader
import Sheltering.Uuid

/-!
# Columns

The database keeps instants and identifiers as text.

* `Column.instant`, `Column.uuid`: the value of a column, or a fault of serialization.
-/

namespace Sheltering.Column

/-- The instant of a column. -/
def instant (s : String) : Except Fault Instant :=
  match Instant.ofStored? s with
  | some t => .ok t
  | none => .error (.serialization ("invalid timestamp " ++ s))

/-- The identifier of a column. -/
def uuid (s : String) : Except Fault Uuid :=
  match Uuid.ofText? s with
  | some u => .ok u
  | none => .error (.serialization ("invalid identifier " ++ s))

end Sheltering.Column
