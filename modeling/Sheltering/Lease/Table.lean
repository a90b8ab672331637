import Sheltering.Column
import Sheltering.Lease

/-!
# The table of leases

The table has a row of text per work type. Instants are stored in the fixed-width form of
`Instant.stored` and compared as text. A row is given a meaning only when it is read.

* `LeaseTable.expire`, `LeaseTable.acquire`, `LeaseTable.close`: the statements that change it, each
  atomic.
* `LeaseTable.get?`, `LeaseTable.list`: the leases that the rows mean.
* `LeaseTable.insert`: a row put in by hand, if it breaks no constraint.
-/

namespace Sheltering

/-- A row of the table. -/
structure LeaseRow where
  workType : String
  id : String
  status : String
  start : String
  finish : Option String
  deadline : String
deriving DecidableEq, Repr

namespace LeaseRow

/-- The lease that a row means. -/
def read (r : LeaseRow) : Except Fault Lease := do
  let status ←
    match LeaseStatus.ofName? r.status with
    | some status => .ok status
    | none => .error (.serialization ("unknown worker task status: " ++ r.status))
  let id ← Column.uuid r.id
  let start ← Column.instant r.start
  let finish ← r.finish.mapM Column.instant
  let deadline ← Column.instant r.deadline
  pure { id, workType := r.workType, status, start, finish, deadline }

/-- The row of a lease. -/
def ofLease (l : Lease) : LeaseRow where
  workType := l.workType
  id := l.id.text
  status := l.status.name
  start := l.start.stored
  finish := l.finish.map Instant.stored
  deadline := l.deadline.stored

/-- The row holds the lease of its work type. -/
def isRunning (r : LeaseRow) : Bool := r.status == LeaseStatus.running.name

end LeaseRow

/-- The table of leases. -/
structure LeaseTable where
  rows : List LeaseRow := []
deriving DecidableEq, Repr, Inhabited

namespace LeaseTable

/-- Changes the rows that pass a test, and counts them. -/
def update (t : LeaseTable) (test : LeaseRow → Bool) (change : LeaseRow → LeaseRow) :
    Nat × LeaseTable :=
  (t.rows.countP test, ⟨t.rows.map fun r => if test r then change r else r⟩)

/-- Ends the lease of a work type if its deadline has passed, as text says. -/
def expire (t : LeaseTable) (workType : String) (now : Instant) : Nat × LeaseTable :=
  t.update (fun r => r.workType == workType && r.isRunning && r.deadline ≤ now.stored)
    fun r => { r with status := LeaseStatus.timedOut.name, finish := some now.stored }

/-- Puts in the row of a new lease, in the place of a row of its work type that is not running.
While one is running nothing changes and the answer is `false`. -/
def acquire (t : LeaseTable) (row : LeaseRow) : Except Fault (Bool × LeaseTable) :=
  if t.rows.any fun r => r.workType == row.workType && r.isRunning then .ok (false, t)
  else if t.rows.any fun r => r.workType != row.workType && r.id == row.id then
    .error (.database "the identifier is taken")
  else if t.rows.any (·.workType == row.workType) then
    .ok (true, ⟨t.rows.map fun r => if r.workType == row.workType then row else r⟩)
  else .ok (true, ⟨t.rows ++ [row]⟩)

/-- Ends the lease with an identifier, whichever work type it is of. -/
def close (t : LeaseTable) (id : Uuid) (success : Bool) (now : Instant) : Nat × LeaseTable :=
  t.update (·.id == id.text)
    fun r => { r with status := (LeaseStatus.finished success).name, finish := some now.stored }

/-- The lease of a work type. -/
def get? (t : LeaseTable) (workType : String) : Except Fault (Option Lease) :=
  (t.rows.find? (·.workType == workType)).mapM LeaseRow.read

/-- All leases by work type. -/
def list (t : LeaseTable) : Except Fault (List Lease) :=
  (t.rows.mergeSort fun a b => a.workType ≤ b.workType).mapM LeaseRow.read

/-- Puts a row in by hand. No column but the end is empty, work type and identifier are new, and the
status is spelled as it should be. -/
def insert (t : LeaseTable) (workType id status start finish deadline : Option String) :
    Except Fault LeaseTable :=
  match workType, id, status, start, deadline with
  | some workType, some id, some status, some start, some deadline =>
    if (LeaseStatus.names.lookup status).isNone then .error (.database "no such status")
    else if t.rows.any fun r => r.workType == workType || r.id == id then
      .error (.database "the row exists")
    else .ok ⟨t.rows ++ [⟨workType, id, status, start, finish, deadline⟩]⟩
  | _, _, _, _, _ => .error (.database "a column is empty")

end LeaseTable

end Sheltering
