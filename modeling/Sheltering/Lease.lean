import Sheltering.Instant.Written
import Sheltering.Json.Record
import Sheltering.Text.Case

/-!
# Leases

A `Lease` lets one process at a time do the work of a type. It runs until it is finished or until
its deadline has passed.

* `LeaseStatus`: what became of a lease, and its names.
* `Lease.isStale`: the deadline of a running lease has passed.
-/

namespace Sheltering

/-- What became of a lease. -/
inductive LeaseStatus where
  | running
  | timedOut
  | succeeded
  | failed
deriving DecidableEq, Repr

namespace LeaseStatus

/-- The name of a status. -/
def name : LeaseStatus → String
  | running => "RUNNING"
  | timedOut => "TIMEOUT"
  | succeeded => "SUCCESS"
  | failed => "FAILURE"

/-- The statuses by name. -/
def names : List (String × LeaseStatus) :=
  [("RUNNING", running), ("TIMEOUT", timedOut), ("SUCCESS", succeeded), ("FAILURE", failed)]

/-- The status of a name in any case. -/
def ofName? (s : String) : Option LeaseStatus := names.lookup (Text.upperWord s)

/-- The status of finished work. -/
def finished (success : Bool) : LeaseStatus := if success then succeeded else failed

end LeaseStatus

/-- A lease. -/
structure Lease where
  id : Uuid
  workType : String
  status : LeaseStatus
  start : Instant
  finish : Option Instant
  deadline : Instant
deriving DecidableEq, Repr

namespace Lease

/-- The lease runs although its deadline has passed. -/
def isStale (l : Lease) (now : Instant) : Bool := l.status == .running && l.deadline ≤ now

/-- The lease as a value. -/
def toJson (l : Lease) : Json :=
  .object [("id", .str l.id.text), ("work_type", .str l.workType), ("status", .str l.status.name),
    ("start_time", .str l.start.shortest),
    ("end_time", .strOrNull (l.finish.map Instant.shortest)),
    ("task_timeout", .str l.deadline.shortest)]

/-- Reads a lease. -/
def ofWritten? (w : Written) : Option Lease := do
  let f ← Fields.of? ["id", "work_type", "status", "start_time", "end_time", "task_timeout"] w
  let id ← f.required? "id" Written.uuid?
  let workType ← f.required? "work_type" Written.text?
  let status ← f.required? "status" (Written.variant? LeaseStatus.names)
  let start ← f.required? "start_time" Written.instant?
  let finish ← f.optional? "end_time" Written.instant?
  let deadline ← f.required? "task_timeout" Written.instant?
  pure { id, workType, status, start, finish, deadline }

end Lease

end Sheltering
