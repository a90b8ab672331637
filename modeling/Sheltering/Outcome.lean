import Sheltering.Fault
import Sheltering.Json

/-!
# Outcomes

* `SkipReason`: why a proposition was left alone.
* `Outcome`: what became of one attempt.
* `BatchReport`: the outcomes of a batch, counted by class.
-/

namespace Sheltering

/-- Why a proposition was left alone. -/
inductive SkipReason where
  /-- An attempt failed and its backoff window is still open. -/
  | recentlyFailed
  /-- The ledger takes no resolution any more. -/
  | alreadyClosed
  /-- Another node is to resolve it. -/
  | notOurTurn
  /-- The strategy declined before the bundle was downloaded. -/
  | fetchDeclined
  /-- The strategy declined the bundle. -/
  | resolveDeclined
deriving DecidableEq, Repr

/-- The name of a reason. -/
def SkipReason.name : SkipReason → String
  | recentlyFailed => "recently_failed"
  | alreadyClosed => "already_closed"
  | notOurTurn => "not_our_turn"
  | fetchDeclined => "fetch_declined"
  | resolveDeclined => "resolve_declined"

/-- What became of an attempt. -/
inductive Outcome where
  | resolved
  | skipped (reason : SkipReason)
  | failed (fault : ResolutionFault)
deriving DecidableEq, Repr

namespace Outcome

/-- The proposition was resolved. -/
def isResolved : Outcome → Bool
  | resolved => true
  | _ => false

/-- The proposition was left alone. -/
def isSkipped : Outcome → Bool
  | skipped _ => true
  | _ => false

/-- The attempt failed. -/
def isFailed : Outcome → Bool
  | failed _ => true
  | _ => false

end Outcome

/-- The counts of a batch. -/
structure BatchReport where
  /-- The open propositions. -/
  opened : Nat
  /-- Those that were attempted. -/
  attempted : Nat
  resolved : Nat
  skipped : Nat
  failed : Nat
deriving DecidableEq, Repr

namespace BatchReport

/-- The report of a batch with `opened` open propositions, none attempted yet. -/
def start (opened : Nat) : BatchReport := ⟨opened, 0, 0, 0, 0⟩

/-- Counts an outcome. -/
def record (r : BatchReport) : Outcome → BatchReport
  | .resolved => { r with attempted := r.attempted + 1, resolved := r.resolved + 1 }
  | .skipped _ => { r with attempted := r.attempted + 1, skipped := r.skipped + 1 }
  | .failed _ => { r with attempted := r.attempted + 1, failed := r.failed + 1 }

/-- The report of some outcomes. -/
def ofOutcomes (opened : Nat) (outcomes : List Outcome) : BatchReport :=
  outcomes.foldl record (start opened)

/-- The report as a value. -/
def toJson (r : BatchReport) : Json :=
  .object [("open", .nat r.opened), ("attempted", .nat r.attempted), ("resolved", .nat r.resolved),
    ("skipped", .nat r.skipped), ("failed", .nat r.failed)]

end BatchReport

end Sheltering
