import Sheltering.Dialogue
import Sheltering.Lease.Table

/-!
# Taking and giving back a lease

Processes share a table and take turns statement by statement, so both dialogues are sequences of
atomic statements.

* `Lease.begin`: reads the clock, ends a lease whose deadline has passed, then puts in a new one.
* `Lease.finishWork`: reads the clock, then closes the lease with an identifier.
* `LeaseDesk`: a table with a clock and a supply of identifiers, the surroundings of one process.
-/

namespace Sheltering

/-- A step of a process that works with leases. -/
inductive LeaseStep where
  | now
  | newId
  | expire (workType : String) (now : Instant)
  | acquire (row : LeaseRow)
  | close (id : Uuid) (success : Bool) (now : Instant)
deriving DecidableEq, Repr

namespace LeaseStep

/-- What each step is answered with: a reading, an identifier, the number of rows changed, whether
the row went in. -/
def Answer : LeaseStep → Type
  | now => Instant
  | newId => Uuid
  | expire _ _ => Except Fault Nat
  | acquire _ => Except Fault Bool
  | close _ _ _ => Except Fault Nat

instance : Question LeaseStep := ⟨Answer⟩

end LeaseStep

namespace Lease

open Dialogue (call)

/-- A dialogue of lease steps that may fail. -/
abbrev Steps (α : Type) : Type := ExceptT Fault (Dialogue LeaseStep) α

/-- Reads the clock. -/
def now : Dialogue LeaseStep Instant := call LeaseStep.now

/-- Draws an identifier. -/
def newId : Dialogue LeaseStep Uuid := call LeaseStep.newId

/-- The statement that ends a lease whose deadline has passed. -/
def expire (workType : String) (now : Instant) : Steps Nat :=
  ExceptT.mk (call (LeaseStep.expire workType now))

/-- The statement that puts in a new lease. -/
def acquire (row : LeaseRow) : Steps Bool := ExceptT.mk (call (LeaseStep.acquire row))

/-- The statement that closes a lease. -/
def close (id : Uuid) (success : Bool) (now : Instant) : Steps Nat :=
  ExceptT.mk (call (LeaseStep.close id success now))

/-- Takes the lease of a work type for a time. -/
def begin (workType : String) (timeout : Span) : Steps Uuid := do
  let start ← ExceptT.lift now
  match start.add? timeout with
  | none =>
    throw (.invalidConfig
      s!"lease timeout of {timeout.seconds}s for {workType} is out of range")
  | some deadline => do
    let _ ← expire workType start
    let id ← ExceptT.lift newId
    let lease : Lease := { id, workType, status := .running, start, finish := none, deadline }
    if ← acquire (LeaseRow.ofLease lease) then pure id else throw (.workInProgress workType)

/-- Gives back the lease with an identifier. It is no fault if there is none. -/
def finishWork (id : Uuid) (success : Bool) : Steps Unit := do
  let now ← ExceptT.lift now
  let _ ← close id success now
  pure ()

end Lease

/-- The surroundings of a process: the shared table, its clock, and the number of identifiers drawn
so far. -/
structure LeaseDesk where
  table : LeaseTable
  now : Instant
  drawn : Nat

namespace LeaseDesk

/-- How a desk answers each step. `bits` gives the random bits of the identifiers drawn. -/
def surroundings (bits : Nat → Nat) : Dialogue.Surroundings LeaseStep LeaseDesk
  | .now, desk => (.answer desk.now, desk)
  | .newId, desk => (.answer (Uuid.drawn (bits desk.drawn)), { desk with drawn := desk.drawn + 1 })
  | .expire workType now, desk =>
    let (n, table) := desk.table.expire workType now
    (.answer (.ok n), { desk with table })
  | .acquire row, desk =>
    match desk.table.acquire row with
    | .ok (taken, table) => (.answer (.ok taken), { desk with table })
    | .error fault => (.answer (.error fault), desk)
  | .close id success now, desk =>
    let (n, table) := desk.table.close id success now
    (.answer (.ok n), { desk with table })

end LeaseDesk

end Sheltering
