import Sheltering.Lease.Holding
import Sheltering.Resolver.Script
import Sheltering.Tick

/-!
# Scripted ticks

A `WorkerStage` is what surrounds a worker in a rehearsal: a table of leases, a journal, and a stage
for each resolver, all with one clock. Calls to the tables can be scripted to fail.

* `WorkerStage.surroundings`: how a stage answers the steps of a tick.
* `WorkerStage.hold`: holds a dialogue of a tick and records the calls of the scripts.
-/

namespace Sheltering

/-- What surrounds a worker in a rehearsal. -/
structure WorkerStage where
  leases : LeaseTable := {}
  journal : JournalTable := {}
  challenges : Stage
  transfers : Stage
  now : Instant
  /-- By the names `begin`, `finish` and `store_log`. -/
  mishaps : List (String × Mishap) := []
  /-- The number of identifiers drawn for leases. -/
  drawn : Nat := 0
  /-- The number of notes written. -/
  noted : Nat := 0

namespace WorkerStage

/-- Moves all clocks. -/
def setNow (s : WorkerStage) (now : Instant) : WorkerStage :=
  { s with
    now
    challenges := { s.challenges with now }
    transfers := { s.transfers with now } }

/-- Holds a dialogue of lease steps at the stage's table. -/
def holdLease {α : Type} (bits : Nat → Nat) (d : Lease.Steps α) (s : WorkerStage) :
    Reply (Except Fault α) × WorkerStage :=
  let desk : LeaseDesk := { table := s.leases, now := s.now, drawn := s.drawn }
  let run := d.run.run (LeaseDesk.surroundings bits) desk
  (run.ending, { s with leases := run.state.table, drawn := run.state.drawn })

/-- A call of a table, unless something befalls it. -/
def orMishap {α : Type} (s : WorkerStage) (name : String)
    (call : WorkerStage → Reply (Except Fault α) × WorkerStage) :
    Reply (Except Fault α) × WorkerStage :=
  match s.mishaps.lookup name with
  | some .panic => (.panic, s)
  | some (.fault fault _) => (.answer (.error fault), s)
  | none => call s

/-- Stores a note as the next entry. Entries are stamped in the order they are written. -/
def store (n : JournalNote) (s : WorkerStage) : Reply (Except Fault Unit) × WorkerStage :=
  let entry : JournalEntry :=
    { n with id := Uuid.drawn s.noted, time := Instant.ofMillis s.noted }
  match s.journal.store entry with
  | .ok journal => (.answer (.ok ()), { s with journal, noted := s.noted + 1 })
  | .error fault => (.answer (.error fault), s)

/-- How a stage answers the steps of a tick. -/
def surroundings (bits : Nat → Nat) (node : String) :
    Dialogue.Surroundings TickStep WorkerStage
  | .begin workType timeout, s =>
    s.orMishap "begin" (holdLease bits (Lease.begin workType timeout))
  | .finish id success, s =>
    s.orMishap "finish" (holdLease bits (Lease.finishWork id success))
  | .note n, s => s.orMishap "store_log" (store n)
  | .challenge q, s =>
    let (r, challenges) := Stage.surroundings node q s.challenges
    (r, { s with challenges })
  | .transfer q, s =>
    let (r, transfers) := Stage.surroundings node q s.transfers
    (r, { s with transfers })

/-- The text of a step that a script answers. -/
def callText? (s : WorkerStage) : TickStep → Option String
  | .challenge q => if s.challenges.script.answers q then some ("C:" ++ q.callText) else none
  | .transfer q => if s.transfers.script.answers q then some ("T:" ++ q.callText) else none
  | _ => none

/-- Holds a dialogue of a tick: how it ends, the calls of the scripts in order, and the stage after
it. -/
def hold {α : Type} (bits : Nat → Nat) (node : String) (d : Dialogue TickStep α)
    (s : WorkerStage) : Reply α × List String × WorkerStage :=
  let run := d.run (surroundings bits node) s
  (run.ending, run.exchanges.filterMap fun e => s.callText? e.question, run.state)

end WorkerStage

end Sheltering
