import Sheltering.Config
import Sheltering.Dialogue
import Sheltering.Journal
import Sheltering.Resolver.Batch

/-!
# Ticks of the worker

In a tick a worker takes the lease of its work type, resolves a batch of challenges and then a batch
of transfers, gives the lease back and writes a note into the journal. It gives the lease back
whatever becomes of the batches, also when one panics.

* `Worker.ofSettings`: the worker of a configuration. It fails when the lease timeout is longer than
  `maxSeconds`.
* `Worker.tick`: one tick, as a dialogue of `TickStep`s.
-/

namespace Sheltering

/-- A question of a tick. -/
inductive TickStep where
  | begin (workType : String) (timeout : Span)
  | finish (id : Uuid) (success : Bool)
  | note (n : JournalNote)
  /-- A query of the resolver of challenges. -/
  | challenge (q : Query)
  /-- A query of the resolver of transfers. -/
  | transfer (q : Query)

namespace TickStep

/-- What each question is answered with. -/
def Answer : TickStep → Type
  | begin _ _ => Except Fault Uuid
  | finish _ _ => Except Fault Unit
  | note _ => Except Fault Unit
  | challenge q => Query.Answer q
  | transfer q => Query.Answer q

instance : Question TickStep := ⟨Answer⟩

end TickStep

/-- What a resolver is set up with, whatever it resolves. -/
structure ResolverSetup where
  /-- The address of the node it resolves for. -/
  node : String
  /-- Milliseconds that one download may take. -/
  downloadTimeout : UInt64 := 10000
deriving DecidableEq, Repr

/-- A worker. Each of its two resolvers has a setup of its own. -/
structure Worker where
  workType : String
  leaseTimeout : Span
  mode : Mode
  challengeSetup : ResolverSetup
  transferSetup : ResolverSetup
deriving DecidableEq, Repr

namespace Worker

open Dialogue (call)

/-- The worker of a configuration, with the resolvers of some setups. -/
def ofSettings (challengeSetup transferSetup : ResolverSetup) (s : WorkerSettings) :
    Except Fault Worker :=
  match spanOfSeconds? s.leaseTimeout with
  | some leaseTimeout =>
    .ok { workType := s.workType, leaseTimeout, mode := s.mode, challengeSetup, transferSetup }
  | none => .error (.invalidConfig s!"lease_timeout_secs {s.leaseTimeout} is out of range")

/-- The setup of the worker's resolver of one kind. -/
def setup (w : Worker) : Subject → ResolverSetup
  | .challenge => w.challengeSetup
  | .transfer => w.transferSetup

/-- The worker's resolver of one kind. -/
def resolver (w : Worker) (subject : Subject) : Resolver where
  subject
  node := (w.setup subject).node
  downloadTimeout := (w.setup subject).downloadTimeout

/-- The dialogues of a tick. -/
abbrev Steps (α : Type) : Type := Dialogue TickStep α

/-- Takes the lease. -/
def begin (w : Worker) : Steps (Except Fault Uuid) :=
  call (TickStep.begin w.workType w.leaseTimeout)

/-- Gives the lease back. -/
def finish (id : Uuid) (success : Bool) : Steps (Except Fault Unit) :=
  call (TickStep.finish id success)

/-- Writes a note; it is no harm if that fails. -/
def note (n : JournalNote) : Steps Unit := do
  let _ : Except Fault Unit ← call (TickStep.note n)
  pure ()

/-- The batch of challenges. -/
def challenges (w : Worker) : ExceptT Fault Steps BatchReport :=
  ExceptT.mk
    (((w.resolver .challenge).batch w.mode).run.refine fun q => call (TickStep.challenge q))

/-- The batch of transfers. -/
def transfers (w : Worker) : ExceptT Fault Steps BatchReport :=
  ExceptT.mk (((w.resolver .transfer).batch w.mode).run.refine fun q => call (TickStep.transfer q))

/-- Both batches; the first fault ends them. -/
def batches (w : Worker) : ExceptT Fault Steps (BatchReport × BatchReport) := do
  let challenges ← w.challenges
  let transfers ← w.transfers
  pure (challenges, transfers)

/-- The details of a note name the lease. -/
def details (id : Uuid) (more : List (String × Json)) : Option Json :=
  some (.object (("task_id", .str id.text) :: more))

/-- The note of a tick with both batches done. -/
def finishedNote (w : Worker) (id : Uuid) (challenges transfers : BatchReport) : JournalNote :=
  .info w.workType "resolution tick finished" <|
    details id [("mode", .str w.mode.name), ("challenges", challenges.toJson),
      ("transfers", transfers.toJson)]

/-- The note of a tick with a batch that failed. -/
def failedNote (w : Worker) (id : Uuid) (fault : Fault) : JournalNote :=
  .failure w.workType "resolution tick failed" fault.message (details id [])

/-- The note of a tick with a batch that panicked. -/
def panickedNote (w : Worker) (id : Uuid) : JournalNote :=
  .failure w.workType "resolution tick panicked" "panic" (details id [])

/-- What a tick does with the lease `id`: the batches, then `finish`, then a note. A panic goes on
after that. When the lease cannot be given back, that is the tick's fault and there is no note. -/
def work (w : Worker) (id : Uuid) : Steps (Except Fault Unit) := do
  match ← w.batches.run.settled with
  | .panic => do
    let _ ← finish id false
    note (w.panickedNote id)
    .panic
  | .answer (.ok (challenges, transfers)) => do
    match ← finish id true with
    | .error fault => pure (.error fault)
    | .ok () => do
      note (w.finishedNote id challenges transfers)
      pure (.ok ())
  | .answer (.error batchFault) => do
    match ← finish id false with
    | .error fault => pure (.error fault)
    | .ok () => do
      note (w.failedNote id batchFault)
      pure (.error batchFault)

/-- One tick. When the lease is held elsewhere there is nothing to do. -/
def tick (w : Worker) : Steps (Except Fault Unit) := do
  match ← w.begin with
  | .ok id => w.work id
  | .error fault => pure (if fault.isWorkInProgress then .ok () else .error fault)

end Worker

end Sheltering
