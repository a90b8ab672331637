/-!
# The scheduler

A scheduler runs a piece of work at a fixed interval until it is stopped. Every tick runs on its own
and the timer waits for none, so slow ticks overlap. Calls of `start` and `stop`, the loop and the
ticks run side by side. A `Move` is one atomic step of one of them; a run is a list of moves, in any
order in which each could be made.

* `Scheduler.claim`: the step with which a call of `start` begins. It succeeds once.
* `Scheduler.step?`: the state after a move, if the move can be made.
* `Scheduler.run?`: the state after a list of moves.
* `Scheduler.isQuiet`: no call is in progress.
-/

namespace Sheltering

/-- Why a call of `start` was refused. -/
inductive SchedulerFault where
  | alreadyStarted
deriving DecidableEq, Repr

/-- The text of a fault. -/
def SchedulerFault.message : SchedulerFault → String
  | alreadyStarted => "Worker already started"

/-- How a tick ended. -/
inductive TickEnd where
  | succeeded
  | failed
  | panicked
deriving DecidableEq, Repr

/-- What a scheduler tells of itself. -/
structure SchedulerStatus where
  running : Bool := false
  /-- The ticks started. -/
  begun : Nat := 0
  /-- The ticks that ended well. -/
  succeeded : Nat := 0
  /-- The ticks that failed or panicked. -/
  failed : Nat := 0
  /-- When the last tick was started. -/
  lastTick : Option Nat := none
deriving DecidableEq, Repr

namespace SchedulerStatus

/-- The status with a tick counted that was started at a time. -/
def begin (s : SchedulerStatus) (now : Nat) : SchedulerStatus :=
  { s with begun := s.begun + 1, lastTick := some now }

/-- The status with the end of a tick counted. A panic counts as a failure. -/
def count (s : SchedulerStatus) : TickEnd → SchedulerStatus
  | .succeeded => { s with succeeded := s.succeeded + 1 }
  | .failed => { s with failed := s.failed + 1 }
  | .panicked => { s with failed := s.failed + 1 }

end SchedulerStatus

/-- How far the call of `start` that was not refused has come. -/
inductive Starting where
  /-- There was none. -/
  | never
  | claimed
  /-- The status says that the scheduler is running. -/
  | announced
  /-- The loop was spawned and its handle is not kept yet. -/
  | spawned
  | returned
deriving DecidableEq, Repr

/-- How far a call of `stop` has come. -/
inductive Stopping where
  | signalled
  /-- It has taken the handle of the loop and waits for the end of the loop. Until then no other
  call can look for the handle. -/
  | joining
  /-- There was no handle to take, or the loop has ended. -/
  | joined
  | returned
deriving DecidableEq, Repr

/-- Where the loop stands. -/
inductive LoopStage where
  | absent
  /-- The hook before the first tick has not run. -/
  | preparing
  /-- It waits for the timer or for the signal to stop. -/
  | waiting
  /-- It has taken the signal; the hook after the last tick has not run. -/
  | closing
  | ended
  /-- It panicked for an interval of zero. -/
  | broken
deriving DecidableEq, Repr

/-- The loop was spawned and goes on no more. -/
def LoopStage.isOver : LoopStage → Bool
  | ended | broken => true
  | absent | preparing | waiting | closing => false

/-- A scheduler with its calls, its loop and its ticks. -/
structure Scheduler where
  /-- Milliseconds between ticks. -/
  period : Nat
  status : SchedulerStatus := {}
  starting : Starting := .never
  /-- The calls of `stop` in the order in which they began. -/
  stops : List Stopping := []
  /-- The handle of the loop is kept. -/
  handle : Bool := false
  /-- A signal to stop is stored. However often it is given, the loop takes it once. -/
  signal : Bool := false
  loop : LoopStage := .absent
  /-- The ticks that have not ended, by number. -/
  inFlight : List Nat := []
deriving DecidableEq, Repr

/-- One atomic step of a call, of the loop or of a tick. -/
inductive Move where
  /-- A call of `start` begins; all but the first end with it. -/
  | start
  /-- The call sets the status. -/
  | announce
  /-- The call spawns the loop. -/
  | spawn
  /-- The call keeps the handle of the loop, and returns. -/
  | keep
  /-- A call of `stop` begins and gives the signal. -/
  | stop
  /-- The call looks for the handle of the loop. -/
  | seek (call : Nat)
  /-- The call sees the end of the loop. -/
  | join (call : Nat)
  /-- The call clears the status, and returns. -/
  | clear (call : Nat)
  /-- The loop runs the hook before the first tick, which may fail. -/
  | prepare (ok : Bool)
  /-- The loop takes the timer and starts a tick. -/
  | tick (now : Nat)
  /-- The loop takes the signal. -/
  | heed
  /-- The loop runs the hook after the last tick, and ends. -/
  | close
  /-- A tick ends. -/
  | finish (tick : Nat) (how : TickEnd)
deriving DecidableEq, Repr

namespace Scheduler

/-- A call of `start` was not refused. -/
def isStarted (s : Scheduler) : Bool := s.starting ≠ .never

/-- Claims the scheduler for a call of `start`. -/
def claim (s : Scheduler) : Except SchedulerFault Scheduler :=
  if s.isStarted then .error .alreadyStarted else .ok { s with starting := .claimed }

/-- A call of `stop` holds the place where the handle is kept. -/
def isSeized (s : Scheduler) : Bool := s.stops.contains .joining

/-- The state after a move, if it can be made. -/
def step? (s : Scheduler) : Move → Option Scheduler
  | .start => some (s.claim.toOption.getD s)
  | .announce =>
    if s.starting = .claimed then
      some { s with starting := .announced, status := { s.status with running := true } }
    else none
  | .spawn =>
    if s.starting = .announced then some { s with starting := .spawned, loop := .preparing }
    else none
  | .keep =>
    if s.starting = .spawned ∧ !s.isSeized then
      some { s with starting := .returned, handle := true }
    else none
  | .stop => some { s with signal := true, stops := s.stops ++ [.signalled] }
  | .seek call =>
    if s.stops[call]? = some .signalled ∧ !s.isSeized then
      let next : Stopping := if s.handle then .joining else .joined
      some { s with handle := false, stops := s.stops.set call next }
    else none
  | .join call =>
    if s.stops[call]? = some .joining ∧ s.loop.isOver then
      some { s with stops := s.stops.set call .joined }
    else none
  | .clear call =>
    if s.stops[call]? = some .joined then
      some { s with
        status := { s.status with running := false }, stops := s.stops.set call .returned }
    else none
  | .prepare _ =>
    if s.loop = .preparing then
      some { s with loop := if s.period = 0 then .broken else .waiting }
    else none
  | .tick now =>
    if s.loop = .waiting then
      let status := s.status.begin now
      some { s with status, inFlight := s.inFlight ++ [status.begun] }
    else none
  | .heed =>
    if s.loop = .waiting ∧ s.signal then some { s with loop := .closing, signal := false }
    else none
  | .close => if s.loop = .closing then some { s with loop := .ended } else none
  | .finish tick how =>
    if tick ∈ s.inFlight then
      some { s with status := s.status.count how, inFlight := s.inFlight.erase tick }
    else none

/-- The state after some moves, if each can be made. -/
def run? (s : Scheduler) (moves : List Move) : Option Scheduler := moves.foldlM step? s

/-- No call is in progress. -/
def isQuiet (s : Scheduler) : Bool :=
  (s.starting = .never || s.starting = .returned) && s.stops.all (· = .returned)

end Scheduler

end Sheltering
