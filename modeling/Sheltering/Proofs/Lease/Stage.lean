import Sheltering.Lease.Holding

/-!
# How a lease is taken

`Lease.begin` asks four questions at most. Between them it stands at a stage, and what it does with
a reply depends on the stage alone.

* `Lease.Stage`: where a process that takes a lease has got to.
* `Lease.Stage.after`: the next stage, or the end.
* `Lease.Stage.rest_eq`: `Lease.begin` goes from stage to stage.
-/

namespace Sheltering.Lease

open Dialogue (ask unsettle)

/-- Takes a lease that is ready. -/
def take (lease : Lease) : Steps Uuid := do
  if ← acquire (LeaseRow.ofLease lease) then pure lease.id
  else throw (.workInProgress lease.workType)

/-- Draws an identifier for a lease, then takes it. -/
def draw (workType : String) (start deadline : Instant) : Steps Uuid := do
  let id ← ExceptT.lift newId
  take { id, workType, status := .running, start, finish := none, deadline }

/-- Ends a lease whose deadline has passed, then draws and takes the next. -/
def clear (workType : String) (start deadline : Instant) : Steps Uuid := do
  let _ ← expire workType start
  draw workType start deadline

/-- Where a process that takes a lease has got to. -/
inductive Stage where
  /-- Before the clock is read. -/
  | reading
  /-- Before a lease whose deadline has passed is ended. -/
  | clearing (start deadline : Instant)
  /-- Before an identifier is drawn. -/
  | drawing (start deadline : Instant)
  /-- Before the lease is put in. -/
  | taking (id : Uuid) (start deadline : Instant)

namespace Stage

variable (workType : String) (timeout : Span)

/-- The lease that a process is about to take. -/
def lease (id : Uuid) (start deadline : Instant) : Lease :=
  { id, workType, status := .running, start, finish := none, deadline }

/-- What is left to do at a stage. -/
def rest : Stage → Dialogue LeaseStep (Except Fault Uuid)
  | reading => (begin workType timeout).run
  | clearing start deadline => (clear workType start deadline).run
  | drawing start deadline => (draw workType start deadline).run
  | taking id start deadline => (take (lease workType id start deadline)).run

/-- What is asked at a stage. -/
def question : Stage → LeaseStep
  | reading => .now
  | clearing start _ => .expire workType start
  | drawing _ _ => .newId
  | taking id start deadline => .acquire (LeaseRow.ofLease (lease workType id start deadline))

/-- The fault of a lease that would end after the last instant. -/
def tooLong : Fault :=
  .invalidConfig s!"lease timeout of {timeout.seconds}s for {workType} is out of range"

/-- Goes on after the clock was read. -/
def afterReading (start : Instant) : Steps Uuid :=
  match start.add? timeout with
  | none => throw (tooLong workType timeout)
  | some deadline => clear workType start deadline

/-- The next stage after a reply, or how the process ends. -/
def after : (s : Stage) → Reply (Answer (s.question workType)) →
    Stage ⊕ Reply (Except Fault Uuid)
  | reading, .answer start =>
    match start.add? timeout with
    | some deadline => .inl (clearing start deadline)
    | none => .inr (.answer (.error (tooLong workType timeout)))
  | clearing start deadline, .answer (.ok _) => .inl (drawing start deadline)
  | clearing _ _, .answer (.error fault) => .inr (.answer (.error fault))
  | drawing start deadline, .answer id => .inl (taking id start deadline)
  | taking id _ _, .answer (.ok true) => .inr (.answer (.ok id))
  | taking _ _ _, .answer (.ok false) => .inr (.answer (.error (.workInProgress workType)))
  | taking _ _ _, .answer (.error fault) => .inr (.answer (.error fault))
  | _, .panic => .inr .panic

/-- What is left after a reply. -/
def resume : Stage ⊕ Reply (Except Fault Uuid) → Dialogue LeaseStep (Except Fault Uuid)
  | .inl s => s.rest workType timeout
  | .inr ending => unsettle ending

theorem resume_of_add?_eq_some {start deadline : Instant} (h : start.add? timeout = some deadline) :
    resume workType timeout (after workType timeout reading (.answer start)) =
      (clearing start deadline).rest workType timeout := by
  show resume workType timeout (match start.add? timeout with
    | some deadline => .inl (clearing start deadline)
    | none => .inr (.answer (.error (tooLong workType timeout)))) = _
  rw [h]
  rfl

theorem resume_of_add?_eq_none {start : Instant} (h : start.add? timeout = none) :
    resume workType timeout (after workType timeout reading (.answer start)) =
      unsettle (.answer (.error (tooLong workType timeout))) := by
  show resume workType timeout (match start.add? timeout with
    | some deadline => .inl (clearing start deadline)
    | none => .inr (.answer (.error (tooLong workType timeout)))) = _
  rw [h]
  rfl

theorem afterReading_eq (start : Instant) : (afterReading workType timeout start).run =
    resume workType timeout (after workType timeout reading (.answer start)) := by
  cases h : start.add? timeout with
  | none =>
    rw [afterReading, h, resume_of_add?_eq_none workType timeout h]
    rfl
  | some deadline =>
    rw [afterReading, h, resume_of_add?_eq_some workType timeout h]
    rfl

/-- A stage asks its question and goes on after the reply. -/
theorem rest_eq (s : Stage) : s.rest workType timeout =
    ask (s.question workType) fun r => resume workType timeout (s.after workType timeout r) := by
  cases s with
  | reading =>
    refine congrArg (ask LeaseStep.now) (funext fun r => ?_)
    cases r with
    | panic => rfl
    | answer start => exact afterReading_eq workType timeout start
  | clearing start deadline =>
    refine congrArg (ask (LeaseStep.expire workType start)) (funext fun r => ?_)
    rcases r with (_ | _) | _ <;> rfl
  | drawing start deadline =>
    refine congrArg (ask LeaseStep.newId) (funext fun r => ?_)
    cases r <;> rfl
  | taking id start deadline =>
    refine congrArg (ask (LeaseStep.acquire _)) (funext fun r => ?_)
    rcases r with (_ | _ | _) | _ <;> rfl

end Stage

end Sheltering.Lease
