import Sheltering.Scheduler

/-!
# A scheduler in simulated time

A `Timeline` is a scheduler whose ticks take known times, on a clock that moves only when it is told
to. All that is due at a time happens at that time, so a timeline is one run of its scheduler: ticks
end when they are due, the timer is taken before a stored signal, and a call returns before the next
one begins.

* `Timeline.start`, `Timeline.stop`: the calls.
* `Timeline.sleep`: time passes; whatever falls due on the way happens at its own time.
* `Timeline.jump`: time moves at once; whatever fell due on the way happens at the new time.
* `Timeline.nextDue`: the timer skips the ticks that it missed.
* `Timeline.happenings`: what happened, in order.
-/

namespace Sheltering

/-- What a tick does: how many milliseconds it takes, and how it ends. -/
structure Stint where
  lasts : Nat := 0
  how : TickEnd := .succeeded
deriving DecidableEq, Repr

/-- Something that happens in a timeline. -/
inductive Happening where
  /-- The hook before the first tick runs. -/
  | before
  | begun (tick : Nat)
  | ended (tick : Nat)
  /-- The hook after the last tick runs. -/
  | after
deriving DecidableEq, Repr

namespace Happening

/-- The name of a happening. -/
def name : Happening → String
  | before => "before"
  | begun tick => s!"start {tick}"
  | ended tick => s!"end {tick}"
  | after => "after"

/-- The order of happenings at one time: by the number of the tick, with the hooks around them. -/
def le : Happening → Happening → Bool
  | before, _ => true
  | _, before => false
  | _, after => true
  | after, _ => false
  | begun a, begun b => a ≤ b
  | begun a, ended b => a ≤ b
  | ended a, begun b => a < b
  | ended a, ended b => a ≤ b

end Happening

/-- A tick that ends at a known time. -/
structure PendingTick where
  due : Nat
  tick : Nat
  how : TickEnd
deriving DecidableEq, Repr

/-- A scheduler with its clock. -/
structure Timeline where
  scheduler : Scheduler
  /-- What the ticks do; after the last one it begins again with the first. -/
  stints : List Stint := []
  /-- The work has hooks of its own. -/
  hooks : Bool := true
  /-- The hook before the first tick fails. -/
  beforeFails : Bool := false
  now : Nat := 0
  /-- When the timer is due. -/
  timer : Option Nat := none
  pending : List PendingTick := []
  /-- What happened, latest first. -/
  record : List (Nat × Happening) := []
deriving Repr

namespace Timeline

/-- What a tick does. -/
def stint (t : Timeline) (tick : Nat) : Stint :=
  (t.stints[(tick - 1) % t.stints.length]?).getD {}

/-- Makes a move, if it can be made. -/
def move (t : Timeline) (m : Move) : Timeline :=
  { t with scheduler := (t.scheduler.step? m).getD t.scheduler }

/-- Writes down what happens now. -/
def note (t : Timeline) (h : Happening) : Timeline := { t with record := (t.now, h) :: t.record }

/-- Writes down that a hook of the work runs now. -/
def noteHook (t : Timeline) (h : Happening) : Timeline := if t.hooks then t.note h else t

/-- A tick ends now. -/
def finish (t : Timeline) (p : PendingTick) : Timeline :=
  (t.move (.finish p.tick p.how)).note (.ended p.tick)

/-- The ticks that are due end. -/
def finishDue (t : Timeline) : Timeline :=
  let (due, later) := t.pending.partition (·.due ≤ t.now)
  due.foldl finish { t with pending := later }

/-- The timer starts a tick. One that takes no time ends at once. -/
def tick (t : Timeline) : Timeline :=
  let number := t.scheduler.status.begun + 1
  let stint := t.stint number
  let t := (t.move (.tick t.now)).note (.begun number)
  let p : PendingTick := ⟨t.now + stint.lasts, number, stint.how⟩
  if stint.lasts = 0 then t.finish p else { t with pending := p :: t.pending }

/-- The delay of a timer, in milliseconds, that still counts as being on time. -/
def tolerance : Nat := 5

/-- When a timer that was due at `due` and is taken at `now` is due again. One on time is due a
period later; a late one is due at the next multiple of the period, and the ticks before are
skipped. -/
def nextDue (period now due : Nat) : Nat :=
  if now ≤ due + tolerance then due + period else now + period - (now - due) % period

theorem lt_nextDue {period now due : Nat} (h : 0 < period) : due < nextDue period now due := by
  have := Nat.mod_lt (now - due) h
  unfold nextDue
  split <;> omega

/-- The timer, due at `due`, is taken as often as it is due at `now`. -/
def fire (now due : Nat) (t : Timeline) : Timeline :=
  if due ≤ now ∧ 0 < t.scheduler.period then
    fire now (nextDue t.scheduler.period now due) t.tick
  else { t with timer := some due }
termination_by now + 1 - due
decreasing_by
  rename_i h
  have later : due < nextDue t.scheduler.period now due := lt_nextDue h.2
  omega

/-- The loop takes the signal to stop, if it is there, and ends. -/
def heed (t : Timeline) : Timeline :=
  if t.scheduler.loop = .waiting ∧ t.scheduler.signal then
    { ((t.move .heed).noteHook .after).move .close with timer := none }
  else t

/-- All that is due now happens. -/
def settle (t : Timeline) : Timeline :=
  let t := t.finishDue
  let t := t.timer.elim t fun due => fire t.now due t
  t.heed

/-- All that is due at a time happens at that time. -/
def settleAt (now : Nat) (t : Timeline) : Timeline := settle { t with now }

/-! ## Calls -/

/-- A call of `start`. -/
def start (t : Timeline) : Except SchedulerFault Timeline := do
  let scheduler ← t.scheduler.claim
  let t := (({ t with scheduler }.move .announce).move .spawn).move .keep
  let t := (t.noteHook .before).move (.prepare (!t.beforeFails))
  let timer := if t.scheduler.loop = .waiting then some t.now else none
  pure (settle { t with timer })

/-- A call of `stop`. -/
def stop (t : Timeline) : Timeline :=
  let call := t.scheduler.stops.length
  ((((t.move .stop).settle).move (.seek call)).move (.join call)).move (.clear call)

/-! ## Time -/

/-- The next time at which something is due. -/
def next? (t : Timeline) : Option Nat :=
  (t.pending.map (·.due) ++ t.timer.toList).min?

/-- Time passes from `now` to `target`. -/
def walk (target now : Nat) (t : Timeline) : Timeline :=
  match t.next? with
  | some due =>
    if now < due ∧ due ≤ target then walk target due (settleAt due t) else settleAt target t
  | none => settleAt target t
termination_by target - now

/-- Time passes. -/
def sleep (t : Timeline) (millis : Nat) : Timeline := walk (t.now + millis) t.now t

/-- Time moves at once. -/
def jump (t : Timeline) (millis : Nat) : Timeline := settleAt (t.now + millis) t

/-! ## What happened -/

/-- What happened, in order, each with its time. -/
def happenings (t : Timeline) : List (Nat × Happening) :=
  t.record.reverse.mergeSort fun a b => a.1 < b.1 || (a.1 == b.1 && a.2.le b.2)

/-- The timeline with nothing written down. -/
def forget (t : Timeline) : Timeline := { t with record := [] }

end Timeline

end Sheltering
