import Sheltering.Proofs.Scheduler.Status
import Sheltering.Scheduler.Timeline

/-!
# Timelines are runs

A timeline makes only moves that its scheduler can make, and its calls come one after the other.

* `Scheduler.Leads`: moves lead from one state to another, and no call begins beside another.
* `Scheduler.Beside`: ticks begin and end, and nothing else happens.
* `Scheduler.Settled`: all that was due has happened; the loop has taken a signal that was there.
* `Scheduler.AtRest`: no call is in progress, and the loop waits or is over.
* `Timeline.Call`, `Timeline.perform`: the calls of a timeline, and the passing of time.
* `Timeline.leads_perform`, `Timeline.leads_calls`: they lead from rest to rest.
-/

namespace Sheltering

namespace Scheduler

variable {s t s' : Scheduler} {m : Move}

/-- Moves lead from one state to another, and no call begins beside another. -/
def Leads (s s' : Scheduler) : Prop := ∃ moves, s.runInTurn? moves = some s'

namespace Leads

theorem refl (s : Scheduler) : s.Leads s := ⟨[], rfl⟩

theorem trans (h : s.Leads t) (h' : t.Leads s') : s.Leads s' := by
  obtain ⟨moves, run⟩ := h
  obtain ⟨rest, run'⟩ := h'
  exact ⟨moves ++ rest, runInTurn?_append.mpr ⟨t, run, run'⟩⟩

theorem of_makes (made : s.Makes m s') (alone : m.isCall = true → s.isQuiet = true) : s.Leads s' :=
  ⟨[m], runInTurn?_cons.mpr ⟨s', ⟨alone, made⟩, rfl⟩⟩

/-- A move that begins no call. -/
theorem next (h : s.Leads t) (made : t.Makes m s') (uncalled : m.isCall = false) : s.Leads s' :=
  h.trans (of_makes made fun called => absurd (uncalled.symm.trans called) nofun)

end Leads

/-! ## What falls due -/

/-- Ticks begin and end, and nothing else happens. -/
structure Beside (s s' : Scheduler) : Prop where
  leads : s.Leads s'
  frame : ∃ status inFlight, s' = { s with status, inFlight }

namespace Beside

theorem refl (s : Scheduler) : s.Beside s := ⟨.refl s, s.status, s.inFlight, rfl⟩

theorem trans (h : s.Beside t) (h' : t.Beside s') : s.Beside s' := by
  obtain ⟨leads, _, _, rfl⟩ := h
  obtain ⟨leads', status, inFlight, rfl⟩ := h'
  exact ⟨leads.trans leads', status, inFlight, rfl⟩

theorem of_tick {now : Nat} (made : s.Makes (.tick now) s') : s.Beside s' := by
  refine ⟨.of_makes made nofun, ?_⟩
  cases made
  exact ⟨_, _, rfl⟩

theorem of_finish {tick : Nat} {how : TickEnd} (made : s.Makes (.finish tick how) s') :
    s.Beside s' := by
  refine ⟨.of_makes made nofun, ?_⟩
  cases made
  exact ⟨_, _, rfl⟩

end Beside

/-- All that was due has happened: ticks began and ended, and then the loop took the signal if that
was there. -/
structure Settled (s s' : Scheduler) : Prop where
  leads : s.Leads s'
  starting : s'.starting = s.starting
  stops : s'.stops = s.stops
  handle : s'.handle = s.handle
  loop : s'.loop = if s.loop = .waiting ∧ s.signal = true then .ended else s.loop

theorem Settled.after (h : t.Settled s') (before : s.Beside t) : s.Settled s' := by
  obtain ⟨leads, _, _, rfl⟩ := before
  exact ⟨leads.trans h.leads, h.starting, h.stops, h.handle, h.loop⟩

/-! ## Rest -/

/-- No call is in progress. The loop waits, or is over, or was never spawned. -/
structure AtRest (s : Scheduler) : Prop where
  quiet : s.isQuiet = true
  loop : s.loop = .absent ∧ s.handle = false ∨ s.loop = .waiting ∨ s.loop.isOver = true

theorem AtRest.free (h : s.AtRest) : .joining ∉ s.stops :=
  fun joining => nomatch (isQuiet_iff.mp h.quiet).2 _ joining

theorem atRest_idle (period : Nat) : (idle period).AtRest := ⟨rfl, .inl ⟨rfl, rfl⟩⟩

theorem AtRest.settled (h : s.AtRest) (settled : s.Settled s') : s'.AtRest := by
  refine ⟨?_, ?_⟩
  · rw [isQuiet_iff, settled.starting, settled.stops]
    exact isQuiet_iff.mp h.quiet
  · rw [settled.loop, settled.handle]
    split
    · exact .inr (.inr rfl)
    · exact h.loop

/-- A loop that waited has taken the signal of a call of `stop`. -/
theorem AtRest.signalled (h : s.AtRest) {stops : List Stopping}
    (settled : ({ s with signal := true, stops } : Scheduler).Settled s') :
    s'.loop = .absent ∧ s'.handle = false ∨ s'.loop.isOver = true := by
  rw [settled.loop, settled.handle]
  obtain ⟨habsent, hhandle⟩ | hwaiting | hover := h.loop
  · exact .inl ⟨by simp [habsent], hhandle⟩
  · exact .inr (by simp [hwaiting])
  · refine .inr ?_
    split
    · rfl
    · exact hover

/-! ## What calls leave -/

/-- The state after the first call of `start`, when the loop has run its first hook. -/
def opened (s : Scheduler) : Scheduler :=
  { s with
    status := { s.status with running := true }
    starting := .returned
    handle := true
    loop := if s.period = 0 then .broken else .waiting }

theorem AtRest.leads_opened (h : s.AtRest) (never : s.starting = .never) : s.Leads s.opened := by
  refine ⟨[.start, .announce, .spawn, .keep, .prepare true], ?_⟩
  simp [runInTurn?, stepInTurn?, Move.isCall, h.quiet, step?, Scheduler.claim, isStarted, never,
    isSeized, h.free, opened, Except.toOption]

theorem AtRest.opened (h : s.AtRest) : s.opened.AtRest where
  quiet := isQuiet_iff.mpr ⟨.inr rfl, (isQuiet_iff.mp h.quiet).2⟩
  loop := by
    simp only [Scheduler.opened]
    split
    · exact .inr (.inr rfl)
    · exact .inr (.inl rfl)

/-- The state after a call of `stop` that came after some others. -/
def closed (s : Scheduler) (earlier : List Stopping) : Scheduler :=
  { s with
    status := { s.status with running := false }
    handle := false
    stops := earlier ++ [.returned] }

theorem atRest_closed {earlier : List Stopping}
    (starting : s.starting = .never ∨ s.starting = .returned)
    (returned : ∀ x ∈ earlier, x = .returned)
    (loopOver : s.loop = .absent ∧ s.handle = false ∨ s.loop.isOver = true) :
    (s.closed earlier).AtRest where
  quiet := by
    refine isQuiet_iff.mpr ⟨starting, fun x hx => ?_⟩
    obtain hx | hx := List.mem_append.mp hx
    · exact returned x hx
    · exact List.mem_singleton.mp hx
  loop := loopOver.imp (fun absent => ⟨absent.1, rfl⟩) .inr

end Scheduler

namespace Timeline

open Scheduler (Makes makes_of_step? step?_of_makes isQuiet_iff)

variable {t t' : Timeline} {s' : Scheduler} {m : Move}

/-- A move is made, or is left out where it cannot be made. -/
theorem move_cases {P : Scheduler → Prop} (t : Timeline) (m : Move) (skipped : P t.scheduler)
    (made : ∀ s', t.scheduler.Makes m s' → P s') : P (t.move m).scheduler := by
  unfold move
  cases h : t.scheduler.step? m with
  | none => exact skipped
  | some s' => exact made s' (makes_of_step? h)

theorem leads_move (t : Timeline) (uncalled : m.isCall = false) :
    t.scheduler.Leads (t.move m).scheduler :=
  move_cases t m (.refl _) fun _ made => (Scheduler.Leads.refl _).next made uncalled

theorem move_eq (made : t.scheduler.Makes m s') : t.move m = { t with scheduler := s' } := by
  rw [move, step?_of_makes made]
  rfl

@[simp]
theorem scheduler_note (t : Timeline) (h : Happening) : (t.note h).scheduler = t.scheduler := rfl

@[simp]
theorem scheduler_noteHook (t : Timeline) (h : Happening) :
    (t.noteHook h).scheduler = t.scheduler := by
  unfold noteHook
  split <;> rfl

theorem beside_finish (t : Timeline) (p : PendingTick) :
    t.scheduler.Beside (t.finish p).scheduler :=
  move_cases t _ (.refl _) fun _ made => .of_finish made

theorem beside_foldl_finish (due : List PendingTick) (t : Timeline) :
    t.scheduler.Beside (due.foldl finish t).scheduler := by
  induction due generalizing t with
  | nil => exact .refl t.scheduler
  | cons p due ih => exact (beside_finish t p).trans (ih (t.finish p))

theorem beside_finishDue (t : Timeline) : t.scheduler.Beside t.finishDue.scheduler := by
  unfold finishDue
  generalize t.pending.partition (·.due ≤ t.now) = parts
  exact beside_foldl_finish parts.1 { t with pending := parts.2 }

theorem beside_tick (t : Timeline) : t.scheduler.Beside t.tick.scheduler := by
  have begun (n : Nat) : t.scheduler.Beside ((t.move (.tick t.now)).note (.begun n)).scheduler :=
    move_cases t _ (.refl _) fun _ made => .of_tick made
  unfold tick
  dsimp only
  split
  · exact (begun (t.scheduler.status.begun + 1)).trans (beside_finish _ _)
  · exact begun (t.scheduler.status.begun + 1)

theorem beside_fire (now due : Nat) (t : Timeline) :
    t.scheduler.Beside (fire now due t).scheduler := by
  fun_induction fire now due t with
  | case1 due t h ih => exact (beside_tick t).trans ih
  | case2 due t h => exact .refl _

theorem settled_heed (t : Timeline) : t.scheduler.Settled t.heed.scheduler := by
  unfold heed
  split
  · rename_i h
    have heeded := Makes.heed h.1 h.2
    have closed := Makes.close (s := { t.scheduler with loop := .closing, signal := false }) rfl
    rw [move_eq heeded, move_eq (by rwa [scheduler_noteHook])]
    exact ⟨(Scheduler.Leads.of_makes heeded nofun).next closed rfl, rfl, rfl, rfl,
      (if_pos h).symm⟩
  · rename_i h
    exact ⟨.refl _, rfl, rfl, rfl, (if_neg h).symm⟩

/-- What is due at a time happens, and then a signal is taken. -/
theorem settled_settle (t : Timeline) : t.scheduler.Settled t.settle.scheduler := by
  unfold settle
  refine ((settled_heed _).after ?_).after (beside_finishDue t)
  cases t.finishDue.timer with
  | none => exact .refl _
  | some due => exact beside_fire _ due _

theorem settled_settleAt (now : Nat) (t : Timeline) :
    t.scheduler.Settled (settleAt now t).scheduler :=
  settled_settle { t with now }

/-! ## Calls -/

theorem leads_walk {target now : Nat} (h : t.scheduler.AtRest) :
    t.scheduler.Leads (walk target now t).scheduler ∧ (walk target now t).scheduler.AtRest := by
  fun_induction walk target now t with
  | case1 now t due hdue hnext ih =>
    have settled := settled_settleAt due t
    obtain ⟨leads, rest⟩ := ih (h.settled settled)
    exact ⟨settled.leads.trans leads, rest⟩
  | case2 now t due hdue hnext =>
    have settled := settled_settleAt target t
    exact ⟨settled.leads, h.settled settled⟩
  | case3 now t hnone =>
    have settled := settled_settleAt target t
    exact ⟨settled.leads, h.settled settled⟩

theorem exists_start_eq (h : t.scheduler.AtRest) (never : t.scheduler.starting = .never) :
    ∃ t₁ : Timeline, t.start = .ok t₁.settle ∧ t₁.scheduler = t.scheduler.opened := by
  have claimed : t.scheduler.claim = .ok { t.scheduler with starting := .claimed } := by
    simp [Scheduler.claim, Scheduler.isStarted, never]
  unfold start
  rw [claimed]
  refine ⟨_, rfl, ?_⟩
  simp [move, Scheduler.step?, Scheduler.isSeized, h.free, Scheduler.opened]

theorem leads_start (h : t.scheduler.AtRest) (started : t.start = .ok t') :
    t.scheduler.Leads t'.scheduler ∧ t'.scheduler.AtRest := by
  by_cases never : t.scheduler.starting = .never
  · obtain ⟨t₁, he, hs⟩ := exists_start_eq h never
    obtain rfl := Except.ok.inj (he.symm.trans started)
    have settled := settled_settle t₁
    rw [hs] at settled
    exact ⟨(h.leads_opened never).trans settled.leads, h.opened.settled settled⟩
  · simp [start, Scheduler.claim, Scheduler.isStarted, never] at started

/-- A call of `stop` that finds no loop, or sees the end of it, returns. -/
theorem scheduler_close {earlier : List Stopping}
    (hstops : t.scheduler.stops = earlier ++ [.signalled]) (free : .joining ∉ earlier)
    (loopOver : t.scheduler.loop = .absent ∧ t.scheduler.handle = false ∨
      t.scheduler.loop.isOver = true) :
    (((t.move (.seek earlier.length)).move (.join earlier.length)).move
      (.clear earlier.length)).scheduler = t.scheduler.closed earlier := by
  by_cases kept : t.scheduler.handle = true
  · have loopOver := loopOver.resolve_left (by simp [kept])
    simp [move, Scheduler.step?, Scheduler.isSeized, hstops, free, kept,
      LoopStage.isOver_iff.mp loopOver, Scheduler.closed]
  · simp [move, Scheduler.step?, Scheduler.isSeized, hstops, free, kept, Scheduler.closed]

theorem leads_stop (h : t.scheduler.AtRest) :
    t.scheduler.Leads t.stop.scheduler ∧ t.stop.scheduler.AtRest := by
  obtain ⟨starting, returned⟩ := isQuiet_iff.mp h.quiet
  have signalled : (t.move .stop).scheduler =
      { t.scheduler with signal := true, stops := t.scheduler.stops ++ [.signalled] } := by
    rw [move_eq .signal]
  have settled := settled_settle (t.move .stop)
  rw [signalled] at settled
  have loopOver := h.signalled settled
  have leads := (Scheduler.Leads.of_makes .signal fun _ => h.quiet).trans settled.leads
  have hclosed : t.stop.scheduler =
      (t.move .stop).settle.scheduler.closed t.scheduler.stops :=
    scheduler_close settled.stops h.free loopOver
  refine ⟨((leads.trans (leads_move _ rfl)).trans (leads_move _ rfl)).trans (leads_move _ rfl), ?_⟩
  rw [hclosed]
  exact Scheduler.atRest_closed (settled.starting ▸ starting) returned loopOver

/-- A call of the scheduler, or the passing of time. -/
inductive Call where
  | start
  | stop
  | sleep (millis : Nat)
  | jump (millis : Nat)

/-- The timeline after a call. One of `start` that is refused leaves it as it is. -/
def perform (t : Timeline) : Call → Timeline
  | .start => t.start.toOption.getD t
  | .stop => t.stop
  | .sleep millis => t.sleep millis
  | .jump millis => t.jump millis

/-- What a call does is a run, in which the call returns. -/
theorem leads_perform (h : t.scheduler.AtRest) (call : Call) :
    t.scheduler.Leads (t.perform call).scheduler ∧ (t.perform call).scheduler.AtRest := by
  cases call with
  | start =>
    unfold perform
    cases started : t.start with
    | error fault => exact ⟨.refl _, h⟩
    | ok t' => exact leads_start h started
  | stop => exact leads_stop h
  | sleep millis => exact leads_walk h
  | jump millis =>
    have settled := settled_settleAt (t.now + millis) t
    exact ⟨settled.leads, h.settled settled⟩

theorem leads_calls (h : t.scheduler.AtRest) (calls : List Call) :
    t.scheduler.Leads (calls.foldl perform t).scheduler ∧
      (calls.foldl perform t).scheduler.AtRest := by
  induction calls generalizing t with
  | nil => exact ⟨.refl _, h⟩
  | cons call calls ih =>
    obtain ⟨leads, rest⟩ := leads_perform h call
    obtain ⟨leads', rest'⟩ := ih rest
    exact ⟨leads.trans leads', rest'⟩

/-- A timeline is one run of its scheduler. -/
theorem exists_run {period : Nat} (h : t.scheduler = .idle period) (calls : List Call) :
    ∃ moves, (Scheduler.idle period).run? moves = some (calls.foldl perform t).scheduler := by
  obtain ⟨⟨moves, run⟩, -⟩ := leads_calls (h ▸ Scheduler.atRest_idle period) calls
  rw [h] at run
  exact ⟨moves, Scheduler.run?_of_runInTurn? run⟩

end Timeline

end Sheltering
