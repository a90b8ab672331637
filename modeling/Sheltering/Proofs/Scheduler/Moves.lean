import Mathlib.Data.List.Induction
import Sheltering.Scheduler

/-!
# The moves of a scheduler

* `Scheduler.Makes`: what each move does, and when it can be made.
* `Scheduler.makes_iff`: `step?` makes these moves, and no others.
* `Scheduler.run?_append`, `Scheduler.run?_induction`: runs, move by move.
* `Move.isPrepare`, `Move.isTick`, `Move.finished?`: what is counted in a run.
-/

namespace Sheltering

namespace Move

/-- The loop runs the hook before the first tick. -/
def isPrepare : Move → Bool
  | .prepare _ => true
  | _ => false

/-- A tick is started. -/
def isTick : Move → Bool
  | .tick _ => true
  | _ => false

/-- The tick that ends, and how. -/
def finished? : Move → Option (Nat × TickEnd)
  | .finish n how => some (n, how)
  | _ => none

end Move

@[simp]
theorem LoopStage.isOver_iff {l : LoopStage} : l.isOver = true ↔ l = .ended ∨ l = .broken := by
  cases l <;> simp [isOver]

namespace Scheduler

/-- A scheduler that was never started. -/
def idle (period : Nat) : Scheduler := { period }

/-- What each move does, and when it can be made. -/
inductive Makes (s : Scheduler) : Move → Scheduler → Prop
  | claim (h : s.starting = .never) : Makes s .start { s with starting := .claimed }
  | refuse (h : s.starting ≠ .never) : Makes s .start s
  | announce (h : s.starting = .claimed) : Makes s .announce
      { s with starting := .announced, status := { s.status with running := true } }
  | spawn (h : s.starting = .announced) :
      Makes s .spawn { s with starting := .spawned, loop := .preparing }
  | keep (h : s.starting = .spawned) (free : .joining ∉ s.stops) :
      Makes s .keep { s with starting := .returned, handle := true }
  | signal : Makes s .stop { s with signal := true, stops := s.stops ++ [.signalled] }
  /-- A call of `stop` takes the handle. -/
  | take {call : Nat} (h : s.stops[call]? = some .signalled) (free : .joining ∉ s.stops)
      (kept : s.handle = true) :
      Makes s (.seek call) { s with handle := false, stops := s.stops.set call .joining }
  /-- A call of `stop` finds no handle. -/
  | miss {call : Nat} (h : s.stops[call]? = some .signalled) (free : .joining ∉ s.stops)
      (gone : s.handle = false) : Makes s (.seek call) { s with stops := s.stops.set call .joined }
  | join {call : Nat} (h : s.stops[call]? = some .joining) (ended : s.loop.isOver = true) :
      Makes s (.join call) { s with stops := s.stops.set call .joined }
  | clear {call : Nat} (h : s.stops[call]? = some .joined) : Makes s (.clear call)
      { s with status := { s.status with running := false }, stops := s.stops.set call .returned }
  | prepare {ok : Bool} (h : s.loop = .preparing) (timed : s.period ≠ 0) :
      Makes s (.prepare ok) { s with loop := .waiting }
  /-- The timer panics for an interval of zero. -/
  | fail {ok : Bool} (h : s.loop = .preparing) (untimed : s.period = 0) :
      Makes s (.prepare ok) { s with loop := .broken }
  | tick {now : Nat} (h : s.loop = .waiting) : Makes s (.tick now)
      { s with status := s.status.begin now, inFlight := s.inFlight ++ [s.status.begun + 1] }
  | heed (h : s.loop = .waiting) (given : s.signal = true) :
      Makes s .heed { s with loop := .closing, signal := false }
  | close (h : s.loop = .closing) : Makes s .close { s with loop := .ended }
  | finish {tick : Nat} {how : TickEnd} (h : tick ∈ s.inFlight) : Makes s (.finish tick how)
      { s with status := s.status.count how, inFlight := s.inFlight.erase tick }

variable {s s' : Scheduler} {m : Move} {moves rest : List Move}

theorem not_isSeized_iff : (!s.isSeized) = true ↔ .joining ∉ s.stops := by
  simp [isSeized]

theorem makes_of_step? (h : s.step? m = some s') : s.Makes m s' := by
  cases m with
  | start =>
    obtain rfl := Option.some.inj h
    by_cases hs : s.starting = .never
    · simpa [Scheduler.claim, isStarted, hs, Except.toOption] using Makes.claim hs
    · simpa [Scheduler.claim, isStarted, hs, Except.toOption] using Makes.refuse hs
  | stop =>
    obtain rfl := Option.some.inj h
    exact .signal
  | seek call =>
    obtain ⟨⟨hc, free⟩, h⟩ := Option.ite_none_right_eq_some.mp h
    obtain rfl := Option.some.inj h
    have free := not_isSeized_iff.mp free
    by_cases kept : s.handle = true
    · simpa [kept] using Makes.take hc free kept
    · have gone := Bool.eq_false_iff.mpr kept
      simpa [gone] using Makes.miss hc free gone
  | prepare ok =>
    obtain ⟨hl, h⟩ := Option.ite_none_right_eq_some.mp h
    obtain rfl := Option.some.inj h
    by_cases untimed : s.period = 0
    · simpa [untimed] using Makes.fail hl untimed
    · simpa [untimed] using Makes.prepare hl untimed
  | keep =>
    obtain ⟨⟨hs, free⟩, h⟩ := Option.ite_none_right_eq_some.mp h
    obtain rfl := Option.some.inj h
    exact .keep hs (not_isSeized_iff.mp free)
  | join call =>
    obtain ⟨⟨hc, ended⟩, h⟩ := Option.ite_none_right_eq_some.mp h
    obtain rfl := Option.some.inj h
    exact .join hc ended
  | heed =>
    obtain ⟨⟨hl, given⟩, h⟩ := Option.ite_none_right_eq_some.mp h
    obtain rfl := Option.some.inj h
    exact .heed hl given
  | announce =>
    obtain ⟨hs, h⟩ := Option.ite_none_right_eq_some.mp h
    obtain rfl := Option.some.inj h
    exact .announce hs
  | spawn =>
    obtain ⟨hs, h⟩ := Option.ite_none_right_eq_some.mp h
    obtain rfl := Option.some.inj h
    exact .spawn hs
  | clear call =>
    obtain ⟨hc, h⟩ := Option.ite_none_right_eq_some.mp h
    obtain rfl := Option.some.inj h
    exact .clear hc
  | tick now =>
    obtain ⟨hl, h⟩ := Option.ite_none_right_eq_some.mp h
    obtain rfl := Option.some.inj h
    exact .tick hl
  | close =>
    obtain ⟨hl, h⟩ := Option.ite_none_right_eq_some.mp h
    obtain rfl := Option.some.inj h
    exact .close hl
  | finish tick how =>
    obtain ⟨ht, h⟩ := Option.ite_none_right_eq_some.mp h
    obtain rfl := Option.some.inj h
    exact .finish ht

theorem step?_of_makes (h : s.Makes m s') : s.step? m = some s' := by
  cases h with
  | claim h => simp [step?, Scheduler.claim, isStarted, h, Except.toOption]
  | refuse h => simp [step?, Scheduler.claim, isStarted, h, Except.toOption]
  | signal => rfl
  | keep h free => exact if_pos ⟨h, not_isSeized_iff.mpr free⟩
  | take h free kept => simp [step?, h, isSeized, free, kept]
  | miss h free gone => simp [step?, h, isSeized, free, gone]
  | join h ended => exact if_pos ⟨h, ended⟩
  | prepare h timed => simp [step?, h, timed]
  | fail h untimed => simp [step?, h, untimed]
  | heed h given => exact if_pos ⟨h, given⟩
  | announce h | spawn h | clear h | tick h | close h | finish h => exact if_pos h

/-- The moves that can be made, and what they do. -/
theorem makes_iff : s.step? m = some s' ↔ s.Makes m s' := ⟨makes_of_step?, step?_of_makes⟩

/-! ## Runs -/

@[simp]
theorem run?_nil : s.run? [] = some s := rfl

theorem run?_append :
    s.run? (moves ++ rest) = some s' ↔ ∃ t, s.run? moves = some t ∧ t.run? rest = some s' := by
  rw [run?, List.foldlM_append]
  exact Option.bind_eq_some_iff

theorem run?_cons :
    s.run? (m :: rest) = some s' ↔ ∃ t, s.Makes m t ∧ t.run? rest = some s' := by
  simp only [← makes_iff]
  exact Option.bind_eq_some_iff

theorem run?_snoc :
    s.run? (moves ++ [m]) = some s' ↔ ∃ t, s.run? moves = some t ∧ t.Makes m s' := by
  simp only [run?_append, run?_cons, run?_nil, Option.some.injEq, exists_eq_right]

/-- What holds of an idle scheduler and is kept by every move holds after every run. -/
theorem run?_induction {period : Nat} {P : List Move → Scheduler → Prop} (init : P [] (idle period))
    (step : ∀ {moves s m s'}, (idle period).run? moves = some s → P moves s → s.Makes m s' →
      P (moves ++ [m]) s')
    (run : (idle period).run? moves = some s) : P moves s := by
  induction moves using List.reverseRecOn generalizing s with
  | nil =>
    obtain rfl := Option.some.inj run
    exact init
  | append_singleton moves m ih =>
    obtain ⟨t, before, made⟩ := run?_snoc.mp run
    exact step before (ih before) made

end Scheduler

end Sheltering
