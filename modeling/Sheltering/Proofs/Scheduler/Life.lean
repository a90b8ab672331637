import Sheltering.Proofs.Scheduler.Progress

/-!
# The life of a scheduler

* `Scheduler.LoopRecord`, `Scheduler.CallRecord`, `Scheduler.TickRecord`: what the moves of a run
  tell of the loop, of the calls and of the ticks.
* `Scheduler.Sound.over_makes`: a loop that is over stays over, and starts no tick.
* `Scheduler.Orderly`, `Scheduler.orderly`: every run of a scheduler is orderly: it is started once,
  runs its hooks around its ticks, counts every tick once, and starts none after a call of `stop`
  has returned.
* `Scheduler.Untimed.hook_left_out`: with an interval of zero the hook after the last tick is not
  run.
-/

namespace Sheltering

namespace Scheduler

variable {s s' t : Scheduler} {m : Move} {moves earlier middle later : List Move}
  {period call : Nat}

/-! ## What the moves of a run tell -/

/-- What the moves of a run tell of the loop. -/
structure LoopRecord (period : Nat) (moves : List Move) (s : Scheduler) : Prop where
  same : s.period = period
  spawned : moves.count .spawn = if s.loop = .absent then 0 else 1
  prepared : moves.countP Move.isPrepare = if s.loop = .absent ∨ s.loop = .preparing then 0 else 1
  closed : moves.count .close = if s.loop = .ended then 1 else 0
  timed : s.loop = .waiting ∨ s.loop = .closing ∨ s.loop = .ended → period ≠ 0
  untimed : s.loop = .broken → period = 0

/-- What the moves of a run tell of the calls. -/
structure CallRecord (moves : List Move) (s : Scheduler) : Prop where
  started : .start ∈ moves ↔ s.starting ≠ .never
  returned : .keep ∈ moves ↔ s.starting = .returned
  stopped : moves.count .stop = s.stops.length
  /-- There is no signal without a call of `stop`. -/
  heeded : s.signal = true ∨ s.loop = .closing ∨ s.loop = .ended → .stop ∈ moves

/-- What the moves of a run tell of the ticks. -/
structure TickRecord (moves : List Move) (s : Scheduler) : Prop where
  begun : moves.countP Move.isTick = s.status.begun
  once : ((moves.filterMap Move.finished?).map Prod.fst ++ s.inFlight).Perm
    (List.range' 1 s.status.begun)
  succeeded : s.status.succeeded = (moves.filterMap Move.finished?).countP (·.2 = .succeeded)
  failed : s.status.failed = (moves.filterMap Move.finished?).countP (·.2 ≠ .succeeded)

theorem loopRecord (run : (idle period).run? moves = some s) : LoopRecord period moves s := by
  refine run?_induction (P := LoopRecord period) ?_ ?_ run
  · constructor <;> simp [idle]
  intro moves s m s' run h made
  have sound := Sound.idle.run run
  obtain ⟨same, spawned, prepared, closed, timed, untimed⟩ := h
  cases made with
  | spawn hs =>
    have hl := sound.absent.mpr (.inr (.inr hs))
    constructor <;> simp_all [List.countP_append, Move.isPrepare]
  | _ => constructor <;> simp_all [List.countP_append, Move.isPrepare]

theorem callRecord (run : (idle period).run? moves = some s) : CallRecord moves s := by
  refine run?_induction (P := CallRecord) ?_ ?_ run
  · constructor <;> simp [idle]
  intro moves s m s' _ h made
  obtain ⟨started, returned, stopped, heeded⟩ := h
  cases made <;> constructor <;> simp_all

theorem tickRecord (run : (idle period).run? moves = some s) : TickRecord moves s := by
  refine run?_induction (P := TickRecord) ?_ ?_ run
  · constructor <;> simp [idle]
  intro moves s m s' _ h made
  obtain ⟨begun, once, succeeded, failed⟩ := h
  cases made with
  | tick hl =>
    refine ⟨?_, ?_, ?_, ?_⟩
    · simp [begun, Move.isTick, SchedulerStatus.begin]
    · simpa [Move.finished?, SchedulerStatus.begin, List.range'_1_concat, Nat.add_comm 1,
        List.filterMap_cons, ← List.append_assoc] using once.append_right _
    · simpa [Move.finished?, List.filterMap_cons, SchedulerStatus.begin] using succeeded
    · simpa [Move.finished?, List.filterMap_cons, SchedulerStatus.begin] using failed
  | @finish tick how ht =>
    refine ⟨?_, ?_, ?_, ?_⟩
    · cases how <;> simp [begun, Move.isTick, SchedulerStatus.count]
    · have moved : (tick :: s.inFlight.erase tick).Perm s.inFlight :=
        (List.perm_cons_erase ht).symm
      have := (moved.append_left ((moves.filterMap Move.finished?).map Prod.fst)).trans once
      cases how <;> simpa [Move.finished?, List.filterMap_cons, SchedulerStatus.count] using this
    · cases how <;> simp [Move.finished?, SchedulerStatus.count, succeeded]
    · cases how <;> simp [Move.finished?, SchedulerStatus.count, failed]
  | _ => constructor <;> simp_all [List.filterMap_cons, Move.isTick, Move.finished?]

theorem TickRecord.balance (h : TickRecord moves s) :
    s.status.begun = s.status.succeeded + s.status.failed + s.inFlight.length := by
  have total := h.once.length_eq
  rw [List.length_append, List.length_map, List.length_range'] at total
  have split := List.length_eq_countP_add_countP
    (fun e : Nat × TickEnd => decide (e.2 = .succeeded))
    (l := moves.filterMap Move.finished?)
  have failed := h.failed
  simp only [decide_not, decide_eq_true_eq] at failed split
  have succeeded := h.succeeded
  omega

/-! ## The end of the loop -/

/-- A loop that is over stays over, and starts no tick. -/
theorem Sound.over_makes (h : s.Sound) (loopOver : s.loop.isOver = true) (made : s.Makes m s') :
    s'.loop = s.loop ∧ s'.status.begun = s.status.begun := by
  have present := h.absent
  cases made with
  | finish => rename_i how _; cases how <;> exact ⟨rfl, rfl⟩
  | spawn | prepare | fail | tick | heed | close => simp_all
  | _ => exact ⟨rfl, rfl⟩

theorem Sound.over_run (h : s.Sound) (loopOver : s.loop.isOver = true)
    (run : s.run? moves = some s') : s'.loop = s.loop ∧ s'.status.begun = s.status.begun := by
  refine (h.keeps (P := fun u => u.loop = s.loop ∧ u.status.begun = s.status.begun) ?_ ⟨rfl, rfl⟩
    run).2
  rintro u m v sound ⟨hl, hb⟩ made
  obtain ⟨hl', hb'⟩ := sound.over_makes (hl ▸ loopOver) made
  exact ⟨hl'.trans hl, hb'.trans hb⟩

/-- A call of `stop` that began after the call of `start` returned. When it waits no more, the loop
is over. -/
structure Awaits (call : Nat) (s : Scheduler) : Prop where
  returned : s.starting = .returned
  begun : call < s.stops.length
  loopOver : s.stops[call]? = some .joined ∨ s.stops[call]? = some .returned → s.loop.isOver = true

theorem Awaits.makes (h : Awaits call s) (sound : s.Sound) (made : s.Makes m s') :
    Awaits call s' := by
  obtain ⟨returned, begun, loopOver⟩ := h
  cases made with
  | claim | announce | spawn | keep => simp_all
  | refuse | tick | finish => exact ⟨returned, begun, loopOver⟩
  | signal =>
    refine ⟨returned, ?_, ?_⟩
    · simpa using Nat.lt_succ_of_lt begun
    · simpa only [List.getElem?_append_left begun] using loopOver
  | @take other hc =>
    refine ⟨returned, by simpa using begun, fun h => ?_⟩
    by_cases same : other = call
    · subst same
      simp [begun] at h
    · exact loopOver (by simpa [same] using h)
  | miss hc free gone =>
    exact ⟨returned, by simpa using begun, fun _ => sound.loopOver returned gone free⟩
  | join hc ended => exact ⟨returned, by simpa using begun, fun _ => ended⟩
  | @clear other hc =>
    refine ⟨returned, by simpa using begun, fun h => ?_⟩
    by_cases same : other = call
    · exact loopOver (.inl (same ▸ hc))
    · exact loopOver (by simpa [same] using h)
  | prepare hl | fail hl | heed hl | close hl => exact ⟨returned, begun, fun h => by simp_all⟩

theorem Awaits.run (h : Awaits call s) (sound : s.Sound) (run : s.run? moves = some s') :
    Awaits call s' :=
  (sound.keeps (fun sound h made => h.makes sound made) h run).2

/-! ## Every run -/

/-- What holds after every run of a scheduler that was never started before. -/
structure Orderly (period : Nat) (moves : List Move) (s : Scheduler) : Prop where
  /-- The first call of `start` is accepted, and no other. -/
  claim : s.claim =
    if .start ∈ moves then .error .alreadyStarted else .ok { s with starting := .claimed }
  /-- The calls that have begun return: in whatever order they and the loop go on, there are only so
  many moves to make, and one of them can be made until all have returned. -/
  settles : ∃ bound, ∀ rest t, (∀ m ∈ rest, m.isInner = true) → s.run? rest = some t →
    rest.length ≤ bound ∧
      (t.isQuiet = false → ∃ m, m.isInner = true ∧ (t.step? m).isSome = true)
  spawns : moves.count .spawn ≤ 1
  prepares : moves.countP Move.isPrepare ≤ 1
  /-- The hook before the first tick has run once before every tick. -/
  prepared : ∀ earlier now later, moves = earlier ++ .tick now :: later →
    earlier.countP Move.isPrepare = 1
  closes : moves.count .close ≤ 1
  /-- No tick is started after the hook after the last tick. -/
  closed : ∀ earlier later, moves = earlier ++ .close :: later → later.countP Move.isTick = 0
  /-- A loop that is over has run the hook after the last tick, unless its timer panicked. -/
  loopOver : s.loop.isOver = true → moves.count .close = if period = 0 then 0 else 1
  /-- The timer panics before the first tick. -/
  untimed : period = 0 → moves.countP Move.isTick = 0
  balance : s.status.begun = s.status.succeeded + s.status.failed + s.inFlight.length
  /-- The ticks that have ended and those in flight are the ticks started, each once. -/
  once : ((moves.filterMap Move.finished?).map Prod.fst ++ s.inFlight).Perm
    (List.range' 1 s.status.begun)
  succeeded : s.status.succeeded = (moves.filterMap Move.finished?).countP (·.2 = .succeeded)
  failed : s.status.failed = (moves.filterMap Move.finished?).countP (·.2 ≠ .succeeded)
  /-- Until a call of `stop`, another tick can be started, however the earlier ones have ended. -/
  goesOn : period ≠ 0 → moves.countP Move.isPrepare = 1 → .stop ∉ moves →
    ∀ now, (s.step? (.tick now)).isSome = true
  /-- The end of a tick leaves the loop and its signal as they are. -/
  untouched : ∀ tick how t, s.step? (.finish tick how) = some t →
    t.loop = s.loop ∧ t.signal = s.signal
  /-- When a call of `stop` that began after `start` had returned has returned, the loop is over,
  and no tick is started any more. -/
  stopped : ∀ earlier middle later t,
    moves = earlier ++ .stop :: (middle ++ .clear (earlier.count .stop) :: later) →
    .keep ∈ earlier →
    (idle period).run? (earlier ++ .stop :: (middle ++ [.clear (earlier.count .stop)])) = some t →
    t.loop.isOver = true ∧ s.status.begun = t.status.begun

/-- A run is a run up to a move, the move, and a run after it. -/
theorem run?_split (run : (idle period).run? (earlier ++ m :: later) = some s) :
    ∃ t u, (idle period).run? earlier = some t ∧ t.Makes m u ∧ u.run? later = some s := by
  obtain ⟨t, before, run⟩ := run?_append.mp run
  obtain ⟨u, made, after⟩ := run?_cons.mp run
  exact ⟨t, u, before, made, after⟩

/-- No tick is started once the loop is over. -/
theorem ticks_of_over (before : (idle period).run? earlier = some t)
    (loopOver : t.loop.isOver = true) (after : t.run? later = some s) :
    later.countP Move.isTick = 0 := by
  have same := ((Sound.idle.run before).over_run loopOver after).2
  have early := (tickRecord before).begun
  have total := (tickRecord (run?_append.mpr ⟨t, before, after⟩)).begun
  rw [List.countP_append] at total
  omega

theorem prepared_of_tick {now : Nat}
    (run : (idle period).run? (earlier ++ .tick now :: later) = some s) :
    earlier.countP Move.isPrepare = 1 ∧ period ≠ 0 := by
  obtain ⟨t, u, before, made, -⟩ := run?_split run
  cases made with
  | tick hl =>
    have record := loopRecord before
    exact ⟨by simpa [hl] using record.prepared, record.timed (.inl hl)⟩

theorem ticks_of_close (run : (idle period).run? (earlier ++ .close :: later) = some s) :
    later.countP Move.isTick = 0 := by
  obtain ⟨t, u, before, made, after⟩ := run?_split run
  have reached := run?_snoc.mpr ⟨t, before, made⟩
  cases made with
  | close hl => exact ticks_of_over reached rfl after

/-- A call of `stop` that began after `start` had returned waits for the end of the loop. -/
theorem over_of_clear
    (run : (idle period).run? (earlier ++ .stop :: (middle ++ [.clear (earlier.count .stop)])) =
      some s) (started : .keep ∈ earlier) : s.loop.isOver = true := by
  obtain ⟨t, u, before, made, run⟩ := run?_split run
  obtain ⟨v, between, cleared⟩ := run?_snoc.mp run
  have sound := (Sound.idle.run before).makes made
  have record := callRecord before
  rw [record.stopped] at cleared
  have awaits : Awaits t.stops.length u := by
    cases made with
    | signal =>
      refine ⟨record.returned.mp started, ?_, ?_⟩
      · simp
      · simp
  have ended := (awaits.run sound between).loopOver
  cases cleared with
  | clear hc => exact ended (.inl hc)

theorem orderly (run : (idle period).run? moves = some s) : Orderly period moves s where
  claim := by
    have started := (callRecord run).started
    by_cases hs : s.starting = .never <;> simp_all [Scheduler.claim, isStarted]
  settles := by
    have sound := Sound.idle.run run
    refine ⟨s.work, fun rest t inner after => ⟨?_, fun busy => ?_⟩⟩
    · exact Nat.le_of_add_right_le (sound.length_le inner after)
    · obtain ⟨m, u, hm, made⟩ := (sound.run after).exists_inner busy
      exact ⟨m, hm, Option.isSome_of_mem (step?_of_makes made)⟩
  spawns := by
    rw [(loopRecord run).spawned]
    split <;> decide
  prepares := by
    rw [(loopRecord run).prepared]
    split <;> decide
  prepared earlier now later h := (prepared_of_tick (h ▸ run)).1
  closes := by
    rw [(loopRecord run).closed]
    split <;> decide
  closed earlier later h := ticks_of_close (h ▸ run)
  loopOver ended := by
    have record := loopRecord run
    obtain hl | hl := LoopStage.isOver_iff.mp ended
    · rw [record.closed, if_pos hl, if_neg (record.timed (.inr (.inr hl)))]
    · rw [record.closed, if_neg (by simp [hl]), if_pos (record.untimed hl)]
  untimed hp := by
    refine List.countP_eq_zero.mpr fun m hm ht => ?_
    obtain ⟨earlier, later, rfl⟩ := List.append_of_mem hm
    cases m with
    | tick now => exact (prepared_of_tick run).2 hp
    | _ => cases ht
  balance := (tickRecord run).balance
  once := (tickRecord run).once
  succeeded := (tickRecord run).succeeded
  failed := (tickRecord run).failed
  goesOn timed hooked unstopped now := by
    have record := loopRecord run
    have heeded := mt (callRecord run).heeded unstopped
    have waiting : s.loop = .waiting := by
      cases hl : s.loop with
      | waiting => rfl
      | absent | preparing => simp [record.prepared, hl] at hooked
      | closing | ended => simp [hl] at heeded
      | broken => exact absurd (record.untimed hl) timed
    exact Option.isSome_of_mem (step?_of_makes (.tick waiting))
  untouched tick how t h := by
    cases makes_of_step? h
    exact ⟨rfl, rfl⟩
  stopped earlier middle later t h started returned := by
    have loopOver := over_of_clear returned started
    have cut :
        moves = (earlier ++ .stop :: (middle ++ [.clear (earlier.count .stop)])) ++ later := by
      simp [h]
    obtain ⟨u, before, after⟩ := run?_append.mp (cut ▸ run)
    obtain rfl := Option.some.inj (returned.symm.trans before)
    exact ⟨loopOver, ((Sound.idle.run before).over_run loopOver after).2⟩

namespace Overlapping

/-- Two calls of `start`, three ticks that overlap, and a call of `stop`; the last tick ends after
it. -/
def course : List Move :=
  [.start, .start, .announce, .spawn, .keep, .prepare false, .tick 0, .tick 10, .finish 2 .panicked,
    .tick 20, .stop, .finish 1 .succeeded, .seek 0, .heed, .close, .join 0, .clear 0, .start,
    .finish 3 .failed]

def last : Scheduler :=
  { period := 10, starting := .returned, stops := [.returned], loop := .ended
    status := { begun := 3, succeeded := 1, failed := 2, lastTick := some 20 } }

theorem is_orderly : (idle 10).run? course = some last ∧ Orderly 10 course last :=
  ⟨by decide, orderly (by decide)⟩

end Overlapping

namespace Untimed

/-- A call of `start` and then one of `stop`. -/
def course : List Move :=
  [.start, .announce, .spawn, .keep, .prepare true, .stop, .seek 0, .join 0, .clear 0]

def last : Scheduler :=
  { period := 0, starting := .returned, stops := [.returned], signal := true, loop := .broken }

/-- With an interval of zero the loop is over and all calls have returned, the hook before the first
tick has run, and the hook after the last tick never will. -/
theorem hook_left_out : (idle 0).run? course = some last ∧ last.loop.isOver = true ∧
    last.isQuiet = true ∧ course.countP Move.isPrepare = 1 ∧
    ∀ rest s, last.run? rest = some s → (course ++ rest).count .close = 0 := by
  have run : (idle 0).run? course = some last := by decide
  refine ⟨run, by decide, by decide, by decide, fun rest s after => ?_⟩
  have record := loopRecord (run?_append.mpr ⟨last, run, after⟩)
  rw [record.closed, if_neg fun hl => record.timed (.inr (.inr hl)) rfl]

end Untimed

end Scheduler

end Sheltering
