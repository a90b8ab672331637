import Sheltering.Proofs.Scheduler.Life

/-!
# What a scheduler tells of itself

The calls of `start` and `stop` come one after the other, in any order and number. The loop and the
ticks go on beside them, and the loop takes the timer or the signal as it likes.

* `Scheduler.runInTurn?`: a run in which every call begins when no other is in progress.
* `Scheduler.beforeStart`, `Scheduler.sinceStart`: the moves before the first call of `start`, and
  the moves from it on.
* `Scheduler.TurnRecord`: what the moves of such a run tell of the calls.
* `Scheduler.Tells`, `Scheduler.status_tells`: the status tells of the calls, and agrees with the
  loop unless that has ended by itself. It can do so if and only if the signal of an earlier call of
  `stop` is stored when it begins, or the interval is zero.
* `Scheduler.Stale.ends_unstopped`: a loop that takes the signal of an earlier call.
-/

namespace Sheltering

/-- A call begins. -/
def Move.isCall : Move → Bool
  | .start | .stop => true
  | _ => false

namespace Scheduler

variable {s s' t : Scheduler} {m : Move} {moves rest : List Move} {period : Nat}

/-- The state after a move, if it can be made and is no call beside another. -/
def stepInTurn? (s : Scheduler) (m : Move) : Option Scheduler :=
  if m.isCall = true ∧ s.isQuiet = false then none else s.step? m

/-- The state after some moves, if each can be made and the calls come one after the other. -/
def runInTurn? (s : Scheduler) (moves : List Move) : Option Scheduler := moves.foldlM stepInTurn? s

theorem stepInTurn?_iff :
    s.stepInTurn? m = some s' ↔ (m.isCall = true → s.isQuiet = true) ∧ s.Makes m s' := by
  rw [stepInTurn?, ← makes_iff]
  split <;> simp_all

theorem runInTurn?_append : s.runInTurn? (moves ++ rest) = some s' ↔
    ∃ t, s.runInTurn? moves = some t ∧ t.runInTurn? rest = some s' := by
  rw [runInTurn?, List.foldlM_append]
  exact Option.bind_eq_some_iff

theorem runInTurn?_cons : s.runInTurn? (m :: rest) = some s' ↔
    ∃ t, ((m.isCall = true → s.isQuiet = true) ∧ s.Makes m t) ∧ t.runInTurn? rest = some s' := by
  simp only [← stepInTurn?_iff]
  exact Option.bind_eq_some_iff

theorem runInTurn?_snoc : s.runInTurn? (moves ++ [m]) = some s' ↔
    ∃ t, s.runInTurn? moves = some t ∧ (m.isCall = true → t.isQuiet = true) ∧ t.Makes m s' := by
  rw [runInTurn?_append]
  simp only [← stepInTurn?_iff]
  refine exists_congr fun t => and_congr_right fun _ => ?_
  simp [runInTurn?]

theorem run?_of_runInTurn? (run : s.runInTurn? moves = some s') : s.run? moves = some s' := by
  induction moves generalizing s with
  | nil => exact run
  | cons m moves ih =>
    obtain ⟨t, ⟨-, made⟩, run⟩ := runInTurn?_cons.mp run
    exact run?_cons.mpr ⟨t, made, ih run⟩

/-- Where no call begins, no call begins beside another. -/
theorem runInTurn?_of_run? (uncalled : ∀ m ∈ moves, m.isCall = false)
    (run : s.run? moves = some s') : s.runInTurn? moves = some s' := by
  induction moves generalizing s with
  | nil => exact run
  | cons m moves ih =>
    obtain ⟨hm, uncalled⟩ := List.forall_mem_cons.mp uncalled
    obtain ⟨t, made, run⟩ := run?_cons.mp run
    exact runInTurn?_cons.mpr ⟨t, ⟨by simp [hm], made⟩, ih uncalled run⟩

/-! ## Before the start and since -/

/-- The moves before the first call of `start`. -/
def beforeStart (moves : List Move) : List Move := moves.takeWhile (· ≠ .start)

/-- The moves from the first call of `start` on. -/
def sinceStart (moves : List Move) : List Move := moves.dropWhile (· ≠ .start)

theorem mem_beforeStart_or_sinceStart :
    m ∈ moves ↔ m ∈ beforeStart moves ∨ m ∈ sinceStart moves := by
  rw [← List.mem_append, beforeStart, sinceStart, List.takeWhile_append_dropWhile]

theorem sinceStart_eq_nil : sinceStart moves = [] ↔ .start ∉ moves := by
  rw [← List.isEmpty_iff]
  induction moves with
  | nil => simp [sinceStart]
  | cons m moves ih =>
    by_cases h : m = .start
    · simp [sinceStart, h]
    · simpa [sinceStart, h, Ne.symm h] using ih

theorem beforeStart_append (h : .start ∈ moves) :
    beforeStart (moves ++ rest) = beforeStart moves := by
  induction moves with
  | nil => cases h
  | cons m moves ih =>
    by_cases hm : m = .start
    · simp [beforeStart, hm]
    · have := ih ((List.mem_cons.mp h).resolve_left (Ne.symm hm))
      simpa [beforeStart, hm] using this

theorem sinceStart_append (h : .start ∈ moves) :
    sinceStart (moves ++ rest) = sinceStart moves ++ rest := by
  have present : sinceStart moves ≠ [] := mt sinceStart_eq_nil.mp (not_not_intro h)
  rw [sinceStart, List.dropWhile_append, ← sinceStart, if_neg (by simpa using present)]

@[simp]
theorem stop_mem_sinceStart_snoc : .stop ∈ sinceStart (moves ++ [m]) ↔
    .stop ∈ sinceStart moves ∨ (.start ∈ moves ∧ m = .stop) := by
  by_cases h : .start ∈ moves
  · simp [sinceStart_append h, h, eq_comm]
  · have none := sinceStart_eq_nil.mpr h
    rw [sinceStart] at none
    rw [sinceStart, sinceStart, List.dropWhile_append, none]
    by_cases hm : m = .start <;> simp [h, hm]

/-! ## The three phases -/

theorem isQuiet_iff : s.isQuiet = true ↔
    (s.starting = .never ∨ s.starting = .returned) ∧ ∀ x ∈ s.stops, x = .returned := by
  simp [isQuiet]

/-- Before the first call of `start`. -/
structure Unstarted (s : Scheduler) : Prop where
  never : s.starting = .never
  running : s.status.running = false

/-- Since the first call of `start`, while there was no call of `stop`. -/
structure Unstopped (s : Scheduler) : Prop where
  claimed : s.starting ≠ .never
  /-- The calls of `stop` before it have returned. -/
  settled : ∀ x ∈ s.stops, x = .returned
  running : s.status.running = true ↔ s.starting ≠ .claimed

/-- After a call of `stop` that began since the first call of `start`. -/
structure Stopped (s : Scheduler) : Prop where
  returned : s.starting = .returned
  cleared : s.status.running = false ∨ ∃ x ∈ s.stops, x ≠ .returned
  joined : s.loop.isOver = true ∨ .signalled ∈ s.stops ∨ .joining ∈ s.stops

theorem Unstarted.makes (h : s.Unstarted) (made : s.Makes m s') (hm : m ≠ .start) :
    s'.Unstarted := by
  obtain ⟨never, running⟩ := h
  cases made with
  | claim | refuse => exact absurd rfl hm
  | announce hs | spawn hs | keep hs => simp [never] at hs
  | clear => exact ⟨never, rfl⟩
  | finish => rename_i how _; cases how <;> exact ⟨never, running⟩
  | _ => exact ⟨never, running⟩

theorem Unstarted.start (h : s.Unstarted) (made : s.Makes .start s') (quiet : s.isQuiet = true) :
    s'.Unstopped := by
  obtain ⟨never, running⟩ := h
  cases made with
  | claim => exact ⟨nofun, (isQuiet_iff.mp quiet).2, by simp [running]⟩
  | refuse hs => exact absurd never hs

theorem Unstopped.makes (h : s.Unstopped) (made : s.Makes m s') (hm : m ≠ .stop) :
    s'.Unstopped := by
  obtain ⟨claimed, settled, running⟩ := h
  cases made with
  | claim hs => exact absurd hs claimed
  | signal => exact absurd rfl hm
  | announce => exact ⟨nofun, settled, by simp⟩
  | spawn hs | keep hs => exact ⟨nofun, settled, by simp [running, hs]⟩
  | take hc | miss hc | join hc | clear hc => cases settled _ (List.mem_of_getElem? hc)
  | finish => rename_i how _; cases how <;> exact ⟨claimed, settled, running⟩
  | _ => exact ⟨claimed, settled, running⟩

theorem Unstopped.stop (h : s.Unstopped) (made : s.Makes .stop s') (quiet : s.isQuiet = true) :
    s'.Stopped := by
  have returned := (isQuiet_iff.mp quiet).1.resolve_left h.claimed
  cases made with
  | signal => exact ⟨returned, .inr ⟨.signalled, by simp, nofun⟩, .inr (.inl (by simp))⟩

theorem Stopped.makes (h : s.Stopped) (sound : s.Sound) (made : s.Makes m s') : s'.Stopped := by
  obtain ⟨returned, cleared, joined⟩ := h
  cases made with
  | claim hs | announce hs | spawn hs | keep hs => simp [returned] at hs
  | signal => exact ⟨returned, .inr ⟨.signalled, by simp, nofun⟩, .inr (.inl (by simp))⟩
  | take hc =>
    have mem := List.mem_set (List.getElem?_eq_some_iff.mp hc).1 Stopping.joining
    exact ⟨returned, .inr ⟨_, mem, nofun⟩, .inr (.inr mem)⟩
  | miss hc free gone =>
    have mem := List.mem_set (List.getElem?_eq_some_iff.mp hc).1 Stopping.joined
    exact ⟨returned, .inr ⟨_, mem, nofun⟩, .inl (sound.loopOver returned gone free)⟩
  | join hc ended =>
    have mem := List.mem_set (List.getElem?_eq_some_iff.mp hc).1 Stopping.joined
    exact ⟨returned, .inr ⟨_, mem, nofun⟩, .inl ended⟩
  | clear hc =>
    have signalled := mem_set_of_ne (x := .signalled) (b := .returned) hc nofun nofun
    have joining := mem_set_of_ne (x := .joining) (b := .returned) hc nofun nofun
    exact ⟨returned, .inl rfl, joined.imp_right (Or.imp signalled.mpr joining.mpr)⟩
  | prepare hl | fail hl | heed hl | close hl => exact ⟨returned, cleared, by simp_all⟩
  | finish => rename_i how _; cases how <;> exact ⟨returned, cleared, joined⟩
  | _ => exact ⟨returned, cleared, joined⟩

/-- What holds of an idle scheduler and is kept by every move holds after every run in turn. -/
theorem runInTurn?_induction {P : List Move → Scheduler → Prop} (init : P [] (idle period))
    (step : ∀ {moves s m s'}, (idle period).runInTurn? moves = some s → P moves s →
      (m.isCall = true → s.isQuiet = true) → s.Makes m s' → P (moves ++ [m]) s')
    (run : (idle period).runInTurn? moves = some s) : P moves s := by
  induction moves using List.reverseRecOn generalizing s with
  | nil =>
    obtain rfl := Option.some.inj run
    exact init
  | append_singleton moves m ih =>
    obtain ⟨t, before, quiet, made⟩ := runInTurn?_snoc.mp run
    exact step before (ih before) quiet made

/-- The phase that a run has reached, as its moves tell. -/
structure Phase (moves : List Move) (s : Scheduler) : Prop where
  unstarted : .start ∉ moves → s.Unstarted
  unstopped : .start ∈ moves → .stop ∉ sinceStart moves → s.Unstopped
  stopped : .stop ∈ sinceStart moves → s.Stopped

theorem phase (run : (idle period).runInTurn? moves = some s) : Phase moves s := by
  refine runInTurn?_induction (P := Phase) ?_ ?_ run
  · exact ⟨fun _ => ⟨rfl, rfl⟩, nofun, nofun⟩
  intro moves s m s' run h quiet made
  have sound := Sound.idle.run (run?_of_runInTurn? run)
  obtain ⟨unstarted, unstopped, stopped⟩ := h
  constructor
  · intro hn
    obtain ⟨hn, hm⟩ := not_or.mp (mt List.mem_append.mpr hn)
    exact (unstarted hn).makes made fun he => hm (by simp [he])
  · intro hs hn
    obtain ⟨hn, hm⟩ := not_or.mp (mt stop_mem_sinceStart_snoc.mpr hn)
    by_cases hstart : .start ∈ moves
    · exact (unstopped hstart hn).makes made fun he => hm ⟨hstart, he⟩
    · obtain rfl : Move.start = m := by simpa [hstart] using hs
      exact (unstarted hstart).start made (quiet rfl)
  · intro hs
    by_cases hstop : .stop ∈ sinceStart moves
    · exact (stopped hstop).makes sound made
    · obtain ⟨hstart, rfl⟩ := (stop_mem_sinceStart_snoc.mp hs).resolve_left hstop
      exact (unstopped hstart hstop).stop made (quiet rfl)

/-! ## The end of the loop -/

theorem Makes.present (made : s.Makes m s') (stopped : s.stops ≠ []) (present : s.loop ≠ .absent) :
    s'.stops ≠ [] ∧ s'.loop ≠ .absent := by
  cases made <;> simp_all

/-- Where a signal was given, the loop can go on to its end. -/
theorem Sound.exists_over {s : Scheduler} (h : s.Sound) (stopped : s.stops ≠ [])
    (present : s.loop ≠ .absent) :
    ∃ rest t, (∀ m ∈ rest, m.isInner = true) ∧ s.run? rest = some t ∧ t.loop.isOver = true := by
  by_cases loopOver : s.loop.isOver = true
  · exact ⟨[], s, nofun, rfl, loopOver⟩
  obtain ⟨m, u, inner, made⟩ :=
    h.exists_loop_move stopped present (Bool.eq_false_iff.mpr loopOver)
  have less := h.work_lt made inner
  obtain ⟨stopped, present⟩ := made.present stopped present
  obtain ⟨rest, t, inners, run, ended⟩ := (h.makes made).exists_over stopped present
  exact ⟨m :: rest, t, List.forall_mem_cons.mpr ⟨inner, inners⟩,
    run?_cons.mpr ⟨u, made, run⟩, ended⟩
termination_by s.work

theorem not_isCall_of_isInner (h : m.isInner = true) : m.isCall = false := by
  cases m <;> simp_all [Move.isInner, Move.isCall]

/-- A loop that is over has taken a signal, or its timer panicked. -/
theorem stop_mem_of_over (run : (idle period).run? moves = some s)
    (loopOver : s.loop.isOver = true) : .stop ∈ moves ∨ period = 0 := by
  rcases LoopStage.isOver_iff.mp loopOver with ended | broken
  · exact .inl ((callRecord run).heeded (.inr (.inr ended)))
  · exact .inr ((loopRecord run).untimed broken)

/-! ## What the status tells -/

/-- What a scheduler tells of itself after a run in which the calls came one after the other. -/
structure Tells (period : Nat) (moves : List Move) (s : Scheduler) : Prop where
  /-- Between the calls, the status says whether there was a call of `start`, and none of `stop`
  since. -/
  running : s.isQuiet = true →
    (s.status.running = true ↔ .start ∈ moves ∧ .stop ∉ sinceStart moves)
  spawned : s.isQuiet = true → (s.loop ≠ .absent ↔ .start ∈ moves)
  stopped : s.isQuiet = true → .stop ∈ sinceStart moves → s.loop.isOver = true
  /-- The loop ends because of a call of `stop`, be it one that began before `start`, or because its
  timer panics. -/
  cause : s.loop.isOver = true →
    .stop ∈ sinceStart moves ∨ .stop ∈ beforeStart moves ∨ period = 0
  /-- Between the calls, the status agrees with the loop unless that has ended by itself. -/
  agrees : s.isQuiet = true →
    ((s.status.running = true ↔ s.loop ≠ .absent ∧ s.loop.isOver = false) ↔
      (s.loop.isOver = true → .stop ∈ sinceStart moves))
  /-- The loop can end by itself, and the status goes on to say that it runs, if and only if there
  was a call of `stop` before `start` or the interval is zero. -/
  stale : s.isQuiet = true → .start ∈ moves → .stop ∉ sinceStart moves →
    ((∃ rest t, (∀ m ∈ rest, m.isCall = false) ∧ s.run? rest = some t ∧ t.isQuiet = true ∧
      t.loop.isOver = true ∧ t.status.running = true) ↔ .stop ∈ beforeStart moves ∨ period = 0)

theorem running_iff (run : (idle period).runInTurn? moves = some s) (quiet : s.isQuiet = true) :
    s.status.running = true ↔ .start ∈ moves ∧ .stop ∉ sinceStart moves := by
  have h := phase run
  obtain ⟨-, settled⟩ := isQuiet_iff.mp quiet
  by_cases started : .start ∈ moves
  · by_cases stopped : .stop ∈ sinceStart moves
    · have cleared := (h.stopped stopped).cleared.resolve_right
        fun ⟨x, hx, hne⟩ => hne (settled x hx)
      simp [cleared, stopped]
    · have unstopped := h.unstopped started stopped
      have unclaimed : s.starting ≠ .claimed := by
        obtain ⟨hs | hs, -⟩ := isQuiet_iff.mp quiet <;> simp [hs]
      simp [started, stopped, unstopped.running.mpr unclaimed]
  · simp [started, (h.unstarted started).running]

theorem spawned_iff (run : (idle period).run? moves = some s) (quiet : s.isQuiet = true) :
    s.loop ≠ .absent ↔ .start ∈ moves := by
  rw [(callRecord run).started, Ne, (Sound.idle.run run).absent]
  obtain ⟨hs | hs, -⟩ := isQuiet_iff.mp quiet <;> simp [hs]

theorem over_of_stopped (run : (idle period).runInTurn? moves = some s) (quiet : s.isQuiet = true)
    (stopped : .stop ∈ sinceStart moves) : s.loop.isOver = true := by
  obtain ⟨-, settled⟩ := isQuiet_iff.mp quiet
  refine ((phase run).stopped stopped).joined.resolve_right ?_
  rintro (hx | hx) <;> cases settled _ hx

theorem cause_of_over (run : (idle period).run? moves = some s) (loopOver : s.loop.isOver = true) :
    .stop ∈ sinceStart moves ∨ .stop ∈ beforeStart moves ∨ period = 0 := by
  rw [← or_assoc, or_comm (a := _ ∈ sinceStart _), ← mem_beforeStart_or_sinceStart]
  exact stop_mem_of_over run loopOver

/-- After a call of `start` and none of `stop` since, what follows without calls leaves the
scheduler quiet and its status running. -/
theorem quiet_of_uncalled (run : (idle period).runInTurn? moves = some s)
    (quiet : s.isQuiet = true) (started : .start ∈ moves) (unstopped : .stop ∉ sinceStart moves)
    (uncalled : ∀ m ∈ rest, m.isCall = false) (after : s.run? rest = some t) :
    t.isQuiet = true ∧ t.status.running = true ∧ .stop ∉ sinceStart (moves ++ rest) := by
  have whole := runInTurn?_append.mpr ⟨s, run, runInTurn?_of_run? uncalled after⟩
  have still : .stop ∉ sinceStart (moves ++ rest) := by
    rw [sinceStart_append started, List.mem_append]
    exact not_or.mpr ⟨unstopped, fun hs => absurd (uncalled _ hs) (by decide)⟩
  have returned : t.starting = .returned := by
    have record := callRecord (run?_of_runInTurn? run)
    have hs := (isQuiet_iff.mp quiet).1.resolve_left (record.started.mp started)
    have keep := List.mem_append_left rest (record.returned.mpr hs)
    exact (callRecord (run?_of_runInTurn? whole)).returned.mp keep
  have settled := ((phase whole).unstopped (List.mem_append_left _ started) still).settled
  have quiet := isQuiet_iff.mpr ⟨.inr returned, settled⟩
  exact ⟨quiet, (running_iff whole quiet).mpr ⟨List.mem_append_left _ started, still⟩, still⟩

/-- The loop can end by itself. -/
theorem exists_over_of_stale (run : (idle period).run? moves = some s) (present : s.loop ≠ .absent)
    (stale : .stop ∈ beforeStart moves ∨ period = 0) :
    ∃ rest t, (∀ m ∈ rest, m.isCall = false) ∧ s.run? rest = some t ∧ t.loop.isOver = true := by
  have sound := Sound.idle.run run
  have record := loopRecord run
  rcases stale with stopped | untimed
  · have called : s.stops ≠ [] := by
      have mem : .stop ∈ moves := mem_beforeStart_or_sinceStart.mpr (.inl stopped)
      rw [← List.length_pos_iff, ← (callRecord run).stopped]
      exact List.count_pos_iff.mpr mem
    obtain ⟨rest, t, inner, after, loopOver⟩ := sound.exists_over called present
    exact ⟨rest, t, fun m hm => not_isCall_of_isInner (inner m hm), after, loopOver⟩
  · have timed := mt record.timed (not_not_intro untimed)
    cases hl : s.loop with
    | absent => exact absurd hl present
    | preparing =>
      have made : s.Makes (.prepare true) { s with loop := .broken } :=
        .fail hl (record.same.trans untimed)
      exact ⟨[.prepare true], _, by decide, run?_cons.mpr ⟨_, made, rfl⟩, rfl⟩
    | waiting | closing | ended => simp [hl] at timed
    | broken => exact ⟨[], s, nofun, rfl, by simp [hl]⟩

/-- The status tells of the calls. It agrees with the loop unless that has ended by itself, as it
can if and only if the signal of an earlier call is stored or the interval is zero. -/
theorem status_tells (run : (idle period).runInTurn? moves = some s) : Tells period moves s where
  running := running_iff run
  spawned := spawned_iff (run?_of_runInTurn? run)
  stopped := over_of_stopped run
  cause := cause_of_over (run?_of_runInTurn? run)
  agrees quiet := by
    have running := running_iff run quiet
    have spawned := spawned_iff (run?_of_runInTurn? run) quiet
    have stopped := over_of_stopped run quiet
    grind [LoopStage.isOver_iff]
  stale quiet started unstopped := by
    constructor
    · rintro ⟨rest, t, uncalled, after, -, loopOver, -⟩
      have still := (quiet_of_uncalled run quiet started unstopped uncalled after).2.2
      have whole := run?_append.mpr ⟨s, run?_of_runInTurn? run, after⟩
      have cause := (cause_of_over whole loopOver).resolve_left still
      rwa [beforeStart_append started] at cause
    · intro stale
      have present := (spawned_iff (run?_of_runInTurn? run) quiet).mpr started
      obtain ⟨rest, t, uncalled, after, loopOver⟩ :=
        exists_over_of_stale (run?_of_runInTurn? run) present stale
      obtain ⟨quiet, running, -⟩ := quiet_of_uncalled run quiet started unstopped uncalled after
      exact ⟨rest, t, uncalled, after, quiet, loopOver, running⟩

namespace Stale

/-- A call of `start`. -/
def start : List Move := [.start, .announce, .spawn, .keep]

/-- A call of `stop` that finds no loop. -/
def stop : List Move := [.stop, .seek 0, .clear 0]

/-- The scheduler after the two calls. -/
def begun : Scheduler :=
  { period := 10, starting := .returned, stops := [.returned], handle := true, signal := true
    loop := .preparing, status := { running := true } }

/-- A scheduler that was stopped before it was started. -/
theorem status_tells_begun :
    (idle 10).runInTurn? (stop ++ start) = some begun ∧ Tells 10 (stop ++ start) begun :=
  ⟨by decide, status_tells (by decide)⟩

/-- After a run the loop is over though there was no call of `stop` since it was started, no call is
in progress, and the status says that the loop runs. -/
def EndsUnstopped (period : Nat) (moves : List Move) : Prop :=
  ∃ last, (idle period).runInTurn? moves = some last ∧ last.isQuiet = true ∧
    .stop ∉ sinceStart moves ∧ last.loop.isOver = true ∧ last.status.running = true

/-- After an earlier call of `stop` the loop ends whether it takes the signal first, or the timer
and then the signal. An interval of zero ends it without any call. -/
theorem ends_unstopped :
    EndsUnstopped 10 (stop ++ start ++ [.prepare true, .heed, .close]) ∧
    EndsUnstopped 10
      (stop ++ start ++ [.prepare true, .tick 0, .heed, .close, .finish 1 .succeeded]) ∧
    EndsUnstopped 0 (start ++ [.prepare true]) := by
  refine ⟨⟨{ begun with signal := false, loop := .ended }, by decide⟩, ⟨{ begun with
    signal := false, loop := .ended
    status := { running := true, begun := 1, succeeded := 1, lastTick := some 0 } }, by decide⟩,
    ⟨{ begun with period := 0, stops := [], signal := false, loop := .broken }, by decide⟩⟩

end Stale

end Scheduler

end Sheltering
