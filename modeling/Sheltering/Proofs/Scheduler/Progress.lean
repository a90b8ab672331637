import Sheltering.Proofs.Scheduler.Moves

/-!
# Calls of a scheduler return

A call waits for three things only: for the loop to end, for another call of `stop` that waits for
that, and for its own next move. A stored signal leads the loop to its end, so no call waits
forever.

* `Scheduler.Sound`: what the parts of a scheduler tell of one another after every run.
* `Scheduler.Sound.keeps`: what every move keeps, every run keeps.
* `Scheduler.Sound.exists_inner`: unless a scheduler is quiet, a call or the loop can go on.
* `Scheduler.Sound.work_lt`: each such move leaves less to do.
* `Scheduler.Sound.length_le`: there are only so many of them, whichever is made first.
-/

namespace Sheltering

/-- A call that has begun or the loop goes on, and no tick is started. -/
def Move.isInner : Move → Bool
  | .announce | .spawn | .keep | .seek _ | .join _ | .clear _ | .prepare _ | .heed | .close => true
  | .start | .stop | .tick _ | .finish _ _ => false

/-- How many moves a call of `start` has before it. -/
def Starting.left : Starting → Nat
  | .never | .returned => 0
  | .claimed => 3
  | .announced => 2
  | .spawned => 1

/-- How many moves a call of `stop` has before it at most. -/
def Stopping.left : Stopping → Nat
  | .signalled => 3
  | .joining => 2
  | .joined => 1
  | .returned => 0

/-- How many moves some calls of `stop` have before them at most. -/
def Stopping.allLeft : List Stopping → Nat
  | [] => 0
  | c :: cs => c.left + allLeft cs

/-- How many moves the loop has before it, ticks apart. -/
def LoopStage.left : LoopStage → Nat
  | .absent | .preparing => 3
  | .waiting => 2
  | .closing => 1
  | .ended | .broken => 0

namespace Scheduler

variable {s s' : Scheduler} {m : Move} {moves : List Move} {period : Nat}

/-- What the parts of a scheduler tell of one another. -/
structure Sound (s : Scheduler) : Prop where
  absent : s.loop = .absent ↔
    s.starting = .never ∨ s.starting = .claimed ∨ s.starting = .announced
  kept : s.handle = true → s.starting = .returned
  joins : .joining ∈ s.stops → s.starting = .returned
  /-- Whoever took the handle saw the end of the loop, or still waits for it. -/
  loopOver : s.starting = .returned → s.handle = false → .joining ∉ s.stops → s.loop.isOver = true
  /-- The signal of a call of `stop` is stored, or the loop has taken it. -/
  signalled : s.stops ≠ [] → s.signal = true ∨ s.loop = .closing ∨ s.loop.isOver = true

theorem mem_set_of_ne {α : Type} {l : List α} {i : Nat} {a b x : α} (hi : l[i]? = some a)
    (ha : a ≠ x) (hb : b ≠ x) : x ∈ l.set i b ↔ x ∈ l := by
  simp only [List.mem_iff_getElem?, List.getElem?_set]
  refine exists_congr fun j => ?_
  split
  · rename_i hij
    subst hij
    simp [hi, ha, hb]
  · rfl

theorem Sound.idle : (idle period).Sound := by
  constructor <;> simp [Scheduler.idle]

theorem Sound.makes (h : s.Sound) (made : s.Makes m s') : s'.Sound := by
  obtain ⟨absent, kept, joins, loopOver, signalled⟩ := h
  cases made with
  | refuse | tick | finish => constructor <;> assumption
  | @take call hc free kept =>
    have hmem : .joining ∈ s.stops.set call .joining :=
      List.mem_set (List.getElem?_eq_some_iff.mp hc).1 _
    constructor <;> simp_all
  | miss hc free gone =>
    have hmem := mem_set_of_ne (x := .joining) (b := .joined) hc nofun nofun
    constructor <;> simp_all
  | join hc loopOver =>
    have returned := joins (List.mem_of_getElem? hc)
    constructor <;> simp_all
  | clear hc =>
    have hmem := mem_set_of_ne (x := .joining) (b := .returned) hc nofun nofun
    constructor <;> simp_all
  | claim | announce | spawn | keep | signal => constructor <;> simp_all
  | prepare | fail | heed | close => constructor <;> simp_all

/-! ## A call goes on -/

/-- The loop goes on to its end when it has the signal. -/
theorem Sound.exists_loop_move (h : s.Sound) (stopped : s.stops ≠ []) (present : s.loop ≠ .absent)
    (running : s.loop.isOver = false) : ∃ m s', m.isInner = true ∧ s.Makes m s' := by
  have given := h.signalled stopped
  cases hl : s.loop with
  | absent => exact absurd hl present
  | preparing =>
    by_cases untimed : s.period = 0
    · exact ⟨.prepare true, _, rfl, .fail hl untimed⟩
    · exact ⟨.prepare true, _, rfl, .prepare hl untimed⟩
  | waiting => exact ⟨.heed, _, rfl, .heed hl (by simpa [hl] using given)⟩
  | closing => exact ⟨.close, _, rfl, .close hl⟩
  | ended => simp [hl, LoopStage.isOver] at running
  | broken => simp [hl, LoopStage.isOver] at running

/-- Unless a scheduler is quiet, a call that has begun or the loop can go on. -/
theorem Sound.exists_inner (h : s.Sound) (busy : s.isQuiet = false) :
    ∃ m s', m.isInner = true ∧ s.Makes m s' := by
  by_cases seized : .joining ∈ s.stops
  · -- One call waits for the loop, and the others may wait for this call.
    obtain ⟨call, hc⟩ := List.mem_iff_getElem?.mp seized
    by_cases loopOver : s.loop.isOver = true
    · exact ⟨.join call, _, rfl, .join hc loopOver⟩
    · have present : s.loop ≠ .absent := fun hl => by
        have := h.absent.mp hl
        simp [h.joins seized] at this
      exact h.exists_loop_move (List.ne_nil_of_mem seized) present (Bool.eq_false_iff.mpr loopOver)
  by_cases returned : ∀ x ∈ s.stops, x = .returned
  · cases hs : s.starting with
    | never | returned =>
      have quiet : s.isQuiet = true := by simpa [isQuiet, hs] using returned
      exact absurd quiet (Bool.eq_false_iff.mp busy)
    | claimed => exact ⟨.announce, _, rfl, .announce hs⟩
    | announced => exact ⟨.spawn, _, rfl, .spawn hs⟩
    | spawned => exact ⟨.keep, _, rfl, .keep hs seized⟩
  · push Not at returned
    obtain ⟨x, hx, hne⟩ := returned
    obtain ⟨call, hc⟩ := List.mem_iff_getElem?.mp hx
    cases x with
    | signalled =>
      by_cases kept : s.handle = true
      · exact ⟨.seek call, _, rfl, .take hc seized kept⟩
      · exact ⟨.seek call, _, rfl, .miss hc seized (Bool.eq_false_iff.mpr kept)⟩
    | joining => exact absurd hx seized
    | joined => exact ⟨.clear call, _, rfl, .clear hc⟩
    | returned => exact absurd rfl hne

/-! ## What is left to do -/

/-- How many inner moves a scheduler has before it at most. -/
def work (s : Scheduler) : Nat := s.starting.left + Stopping.allLeft s.stops + s.loop.left

theorem allLeft_set_lt {l : List Stopping} {i : Nat} {a b : Stopping} (hi : l[i]? = some a)
    (hb : b.left < a.left) : Stopping.allLeft (l.set i b) < Stopping.allLeft l := by
  induction l generalizing i with
  | nil => cases hi
  | cons c l ih =>
    cases i with
    | zero =>
      obtain rfl := Option.some.inj hi
      exact Nat.add_lt_add_right hb _
    | succ i => exact Nat.add_lt_add_left (ih hi) _

/-- An inner move leaves less to do. -/
theorem Sound.work_lt (h : s.Sound) (made : s.Makes m s') (inner : m.isInner = true) :
    s'.work < s.work := by
  cases made with
  | claim | refuse | signal | tick | finish => cases inner
  | announce hs | keep hs => simp [work, hs, Starting.left]
  | spawn hs =>
    have hl := h.absent.mpr (.inr (.inr hs))
    simp [work, hs, hl, Starting.left, LoopStage.left]
  | take hc | miss hc | join hc | clear hc =>
    exact Nat.add_lt_add_right (Nat.add_lt_add_left (allLeft_set_lt hc (by decide)) _) _
  | prepare hl | fail hl | heed hl | close hl => simp [work, hl, LoopStage.left]

/-- What every move keeps, every run keeps. -/
theorem Sound.keeps {P : Scheduler → Prop}
    (kept : ∀ {s m s'}, s.Sound → P s → s.Makes m s' → P s') (h : s.Sound) (hs : P s)
    (run : s.run? moves = some s') : s'.Sound ∧ P s' := by
  induction moves generalizing s with
  | nil =>
    obtain rfl := Option.some.inj run
    exact ⟨h, hs⟩
  | cons m moves ih =>
    obtain ⟨t, made, run⟩ := run?_cons.mp run
    exact ih (h.makes made) (kept h hs made) run

theorem Sound.run (h : s.Sound) (run : s.run? moves = some s') : s'.Sound :=
  (h.keeps (P := fun _ => True) (fun _ _ _ => trivial) trivial run).1

/-- Calls that have begun and the loop come to their end, whichever goes on first. -/
theorem Sound.length_le (h : s.Sound) (inner : ∀ m ∈ moves, m.isInner = true)
    (run : s.run? moves = some s') : moves.length + s'.work ≤ s.work := by
  induction moves generalizing s with
  | nil =>
    obtain rfl := Option.some.inj run
    exact Nat.le_of_eq (Nat.zero_add _)
  | cons m moves ih =>
    obtain ⟨hm, inner⟩ := List.forall_mem_cons.mp inner
    obtain ⟨t, made, run⟩ := run?_cons.mp run
    have rest := ih (h.makes made) inner run
    have first := h.work_lt made hm
    rw [List.length_cons]
    omega

end Scheduler

end Sheltering
