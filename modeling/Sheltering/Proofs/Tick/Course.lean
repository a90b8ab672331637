import Sheltering.Proofs.Tick.Atomic

/-!
# The course of a tick

* `Worker.Batches`: how the batches of a tick may go. That of transfers runs if that of challenges
  returned a report.
* `Worker.Closes`: how a tick may end once its batches have ended, however they did: the lease is
  given back, then a note is written.
* `Worker.Course`: how a tick may go.
* `Worker.held_tick`: every tick goes like that, whatever the lease, the log and the collaborators
  reply.
-/

namespace Sheltering

open Dialogue (Exchange Held held_call unsettle)

namespace TickStep

/-- The question has nothing to do with the lease. -/
def IsAside : TickStep → Prop
  | begin _ _ => False
  | finish _ _ => False
  | _ => True

/-- An exchange of the batch of challenges, as one of the tick. -/
def ofChallenge (e : Exchange Query) : Exchange TickStep := ⟨challenge e.question, e.reply⟩

/-- An exchange of the batch of transfers, as one of the tick. -/
def ofTransfer (e : Exchange Query) : Exchange TickStep := ⟨transfer e.question, e.reply⟩

end TickStep

namespace Worker

open TickStep (ofChallenge ofTransfer)

/-- What the two batches of a tick come to. -/
abbrev Verdict : Type := Reply (Except Fault (BatchReport × BatchReport))

namespace Verdict

/-- Both batches returned a report. -/
def success : Verdict → Bool
  | .answer (.ok _) => true
  | _ => false

/-- The end of a tick that comes to what its batches came to. -/
def ending (v : Verdict) : Reply (Except Fault Unit) := v.map (Except.map fun _ => ())

/-- The note of a tick. -/
def note (w : Worker) (id : Uuid) : Verdict → JournalNote
  | .answer (.ok (challenges, transfers)) => w.finishedNote id challenges transfers
  | .answer (.error fault) => w.failedNote id fault
  | .panic => w.panickedNote id

end Verdict

/-- How the batches of a tick may go. -/
inductive Batches (w : Worker) : List (Exchange TickStep) → Verdict → Prop
  /-- The batch of challenges fails, and that of transfers does not run. -/
  | failed {cs : List (Exchange Query)} {fault : Fault}
      (hc : ((w.resolver .challenge).batch w.mode).run.Held cs (.answer (.error fault))) :
    Batches w (cs.map ofChallenge) (.answer (.error fault))
  /-- The batch of challenges panics, and that of transfers does not run. -/
  | panicked {cs : List (Exchange Query)}
      (hc : ((w.resolver .challenge).batch w.mode).run.Held cs .panic) :
    Batches w (cs.map ofChallenge) .panic
  /-- Both run, and come to what that of transfers comes to. -/
  | both {cs ts : List (Exchange Query)} {report : BatchReport}
      {reply : Reply (Except Fault BatchReport)}
      (hc : ((w.resolver .challenge).batch w.mode).run.Held cs (.answer (.ok report)))
      (ht : ((w.resolver .transfer).batch w.mode).run.Held ts reply) :
    Batches w (cs.map ofChallenge ++ ts.map ofTransfer) (reply.map (Except.map (report, ·)))

/-- How a tick with a lease may end once its batches have come to a verdict. -/
inductive Closes (w : Worker) (id : Uuid) (v : Verdict) :
    List (Exchange TickStep) → Reply (Except Fault Unit) → Prop
  /-- The lease is given back and a note is written, or fails to be written. The tick comes to what
  the batches came to. -/
  | noted (written : Except Fault Unit) :
    Closes w id v [⟨.finish id v.success, .answer (.ok ())⟩, ⟨.note (v.note w id), .answer written⟩]
      v.ending
  /-- The lease is given back, and the log panics. -/
  | unnoted :
    Closes w id v [⟨.finish id v.success, .answer (.ok ())⟩, ⟨.note (v.note w id), .panic⟩] .panic
  /-- The lease cannot be given back, which is the fault of the tick. -/
  | kept {fault : Fault} (hv : v ≠ .panic) :
    Closes w id v [⟨.finish id v.success, .answer (.error fault)⟩] (.answer (.error fault))
  /-- The lease cannot be given back after a panic, which goes on. -/
  | keptInPanic {fault : Fault} (hv : v = .panic) (reply : Reply (Except Fault Unit)) :
    Closes w id v [⟨.finish id v.success, .answer (.error fault)⟩, ⟨.note (v.note w id), reply⟩]
      .panic
  /-- Giving back the lease panics. -/
  | crashed : Closes w id v [⟨.finish id v.success, .panic⟩] .panic

/-- How a tick may go. -/
inductive Course (w : Worker) : List (Exchange TickStep) → Reply (Except Fault Unit) → Prop
  /-- The lease is held elsewhere, and there is nothing to do. -/
  | idle {fault : Fault} (hf : fault.isWorkInProgress = true) :
    Course w [⟨.begin w.workType w.leaseTimeout, .answer (.error fault)⟩] (.answer (.ok ()))
  /-- The lease cannot be taken, which is the fault of the tick. -/
  | refused {fault : Fault} (hf : fault.isWorkInProgress = false) :
    Course w [⟨.begin w.workType w.leaseTimeout, .answer (.error fault)⟩] (.answer (.error fault))
  /-- Taking the lease panics. -/
  | crashed : Course w [⟨.begin w.workType w.leaseTimeout, .panic⟩] .panic
  /-- The lease is taken, the batches run, and the lease is given back. -/
  | worked {id : Uuid} {v : Verdict} {batches closing : List (Exchange TickStep)}
      {ending : Reply (Except Fault Unit)} (hb : Batches w batches v)
      (hc : Closes w id v closing ending) :
    Course w (⟨.begin w.workType w.leaseTimeout, .answer (.ok id)⟩ :: (batches ++ closing)) ending

/-! ## Every tick goes its course -/

variable {w : Worker} {id : Uuid} {v : Verdict} {es : List (Exchange TickStep)}

theorem held_challenges {reply : Reply (Except Fault BatchReport)}
    (h : w.challenges.run.Held es reply) : ∃ cs, es = cs.map ofChallenge ∧
      ((w.resolver .challenge).batch w.mode).run.Held cs reply := by
  rw [challenges, ExceptT.run_mk] at h
  exact h.refine_inv fun h => held_call h

theorem held_transfers {reply : Reply (Except Fault BatchReport)}
    (h : w.transfers.run.Held es reply) : ∃ ts, es = ts.map ofTransfer ∧
      ((w.resolver .transfer).batch w.mode).run.Held ts reply := by
  rw [transfers, ExceptT.run_mk] at h
  exact h.refine_inv fun h => held_call h

theorem held_batches (h : w.batches.run.Held es v) : Batches w es v := by
  obtain ⟨report, es₁, es₂, rfl, h₁, h₂⟩ | ⟨fault, h₁, rfl⟩ | ⟨h₁, rfl⟩ := Held.run_bind_inv h
  · obtain ⟨cs, rfl, hc⟩ := held_challenges h₁
    obtain ⟨report', es₃, es₄, rfl, h₃, rfl, rfl⟩ | ⟨fault, h₃, rfl⟩ | ⟨h₃, rfl⟩ :=
      Held.run_bind_inv h₂
    · obtain ⟨ts, rfl, ht⟩ := held_transfers h₃
      rw [List.append_nil]
      exact .both hc ht
    · obtain ⟨ts, rfl, ht⟩ := held_transfers h₃
      exact .both hc ht
    · obtain ⟨ts, rfl, ht⟩ := held_transfers h₃
      exact .both hc ht
  · obtain ⟨cs, rfl, hc⟩ := held_challenges h₁
    exact .failed hc
  · obtain ⟨cs, rfl, hc⟩ := held_challenges h₁
    exact .panicked hc

/-- A note is the last to be asked, and unless the log panics it changes no end. -/
theorem held_note {n : JournalNote} {r ending : Reply (Except Fault Unit)}
    (h : ((note n).bind fun _ => unsettle r).Held es ending) :
    (∃ written, es = [⟨.note n, .answer written⟩] ∧ ending = r) ∨
      (es = [⟨.note n, .panic⟩] ∧ ending = .panic) := by
  rw [note, Bind.bind] at h
  obtain ⟨written, later, rfl, h⟩ := h
  cases written with
  | answer written =>
    cases r with
    | answer r =>
      obtain ⟨rfl, rfl⟩ := h
      exact .inl ⟨written, rfl, rfl⟩
    | panic =>
      obtain ⟨rfl, rfl⟩ := h
      exact .inl ⟨written, rfl, rfl⟩
  | panic =>
    obtain ⟨rfl, rfl⟩ := h
    exact .inr ⟨rfl, rfl⟩

/-- After batches that did not panic a lease that cannot be given back ends the tick. -/
theorem closing_eq (hv : v ≠ .panic) :
    w.closing id v = (finish id v.success).bind fun
      | .error fault => .done (.error fault)
      | .ok () => (note (v.note w id)).bind fun _ => unsettle v.ending := by
  rcases v with (fault | ⟨challenges, transfers⟩) | _
  · refine congrArg (Dialogue.bind _) (funext fun r => ?_)
    cases r <;> rfl
  · refine congrArg (Dialogue.bind _) (funext fun r => ?_)
    cases r <;> rfl
  · exact absurd rfl hv

theorem held_closing {ending : Reply (Except Fault Unit)} (h : (w.closing id v).Held es ending) :
    Closes w id v es ending := by
  by_cases hv : v = .panic
  · subst hv
    obtain ⟨reply, es₁, es₂, rfl, h₁, h₂⟩ | ⟨h₁, rfl⟩ := Held.bind_inv h
    · rw [held_call h₁]
      cases reply with
      | error fault =>
        obtain ⟨written, rfl, rfl⟩ | ⟨rfl, rfl⟩ := held_note (r := .panic) h₂ <;>
          exact .keptInPanic rfl _
      | ok _ =>
        obtain ⟨written, rfl, rfl⟩ | ⟨rfl, rfl⟩ := held_note (r := .panic) h₂
        · exact .noted written
        · exact .unnoted
    · rw [held_call h₁]
      exact .crashed
  · rw [closing_eq hv] at h
    obtain ⟨reply, es₁, es₂, rfl, h₁, h₂⟩ | ⟨h₁, rfl⟩ := Held.bind_inv h
    · rw [held_call h₁]
      cases reply with
      | error fault =>
        obtain ⟨rfl, rfl⟩ := h₂
        exact .kept hv
      | ok _ =>
        obtain ⟨written, rfl, rfl⟩ | ⟨rfl, rfl⟩ := held_note h₂
        · exact .noted written
        · exact .unnoted
    · rw [held_call h₁]
      exact .crashed

theorem held_tick {ending : Reply (Except Fault Unit)} (h : w.tick.Held es ending) :
    Course w es ending := by
  obtain ⟨reply, es₁, es₂, rfl, h₁, h₂⟩ | ⟨h₁, rfl⟩ := Held.bind_inv h
  · rw [held_call h₁]
    cases reply with
    | ok id =>
      have hwork : (w.batches.run.settled.bind (w.closing id)).Held es₂ ending := work_eq w id ▸ h₂
      obtain ⟨v, es₃, es₄, rfl, h₃, h₄⟩ | ⟨h₃, rfl⟩ := Held.bind_inv hwork
      · obtain ⟨v', he, h₃⟩ := Held.settled_inv h₃
        cases he
        rw [List.singleton_append]
        exact .worked (held_batches h₃) (held_closing h₄)
      · obtain ⟨_, he, -⟩ := Held.settled_inv h₃
        cases he
    | error fault =>
      obtain ⟨rfl, rfl⟩ := h₂
      cases hf : fault.isWorkInProgress with
      | true => exact .idle hf
      | false => exact .refused hf
  · rw [held_call h₁]
    exact .crashed

/-! ## Where the lease comes in -/

theorem Batches.isAside (h : Batches w es v) : ∀ e ∈ es, e.question.IsAside := by
  have hc : ∀ {cs : List (Exchange Query)}, ∀ e ∈ cs.map ofChallenge, e.question.IsAside := by
    intro cs e he
    obtain ⟨c, -, rfl⟩ := List.mem_map.mp he
    trivial
  cases h with
  | failed | panicked => exact hc
  | both =>
    refine List.forall_mem_append.mpr ⟨hc, fun e he => ?_⟩
    obtain ⟨c, -, rfl⟩ := List.mem_map.mp he
    trivial

/-- The lease is given back first, and once. -/
theorem Closes.finish_first {ending : Reply (Except Fault Unit)} (h : Closes w id v es ending) :
    ∃ (reply : Reply (Except Fault Unit)) (notes : List (Exchange TickStep)),
      es = ⟨.finish id v.success, reply⟩ :: notes ∧ ∀ e ∈ notes, e.question.IsAside := by
  cases h with
  | noted | unnoted | keptInPanic => exact ⟨_, _, rfl, List.forall_mem_singleton.mpr trivial⟩
  | kept | crashed => exact ⟨_, _, rfl, List.forall_mem_nil _⟩

end Worker

end Sheltering
