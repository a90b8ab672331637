import Sheltering.Proofs.Tick.Course
import Sheltering.Resolver.Script

/-!
# The note of a tick

A tick that took a lease tells the journal what its batches came to, once it has given the lease back.
When the lease cannot be given back, the note is left out, unless the batches panicked.

* `Worker.notes`: the notes that a tick writes.
* `Worker.Tells`: what a note says of a tick.
* `Worker.Verdict.isNoted`: whether a note is written.
* `Worker.notes_of_tick`: every tick with a lease writes one note, which tells what its batches came
  to, if it is written at all; else the tick ends as giving the lease back did.
* `Worker.note_left_out`: both batches return a report, and there is no note.
-/

namespace Sheltering.Worker

open Dialogue (Exchange Surroundings run_held)
open TickStep (ofChallenge ofTransfer)

/-! ## What a tick writes -/

/-- The note that is written in an exchange, whether or not it is stored. -/
def note? : Exchange TickStep → Option JournalNote
  | ⟨.note n, _⟩ => some n
  | _ => none

/-- The notes that are written in some exchanges. -/
def notes (es : List (Exchange TickStep)) : List JournalNote := es.filterMap note?

/-- The lease that a tick took. -/
def lease? : List (Exchange TickStep) → Option Uuid
  | ⟨.begin _ _, .answer (.ok id)⟩ :: _ => some id
  | _ => none

namespace Verdict

/-- The text of what went wrong with the batches. -/
def complaint : Verdict → Option String
  | .answer (.ok _) => none
  | .answer (.error fault) => some fault.message
  | .panic => some "panic"

/-- A note is written once the lease is given back; after a panic also when that failed. -/
def isNoted (v : Verdict) : Reply (Except Fault Unit) → Bool
  | .answer (.ok ()) => true
  | .answer (.error _) => v.toOption.isNone
  | .panic => false

end Verdict

/-- A note says whose tick it was, which lease it had, and what its batches came to. -/
structure Tells (w : Worker) (id : Uuid) (v : Verdict) (n : JournalNote) : Prop where
  worker : n.worker = w.workType
  level : n.level = if v.success then .info else .error
  error : n.error = v.complaint
  lease : ∃ fields, n.details = some (.object (("task_id", .str id.text) :: fields))

variable {w : Worker} {id : Uuid} {v : Verdict} {es es' : List (Exchange TickStep)}
  {ending : Reply (Except Fault Unit)}

theorem tells_note (w : Worker) (id : Uuid) (v : Verdict) : Tells w id v (v.note w id) := by
  rcases v with (fault | ⟨challenges, transfers⟩) | _
  · exact ⟨rfl, rfl, rfl, _, rfl⟩
  · exact ⟨rfl, rfl, rfl, _, rfl⟩
  · exact ⟨rfl, rfl, rfl, _, rfl⟩

theorem notes_append : notes (es ++ es') = notes es ++ notes es' := List.filterMap_append

/-- The batches write no notes. -/
theorem Batches.notes_eq (h : Batches w es v) : notes es = [] := by
  have hc : ∀ cs : List (Exchange Query), notes (cs.map ofChallenge) = [] := fun cs =>
    List.filterMap_eq_nil_iff.mpr fun e he => by
      obtain ⟨c, -, rfl⟩ := List.mem_map.mp he
      rfl
  have ht : ∀ ts : List (Exchange Query), notes (ts.map ofTransfer) = [] := fun ts =>
    List.filterMap_eq_nil_iff.mpr fun e he => by
      obtain ⟨t, -, rfl⟩ := List.mem_map.mp he
      rfl
  cases h with
  | failed | panicked => exact hc _
  | both => rw [notes_append, hc, ht, List.append_nil]

/-- After the batches the lease is given back, and the note is written if that went well or the
batches panicked. -/
theorem Closes.notes_eq (h : Closes w id v es ending) : ∃ reply closing,
    es = ⟨.finish id v.success, reply⟩ :: closing ∧
      if v.isNoted reply then notes es = [v.note w id] else notes es = [] ∧ ending = reply := by
  cases h with
  | noted | unnoted => exact ⟨_, _, rfl, rfl⟩
  | kept hv =>
    refine ⟨_, _, rfl, ?_⟩
    rcases v with r | _
    · exact ⟨rfl, rfl⟩
    · exact absurd rfl hv
  | keptInPanic hv =>
    subst hv
    exact ⟨_, _, rfl, rfl⟩
  | crashed => exact ⟨_, _, rfl, rfl, rfl⟩

/-- A tick without a lease writes no note. A tick with a lease writes one note that tells what its
batches came to, unless the lease could not be given back and the batches did not panic, or giving it
back panicked; then it writes none and ends as giving back the lease did. -/
theorem notes_of_tick (h : w.tick.Held es ending) :
    (lease? es = none ∧ notes es = []) ∨
    ∃ id v batches reply closing, Batches w batches v ∧
      es = ⟨.begin w.workType w.leaseTimeout, .answer (.ok id)⟩ ::
        (batches ++ ⟨.finish id v.success, reply⟩ :: closing) ∧
      if v.isNoted reply then notes es = [v.note w id] ∧ Tells w id v (v.note w id)
      else notes es = [] ∧ ending = reply := by
  cases held_tick h with
  | idle | refused | crashed => exact .inl ⟨rfl, rfl⟩
  | @worked id v batches closing _ hb hc =>
    obtain ⟨reply, later, rfl, hnotes⟩ := hc.notes_eq
    refine .inr ⟨id, v, batches, reply, later, hb, rfl, ?_⟩
    have hes : notes (⟨.begin w.workType w.leaseTimeout, .answer (.ok id)⟩ ::
        (batches ++ ⟨.finish id v.success, reply⟩ :: later)) =
          notes (⟨.finish id v.success, reply⟩ :: later) := by
      show notes (batches ++ _) = _
      rw [notes_append, hb.notes_eq, List.nil_append]
    rw [hes]
    split at hnotes
    · rename_i hn
      rw [if_pos hn]
      exact ⟨hnotes, tells_note w id v⟩
    · rename_i hn
      rw [if_neg hn]
      exact hnotes

/-! ## A lease that cannot be given back -/

namespace Jammed

def setup : ResolverSetup := { node := "0xA" }

def worker : Worker :=
  { workType := "resolution", leaseTimeout := .ofSeconds 10, mode := .all
    challengeSetup := setup, transferSetup := setup }

/-- A lease can be taken, but not given back. The ledgers are as a script says. -/
def world (s : Script) : Surroundings TickStep Unit
  | .begin _ _, u => (.answer (.ok ⟨7⟩), u)
  | .finish _ _, u => (.answer (.error (.database "disk full")), u)
  | .note _, u => (.answer (.ok ()), u)
  | .challenge q, u => ((s.reply setup.node q).1, u)
  | .transfer q, u => ((s.reply setup.node q).1, u)

/-- The exchanges of a tick. -/
def exchanges (s : Script) : List (Exchange TickStep) :=
  (Dialogue.run (world s) worker.tick ()).exchanges

/-- The end of a tick. -/
def outcome (s : Script) : Reply (Except Fault Unit) :=
  (Dialogue.run (world s) worker.tick ()).ending

/-- What a tick says of its batches when it gives its lease back. -/
def success? (es : List (Exchange TickStep)) : Option Bool :=
  es.findSome? fun
    | ⟨.finish _ success, _⟩ => some success
    | _ => none

/-- The ledgers panic when they are asked what was opened. -/
def panicking : Script := { mishaps := [("opened_events", .panic)] }

end Jammed

open Jammed in
/-- A tick that panics writes its note although the lease could not be given back. -/
theorem notes_of_tick_panicking : notes (exchanges panicking) = [worker.panickedNote ⟨7⟩] ∧
    ∃ id v batches reply closing, Batches worker batches v ∧
      exchanges panicking = ⟨.begin worker.workType worker.leaseTimeout, .answer (.ok id)⟩ ::
        (batches ++ ⟨.finish id v.success, reply⟩ :: closing) ∧
      if v.isNoted reply then
        notes (exchanges panicking) = [v.note worker id] ∧ Tells worker id v (v.note worker id)
      else notes (exchanges panicking) = [] ∧ outcome panicking = reply := by
  refine ⟨rfl, ?_⟩
  obtain ⟨hnone, -⟩ | h := notes_of_tick (run_held (world panicking) worker.tick ())
  · cases hnone
  · exact h

open Jammed in
/-- Nothing is open, so both batches return a report. The lease that was taken cannot be given back,
and there is no note of the tick. -/
theorem note_left_out :
    lease? (exchanges {}) = some ⟨7⟩ ∧ success? (exchanges {}) = some true ∧
      (notes (exchanges {})).length = 0 :=
  ⟨rfl, by decide +kernel, by decide +kernel⟩

end Sheltering.Worker
