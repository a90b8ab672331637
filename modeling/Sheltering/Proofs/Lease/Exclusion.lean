import Sheltering.Proofs.Lease.Calls

/-!
# The row of a running lease

* `LeaseCall.Guarded`: the row of a work type is that of a lease.
* `LeaseCall.Guarded.step`: every step keeps that, but one that ends the lease.
* `LeaseCall.Guarded.missed`: meanwhile every caller that wants the lease is turned away.
-/

namespace Sheltering

open Dialogue (Exchange ask unsettle)

namespace LeaseCall

variable {calls : List LeaseCall} {ms : List (Moment LeaseStep Office (Except Fault Uuid))}
  {m : Moment LeaseStep Office (Except Fault Uuid)} {c : LeaseCall} {x x' : Standing}
  {o o' : Office} {e : Exchange LeaseStep} {f : Nat → Standing}

/-! ## The row of a running lease -/

/-- The instant that a statement will be executed with can be stored. -/
def Standing.Timed : Standing → Prop
  | opening (.clearing t _) => t.Storable
  | _ => True

theorem Step.timed (h : Step c x o e x' o') (hx : x.Timed) : e.question.Timed ∧ x'.Timed := by
  cases h with
  | read hnow ht hd => exact ⟨trivial, ht⟩
  | clear => exact ⟨hx, trivial⟩
  | _ => exact ⟨trivial, trivial⟩

theorem Step.answers (h : Step c x o e x' o') : Office.answers e.question o e.reply o' := by
  cases h with
  | read hnow ht => exact ⟨_, rfl, hnow, ht, rfl⟩
  | readTooLong hnow ht => exact ⟨_, rfl, hnow, ht, rfl⟩
  | clear => exact ⟨rfl, rfl⟩
  | draw hid => exact ⟨_, rfl, hid, rfl⟩
  | take ha => exact .inl ⟨_, _, ha, rfl, rfl⟩
  | miss ha => exact .inl ⟨_, _, ha, rfl, rfl⟩
  | clash ha => exact .inr ⟨_, ha, rfl, rfl⟩
  | readAgain hnow ht => exact ⟨_, rfl, hnow, ht, rfl⟩
  | close => exact ⟨rfl, rfl⟩

/-- While a lease is running an acquisition of its work type changes nothing, and its caller is told
that work is in progress. -/
theorem Step.missed {row r : LeaseRow} (h : Step c x o e x' o') (hq : e.question = .acquire row)
    (hrow : o.table.row? row.workType = some r) (hr : r.isRunning = true) :
    e = ⟨.acquire row, .answer (.ok false)⟩ ∧ o' = o ∧
      x' = .ended (.answer (.error (.workInProgress row.workType))) := by
  cases h with
  | take ha =>
    cases hq
    rw [LeaseTable.acquire_of_running hrow hr] at ha
    cases ha
  | miss ha =>
    cases hq
    rw [LeaseTable.acquire_of_running hrow hr] at ha
    cases ha
    exact ⟨rfl, rfl, rfl⟩
  | clash ha =>
    cases hq
    rw [LeaseTable.acquire_of_running hrow hr] at ha
    cases ha
  | _ => cases hq

/-- The row that an exchange put in. -/
def taken? : Exchange LeaseStep → Option LeaseRow
  | ⟨.acquire row, .answer (.ok true)⟩ => some row
  | _ => none

/-- A lease that went in is running, and its row is the row of its work type. -/
theorem Step.taken {row : LeaseRow} (h : Step c x o e x' o') (he : taken? e = some row) :
    row.isRunning = true ∧ o'.table.row? row.workType = some row := by
  cases h with
  | take ha =>
    cases he
    obtain ⟨hf, -⟩ | ⟨-, ha⟩ := LeaseTable.acquire_cases ha
    · cases hf
    · exact ⟨rfl, ha.self⟩
  | _ => cases he

/-- The calls stand somewhere, and the row of the lease's work type is that of the lease. -/
structure Guarded (calls : List LeaseCall) (l : Lease)
    (a : Assembly LeaseStep Office (Except Fault Uuid)) (f : Nat → Standing) : Prop where
  stand : a.Stand (Place calls) f
  timed : ∀ k, (f k).Timed
  row : a.state.table.row? l.workType = some (.ofLease l)

theorem timed_moved {k : Nat} (hf : ∀ k, (f k).Timed) (hx : x.Timed) (j : Nat) :
    (moved f k x j).Timed := by
  by_cases hj : j = k
  · rw [hj, moved_self]
    exact hx
  · rw [moved_ne f x hj]
    exact hf j

/-- However the calls have gone on, they stand somewhere. -/
theorem exists_stand (o : Office) (run : IsRun Office.answers (assemble calls o) ms) :
    ∃ f, ((assemble calls o).last ms).Stand (Place calls) f ∧ ∀ k, (f k).Timed := by
  refine run.invariant (p := fun a => ∃ f, a.Stand (Place calls) f ∧ ∀ k, (f k).Timed) ?_ ?_
  · refine ⟨_, stand_start calls o, fun k => ?_⟩
    rw [start]
    split
    · rename_i c _
      cases c <;> trivial
    · trivial
  · rintro m - hm ⟨f, hs, ht⟩
    obtain ⟨c, x', -, hstep, hs', -⟩ := exists_step hm hs
    exact ⟨_, hs', timed_moved ht (hstep.timed (ht _)).2⟩

/-- A step that does not end the lease keeps its row. -/
theorem Guarded.step {l : Lease} (h : Guarded calls l m.before f) (hm : m.Lawful Office.answers)
    (hd : l.deadline.Storable) (hl : (LeaseRow.ofLease l).isRunning = true)
    (hends : ¬ m.exchange.question.Ends l) : ∃ f', Guarded calls l m.after f' := by
  obtain ⟨c, x', -, hstep, hs, -⟩ := exists_step hm h.stand
  obtain ⟨hq, hx'⟩ := hstep.timed (h.timed _)
  refine ⟨_, hs, timed_moved h.timed hx', ?_⟩
  exact Office.keeps_row hstep.answers h.row hl fun ht => hends (LeaseStep.ends_of_touches hq hd ht)

/-- While the lease stands, a caller that comes to its acquisition is turned away. -/
theorem Guarded.missed {l : Lease} (h : Guarded calls l m.before f) (hm : m.Lawful Office.answers)
    (hl : (LeaseRow.ofLease l).isRunning = true) {row : LeaseRow}
    (hq : m.exchange.question = .acquire row) (hw : row.workType = l.workType) :
    m.exchange = ⟨.acquire row, .answer (.ok false)⟩ ∧ m.after.state = m.before.state ∧
      m.after.speakers[m.who]? = some (.done (.error (.workInProgress l.workType))) := by
  obtain ⟨c, x', -, hstep, -, d, hd, hx'⟩ := exists_step hm h.stand
  obtain ⟨he, ho, rfl⟩ := hstep.missed hq (hw ▸ h.row) hl
  refine ⟨he, ho, ?_⟩
  rw [hd, hx'.eq_unsettle, hw]
  rfl

/-- Through a run that does not end the lease, its row stays as it is. -/
theorem Guarded.run {a : Assembly LeaseStep Office (Except Fault Uuid)} {l : Lease}
    (run : IsRun Office.answers a ms) (h : ∃ f, Guarded calls l a f) (hd : l.deadline.Storable)
    (hl : (LeaseRow.ofLease l).isRunning = true)
    (hends : ∀ m ∈ ms, ¬ m.exchange.question.Ends l) :
    ∀ m ∈ ms, m.Lawful Office.answers ∧ (∃ f, Guarded calls l m.before f) ∧
      ∃ f, Guarded calls l m.after f :=
  run.invariant_at (p := fun a => ∃ f, Guarded calls l a f) h fun m hm hlaw ⟨_, hg⟩ =>
    hg.step hlaw hd hl (hends m hm)

end LeaseCall

end Sheltering
