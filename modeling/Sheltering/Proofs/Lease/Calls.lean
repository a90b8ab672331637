import Sheltering.Proofs.Lease.Office

/-!
# Calls that take and give back leases

Any number of processes call `Lease.begin` and `Lease.finishWork` with one office. What a call can
do in one step is said once, by `LeaseCall.Step`.

* `LeaseCall`: a call, as a dialogue of lease steps.
* `LeaseCall.Standing`: where a call has got to.
* `LeaseCall.Step`: what a call does in one step, with what the office answers and changes.
* `LeaseCall.exists_step`: every moment of an assembly of calls is a step.
-/

namespace Sheltering

open Dialogue (Exchange ask unsettle)

/-- A call of a process: it takes the lease of a work type, or gives one back. -/
inductive LeaseCall where
  | begin (workType : String) (timeout : Span)
  | finish (id : Uuid) (success : Bool)
deriving DecidableEq, Repr

namespace LeaseCall

/-- What a call does. It answers with the identifier of the lease it took or gave back. -/
def dialogue : LeaseCall → Dialogue LeaseStep (Except Fault Uuid)
  | begin workType timeout => (Lease.begin workType timeout).run
  | finish id success => (do Lease.finishWork id success; pure id : Lease.Steps Uuid).run

/-- What is left of giving back a lease after the clock was read. -/
def closing (id : Uuid) (success : Bool) (t : Instant) : Dialogue LeaseStep (Except Fault Uuid) :=
  ((do let _ ← Lease.close id success t; pure () : Lease.Steps Unit) >>= fun _ => pure id).run

/-- Where a call has got to. -/
inductive Standing where
  | opening (s : Lease.Stage)
  | returning
  | closing (t : Instant)
  | ended (r : Reply (Except Fault Uuid))

/-- A call that has got somewhere is what is left of it there. -/
inductive Stands : LeaseCall → Standing → Dialogue LeaseStep (Except Fault Uuid) → Prop
  | opening {workType : String} {timeout : Span} (s : Lease.Stage) :
    Stands (begin workType timeout) (.opening s) (s.rest workType timeout)
  | returning {id : Uuid} {success : Bool} :
    Stands (finish id success) .returning (dialogue (finish id success))
  | closing {id : Uuid} {success : Bool} (t : Instant) :
    Stands (finish id success) (.closing t) (LeaseCall.closing id success t)
  | ended {c : LeaseCall} (r : Reply (Except Fault Uuid)) : Stands c (.ended r) (unsettle r)

/-- Where a call begins. -/
def first : LeaseCall → Standing
  | begin _ _ => .opening .reading
  | finish _ _ => .returning

theorem stands_first (c : LeaseCall) : Stands c c.first c.dialogue := by
  cases c with
  | begin workType timeout => exact .opening .reading
  | finish id success => exact .returning

/-- A call with no question left is at its end. -/
theorem Stands.ended_inv {c : LeaseCall} {x : Standing} {r : Reply (Except Fault Uuid)}
    {d : Dialogue LeaseStep (Except Fault Uuid)} (h : Stands c x d) (hd : d = unsettle r) :
    x = .ended r := by
  cases h with
  | opening s =>
    rw [Lease.Stage.rest_eq] at hd
    cases r <;> cases hd
  | returning => cases r <;> cases hd
  | closing t => cases r <;> cases hd
  | ended r' =>
    cases r <;> cases r' <;> cases hd
    · rfl
    · rfl

theorem Stands.eq_unsettle {c : LeaseCall} {r : Reply (Except Fault Uuid)}
    {d : Dialogue LeaseStep (Except Fault Uuid)} (h : Stands c (.ended r) d) : d = unsettle r := by
  cases h
  rfl

/-- What a call may do in one step. -/
inductive Step : LeaseCall → Standing → Office → Exchange LeaseStep → Standing → Office → Prop
  /-- The clock is read, and the deadline can be told. -/
  | read {w : String} {timeout : Span} {o : Office} {t deadline : Instant}
      (hnow : o.now ≤ t) (ht : t.Storable) (hd : t.add? timeout = some deadline) :
    Step (begin w timeout) (.opening .reading) o ⟨.now, .answer t⟩
      (.opening (.clearing t deadline)) { o with now := t }
  /-- The clock is read, and the lease would end after the last instant. -/
  | readTooLong {w : String} {timeout : Span} {o : Office} {t : Instant}
      (hnow : o.now ≤ t) (ht : t.Storable) (hd : t.add? timeout = none) :
    Step (begin w timeout) (.opening .reading) o ⟨.now, .answer t⟩
      (.ended (.answer (.error (Lease.Stage.tooLong w timeout)))) { o with now := t }
  | clear {w : String} {timeout : Span} {o : Office} {t deadline : Instant} :
    Step (begin w timeout) (.opening (.clearing t deadline)) o
      ⟨.expire w t, .answer (.ok (o.table.expire w t).1)⟩ (.opening (.drawing t deadline))
      { o with table := (o.table.expire w t).2 }
  | draw {w : String} {timeout : Span} {o : Office} {t deadline : Instant} {id : Uuid}
      (hid : id ∉ o.drawn) :
    Step (begin w timeout) (.opening (.drawing t deadline)) o ⟨.newId, .answer id⟩
      (.opening (.taking id t deadline)) { o with drawn := id :: o.drawn }
  /-- The lease goes in. -/
  | take {w : String} {timeout : Span} {o : Office} {t deadline : Instant} {id : Uuid}
      {table : LeaseTable}
      (h : o.table.acquire (.ofLease (Lease.Stage.lease w id t deadline)) = .ok (true, table)) :
    Step (begin w timeout) (.opening (.taking id t deadline)) o
      ⟨.acquire (.ofLease (Lease.Stage.lease w id t deadline)), .answer (.ok true)⟩
      (.ended (.answer (.ok id))) { o with table }
  /-- Another lease is running. -/
  | miss {w : String} {timeout : Span} {o : Office} {t deadline : Instant} {id : Uuid}
      {table : LeaseTable}
      (h : o.table.acquire (.ofLease (Lease.Stage.lease w id t deadline)) = .ok (false, table)) :
    Step (begin w timeout) (.opening (.taking id t deadline)) o
      ⟨.acquire (.ofLease (Lease.Stage.lease w id t deadline)), .answer (.ok false)⟩
      (.ended (.answer (.error (.workInProgress w)))) { o with table }
  /-- The identifier is that of another work type. -/
  | clash {w : String} {timeout : Span} {o : Office} {t deadline : Instant} {id : Uuid}
      {fault : Fault}
      (h : o.table.acquire (.ofLease (Lease.Stage.lease w id t deadline)) = .error fault) :
    Step (begin w timeout) (.opening (.taking id t deadline)) o
      ⟨.acquire (.ofLease (Lease.Stage.lease w id t deadline)), .answer (.error fault)⟩
      (.ended (.answer (.error fault))) o
  | readAgain {id : Uuid} {success : Bool} {o : Office} {t : Instant}
      (hnow : o.now ≤ t) (ht : t.Storable) :
    Step (finish id success) .returning o ⟨.now, .answer t⟩ (.closing t) { o with now := t }
  | close {id : Uuid} {success : Bool} {o : Office} {t : Instant} :
    Step (finish id success) (.closing t) o
      ⟨.close id success t, .answer (.ok (o.table.close id success t).1)⟩
      (.ended (.answer (.ok id))) { o with table := (o.table.close id success t).2 }

variable {c : LeaseCall} {o o' : Office}

/-- The steps of a call that takes a lease. -/
theorem exists_step_opening {workType : String} {timeout : Span} (s : Lease.Stage)
    {r : Reply (Answer (s.question workType))}
    (h : Office.answers (s.question workType) o r o') :
    ∃ x', Step (begin workType timeout) (.opening s) o ⟨s.question workType, r⟩ x' o' ∧
      Stands (begin workType timeout) x'
        (Lease.Stage.resume workType timeout (s.after workType timeout r)) := by
  cases s with
  | reading =>
    obtain ⟨t, rfl, hnow, ht, rfl⟩ := h
    cases hd : t.add? timeout with
    | none =>
      have he := Lease.Stage.resume_of_add?_eq_none workType timeout hd
      exact ⟨_, .readTooLong hnow ht hd, he ▸ .ended _⟩
    | some deadline =>
      have he := Lease.Stage.resume_of_add?_eq_some workType timeout hd
      exact ⟨_, .read hnow ht hd, he ▸ .opening _⟩
  | clearing start deadline =>
    obtain ⟨rfl, rfl⟩ := h
    exact ⟨_, .clear, .opening _⟩
  | drawing start deadline =>
    obtain ⟨id, rfl, hid, rfl⟩ := h
    exact ⟨_, .draw hid, .opening _⟩
  | taking id start deadline =>
    obtain ⟨taken, table, ha, rfl, rfl⟩ | ⟨fault, ha, rfl, rfl⟩ := h
    · cases taken with
      | true => exact ⟨_, .take ha, .ended _⟩
      | false => exact ⟨_, .miss ha, .ended _⟩
    · exact ⟨_, .clash ha, .ended _⟩

/-- Whatever a call asks, the answer is one of its steps. -/
theorem Stands.exists_step {x : Standing} {q : LeaseStep} {r : Reply (Answer q)}
    {d : Dialogue LeaseStep (Except Fault Uuid)}
    {next : Reply (Answer q) → Dialogue LeaseStep (Except Fault Uuid)} (hx : Stands c x d)
    (hd : d = ask q next) (h : Office.answers q o r o') :
    ∃ x', Step c x o ⟨q, r⟩ x' o' ∧ Stands c x' (next r) := by
  cases hx with
  | opening s =>
    rw [Lease.Stage.rest_eq] at hd
    cases hd
    exact exists_step_opening s h
  | returning =>
    cases hd
    obtain ⟨t, rfl, hnow, ht, rfl⟩ := h
    exact ⟨_, .readAgain hnow ht, .closing t⟩
  | closing t =>
    cases hd
    obtain ⟨rfl, rfl⟩ := h
    exact ⟨_, .close, .ended _⟩
  | ended r =>
    cases r <;> cases hd

/-! ## Assemblies of calls -/

variable {calls : List LeaseCall}

/-- The speaker `k` is the call `k` at a place. -/
def Place (calls : List LeaseCall) (k : Nat) (x : Standing)
    (d : Dialogue LeaseStep (Except Fault Uuid)) : Prop :=
  ∃ c, calls[k]? = some c ∧ Stands c x d

/-- The calls before their first steps. -/
def assemble (calls : List LeaseCall) (o : Office) :
    Assembly LeaseStep Office (Except Fault Uuid) :=
  ⟨calls.map dialogue, o⟩

/-- Where the calls begin. -/
def start (calls : List LeaseCall) (k : Nat) : Standing :=
  match calls[k]? with
  | some c => c.first
  | none => .returning

theorem stand_start (calls : List LeaseCall) (o : Office) :
    (assemble calls o).Stand (Place calls) (start calls) := by
  intro k d hd
  rw [assemble, List.getElem?_map, Option.map_eq_some_iff] at hd
  obtain ⟨c, hc, rfl⟩ := hd
  refine ⟨c, hc, ?_⟩
  rw [start, hc]
  exact stands_first c

/-- Every moment is a step of a call, and nobody else moves. -/
theorem exists_step {m : Moment LeaseStep Office (Except Fault Uuid)} {f : Nat → Standing}
    (h : m.Lawful Office.answers) (hs : m.before.Stand (Place calls) f) :
    ∃ c x', calls[m.who]? = some c ∧
      Step c (f m.who) m.before.state m.exchange x' m.after.state ∧
      m.after.Stand (Place calls) (moved f m.who x') ∧
      ∃ d, m.after.speakers[m.who]? = some d ∧ Stands c x' d := by
  obtain ⟨next, ⟨c, hc, hx⟩, hafter, ha, hmove⟩ := h.stand hs
  obtain ⟨x', hstep, hx'⟩ := hx.exists_step rfl ha
  exact ⟨c, x', hc, hstep, hmove x' ⟨c, hc, hx'⟩, _, hafter, hx'⟩

end LeaseCall

end Sheltering
