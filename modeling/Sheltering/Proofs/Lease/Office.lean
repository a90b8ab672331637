import Sheltering.Proofs.Dialogue.Assembly
import Sheltering.Proofs.Instant.Stored
import Sheltering.Proofs.Lease.Stage
import Sheltering.Proofs.Lease.Table
import Sheltering.Proofs.Uuid

/-!
# Processes that share a table of leases

* `Office`: the table, the clock, and the identifiers drawn so far.
* `Office.answers`: a statement is executed at once, the clock does not go back, and no identifier
  is drawn twice.
* `LeaseStep.Ends`: the two steps that may end a lease.
* `Office.keeps_row`: no other step changes a running row.
* `Office.still`: an office that answers so, with a clock that stands still.
-/

namespace Sheltering

/-- What processes that work with leases have in common. -/
structure Office where
  table : LeaseTable
  now : Instant
  drawn : List Uuid

namespace Office

/-- How each step is answered, and what it changes. -/
def answers : Conduct LeaseStep Office
  | .now, o, r, o' => ∃ t, r = .answer t ∧ o.now ≤ t ∧ t.Storable ∧ o' = { o with now := t }
  | .newId, o, r, o' => ∃ id, r = .answer id ∧ id ∉ o.drawn ∧ o' = { o with drawn := id :: o.drawn }
  | .expire workType now, o, r, o' =>
    r = .answer (.ok (o.table.expire workType now).1) ∧
      o' = { o with table := (o.table.expire workType now).2 }
  | .acquire row, o, r, o' =>
    (∃ taken table, o.table.acquire row = .ok (taken, table) ∧ r = .answer (.ok taken) ∧
      o' = { o with table }) ∨
    ∃ fault, o.table.acquire row = .error fault ∧ r = .answer (.error fault) ∧ o' = o
  | .close id success now, o, r, o' =>
    r = .answer (.ok (o.table.close id success now).1) ∧
      o' = { o with table := (o.table.close id success now).2 }

end Office

namespace LeaseStep

/-- The step ends a lease: it closes it, or its instant is at the deadline or after it. -/
def Ends (l : Lease) : LeaseStep → Prop
  | expire workType t => workType = l.workType ∧ t.Reaches l.deadline
  | close id _ _ => id = l.id
  | _ => False

/-- The step changes a running row: it closes its identifier, or it finds its deadline passed, as
text says. -/
def Touches (r : LeaseRow) : LeaseStep → Prop
  | expire workType t => workType = r.workType ∧ r.deadline ≤ t.stored
  | close id _ _ => r.id = id.text
  | _ => False

/-- The instant of a statement that compares deadlines can be stored. -/
def Timed : LeaseStep → Prop
  | expire _ t => t.Storable
  | _ => True

/-- The steps that touch the row of a lease are those that end it. -/
theorem ends_of_touches {l : Lease} {q : LeaseStep} (hq : q.Timed) (hd : l.deadline.Storable)
    (h : q.Touches (.ofLease l)) : q.Ends l := by
  cases q with
  | expire w t => exact ⟨h.1, (Instant.stored_le_iff_reaches hd hq).mp h.2⟩
  | close id success t => exact (Uuid.text_inj.mp h).symm
  | _ => exact h

end LeaseStep

namespace Office

variable {q : LeaseStep} {o o' : Office}

variable {w : String} {r : LeaseRow}

theorem row?_of_acquire {row : LeaseRow} {reply : Reply (Answer (LeaseStep.acquire row))}
    (h : answers (.acquire row) o reply o') (hrow : o.table.row? w = some r)
    (hr : r.isRunning = true) : o'.table.row? w = some r := by
  by_cases hw : w = row.workType
  · subst hw
    have hacq := LeaseTable.acquire_of_running hrow hr
    obtain ⟨taken, table, ha, -, rfl⟩ | ⟨fault, ha, -, rfl⟩ := h
    · rw [hacq] at ha
      cases ha
      exact hrow
    · exact hrow
  · obtain ⟨taken, table, ha, -, rfl⟩ | ⟨fault, ha, -, rfl⟩ := h
    · obtain ⟨-, rfl⟩ | ⟨-, ha⟩ := LeaseTable.acquire_cases ha
      · exact hrow
      · exact (ha.other w hw).trans hrow
    · exact hrow

/-- No step but those that touch it changes a running row. -/
theorem keeps_row {reply : Reply (Answer q)} (h : answers q o reply o')
    (hrow : o.table.row? w = some r) (hr : r.isRunning = true) (hq : ¬ q.Touches r) :
    o'.table.row? w = some r := by
  cases q with
  | now =>
    obtain ⟨t, -, -, -, rfl⟩ := h
    exact hrow
  | newId =>
    obtain ⟨id, -, -, rfl⟩ := h
    exact hrow
  | expire w' t =>
    obtain ⟨-, rfl⟩ := h
    refine LeaseTable.row?_expire_of_lt hrow fun hw hle => hq ⟨?_, hle⟩
    rw [hw, LeaseTable.workType_of_row? hrow]
  | acquire row => exact row?_of_acquire h hrow hr
  | close id success t =>
    obtain ⟨-, rfl⟩ := h
    exact LeaseTable.row?_close_of_ne hrow hq

theorem now_le {reply : Reply (Answer q)} (h : answers q o reply o') : o.now ≤ o'.now := by
  cases q with
  | now =>
    obtain ⟨t, -, hnow, -, rfl⟩ := h
    exact hnow
  | newId =>
    obtain ⟨id, -, -, rfl⟩ := h
    exact Instant.le_refl _
  | expire w t =>
    obtain ⟨-, rfl⟩ := h
    exact Instant.le_refl _
  | acquire row =>
    obtain ⟨taken, table, -, -, rfl⟩ | ⟨fault, -, -, rfl⟩ := h <;> exact Instant.le_refl _
  | close id success t =>
    obtain ⟨-, rfl⟩ := h
    exact Instant.le_refl _

theorem drawn_subset {reply : Reply (Answer q)} (h : answers q o reply o') {id : Uuid}
    (hid : id ∈ o.drawn) : id ∈ o'.drawn := by
  cases q with
  | now =>
    obtain ⟨t, -, -, -, rfl⟩ := h
    exact hid
  | newId =>
    obtain ⟨id', -, -, rfl⟩ := h
    exact List.mem_cons_of_mem _ hid
  | expire w t =>
    obtain ⟨-, rfl⟩ := h
    exact hid
  | acquire row =>
    obtain ⟨taken, table, -, -, rfl⟩ | ⟨fault, -, -, rfl⟩ := h <;> exact hid
  | close id success t =>
    obtain ⟨-, rfl⟩ := h
    exact hid

/-- An office that executes every statement. Its clock stands still, and it numbers the identifiers.
-/
def still : Dialogue.Surroundings LeaseStep Office
  | .now, o => (.answer o.now, o)
  | .newId, o =>
    let id : Uuid := ⟨BitVec.ofNat 128 o.drawn.length⟩
    (.answer id, { o with drawn := id :: o.drawn })
  | .expire workType now, o =>
    let (n, table) := o.table.expire workType now
    (.answer (.ok n), { o with table })
  | .acquire row, o =>
    match o.table.acquire row with
    | .ok (taken, table) => (.answer (.ok taken), { o with table })
    | .error fault => (.answer (.error fault), o)
  | .close id success now, o =>
    let (n, table) := o.table.close id success now
    (.answer (.ok n), { o with table })

theorem answers_still (hnow : o.now.Storable)
    (hfresh : (⟨BitVec.ofNat 128 o.drawn.length⟩ : Uuid) ∉ o.drawn) (q : LeaseStep) :
    answers q o (still q o).1 (still q o).2 := by
  cases q with
  | now => exact ⟨o.now, rfl, Instant.le_refl _, hnow, rfl⟩
  | newId => exact ⟨_, rfl, hfresh, rfl⟩
  | expire w t => exact ⟨rfl, rfl⟩
  | acquire row =>
    cases h : o.table.acquire row with
    | ok p => exact .inl ⟨p.1, p.2, h, by simp [still, h], by simp [still, h]⟩
    | error fault => exact .inr ⟨fault, h, by simp [still, h], by simp [still, h]⟩
  | close id success t => exact ⟨rfl, rfl⟩

end Office

end Sheltering
