import Sheltering.Proofs.Instant.Signed
import Sheltering.Proofs.Lease.Book

/-!
# Deadlines are honoured between the years 0 and 9999

A deadline is stored as text, and whether it has passed is decided by comparing text. A deadline
outside the years 0 to 9999 is accepted like any other, but then its lease cannot be read back, and
the sign of its year makes it stand before every reading of the clock.

* `LeaseTable.Runs`: a work type has one row, and it is running.
* `LeaseDesk.Clears`: a call for a lease ends the one that was there.
* `LeaseDesk.Honours`: the lease of a work type is found with its deadline, is ended once that has
  passed, and keeps others out until then.
* `LeaseDesk.begin_honours_iff`: a deadline is honoured if it, the reading of the clock when the
  lease was taken, and the later reading have years without a sign. Otherwise it is not.
-/

namespace Sheltering

open Dialogue (run)

/-! ## Rows -/

theorem exists_of_bind_eq_ok {ε α β : Type} {x : Except ε α} {f : α → Except ε β} {b : β}
    (h : x >>= f = .ok b) : ∃ a, x = .ok a ∧ f a = .ok b := by
  cases x with
  | error fault => cases h
  | ok a => exact ⟨a, rfl, h⟩

/-- The start and the deadline of a row that is read are read. -/
theorem LeaseRow.instants_of_read {r : LeaseRow} {l : Lease} (h : r.read = .ok l) :
    Column.instant r.start = .ok l.start ∧ Column.instant r.deadline = .ok l.deadline := by
  rw [read] at h
  split at h
  · obtain ⟨status, -, h⟩ := exists_of_bind_eq_ok h
    obtain ⟨id, -, h⟩ := exists_of_bind_eq_ok h
    obtain ⟨start, hstart, h⟩ := exists_of_bind_eq_ok h
    obtain ⟨finish, -, h⟩ := exists_of_bind_eq_ok h
    obtain ⟨deadline, hdeadline, h⟩ := exists_of_bind_eq_ok h
    cases h
    exact ⟨hstart, hdeadline⟩
  · cases h

/-- The row of a lease that was taken between the years 0 and 9999, with its deadline, is read cut
to microseconds. -/
theorem LeaseRow.read_lease {w : String} {id : Uuid} {start deadline : Instant}
    (hstart : start.Storable) (hdeadline : deadline.Storable) :
    (ofLease (Lease.Stage.lease w id start deadline)).read =
      .ok (Lease.Stage.lease w id start.toMicros deadline.toMicros) := by
  have hrow : ofLease (Lease.Stage.lease w id start deadline) =
      ofLease (Lease.Stage.lease w id start.toMicros deadline.toMicros) := by
    simp only [Lease.Stage.lease, ofLease, Instant.stored_toMicros, Option.map_none]
  rw [hrow]
  refine read_ofLease ⟨hstart.isStamp, fun t hfinish => ?_, hdeadline.isStamp⟩
  exact absurd hfinish (Option.some_ne_none t).symm

namespace LeaseTable

/-- A work type has one row, and it is running. -/
structure Runs (t : LeaseTable) (w : String) (r : LeaseRow) : Prop where
  row : t.row? w = some r
  only : ∀ r' ∈ t.rows, r'.workType = w → r' = r
  running : r.isRunning = true

variable {t t' : LeaseTable} {w : String} {r row : LeaseRow} {now : Instant}

/-- A row that was put in is the one of its work type. -/
theorem runs_of_acquire (h : t.acquire row = .ok (true, t')) (hr : row.isRunning = true) :
    t'.Runs row.workType row := by
  obtain ⟨hf, -⟩ | ⟨-, hacquired⟩ := acquire_cases h
  · cases hf
  · exact ⟨hacquired.self, fun r' hr' hw => eq_of_acquire h hr' hw, hr⟩

namespace Runs

theorem get?_eq (h : t.Runs w r) : t.get? w = r.read.map some := by
  have hrow : t.rows.find? (·.workType == w) = some r := h.row
  rw [get?, hrow, Option.mapM_some]
  rfl

theorem read_of_get? {l : Lease} (h : t.Runs w r) (hget : t.get? w = .ok (some l)) :
    r.read = .ok l := by
  rw [h.get?_eq] at hget
  cases hread : r.read with
  | error fault =>
    rw [hread] at hget
    cases hget
  | ok l' =>
    rw [hread] at hget
    cases hget
    rfl

/-- The row is ended if its deadline stands at the reading of the clock or before it. -/
theorem expire_pos_iff (h : t.Runs w r) : 0 < (t.expire w now).1 ↔ r.deadline ≤ now.stored := by
  rw [expire, update, List.countP_pos_iff]
  simp only [Bool.and_eq_true, beq_iff_eq, decide_eq_true_eq]
  constructor
  · rintro ⟨r', hr', ⟨hw, -⟩, hpast⟩
    rwa [h.only r' hr' hw] at hpast
  · intro hpast
    exact ⟨r, mem_of_row? h.row, ⟨workType_of_row? h.row, h.running⟩, hpast⟩

/-- The row keeps others out as long as it is not ended. -/
theorem missed_iff (h : t.Runs w r) (hw : row.workType = w) :
    (∃ t', (t.expire w now).2.acquire row = .ok (false, t')) ↔ ¬ r.deadline ≤ now.stored := by
  subst hw
  constructor
  · rintro ⟨t', hmissed⟩ hpast
    have hfree : (t.expire row.workType now).2.Free row.workType :=
      free_expire fun r' hr' hw _ => h.only r' hr' hw ▸ hpast
    exact absurd (hfree.taken hmissed) Bool.false_ne_true
  · intro hahead
    exact ⟨_, acquire_of_running (row?_expire_of_lt h.row fun _ => hahead) h.running⟩

end Runs

end LeaseTable

/-! ## Calls -/

namespace LeaseDesk

/-- The desk at a reading of the clock. -/
def reading (desk : LeaseDesk) (now : Instant) : LeaseDesk := { desk with now }

/-- A call for a lease ends the one that was there. -/
def Clears (bits : Nat → Nat) (desk : LeaseDesk) (w : String) (timeout : Span) : Prop :=
  ∃ n, 0 < n ∧ ⟨.expire w desk.now, .answer (.ok n)⟩ ∈
    (run (surroundings bits) (Lease.begin w timeout).run desk).exchanges

/-- The deadline of the lease of a work type is honoured at a reading of the clock. -/
structure Honours (bits : Nat → Nat) (desk : LeaseDesk) (w : String) (deadline now : Instant) :
    Prop where
  /-- The lease is found with its deadline, and the next call ends it if and only if that has
  passed. -/
  found : ∃ l, desk.table.get? w = .ok (some l) ∧ l.deadline = deadline.toMicros ∧
    ∀ timeout, (now.add? timeout).isSome →
      ((desk.reading now).Clears bits w timeout ↔ l.isStale now = true)
  /-- The next call is turned away if and only if the deadline lies ahead. -/
  refused : ∀ timeout, (now.add? timeout).isSome →
    (((desk.reading now).serve bits (.begin w timeout)).1 =
      .begun (.answer (.error (.workInProgress w))) ↔ ¬ now.Reaches deadline)

variable (bits : Nat → Nat) (desk : LeaseDesk) {w : String} {timeout : Span}
  {start deadline now : Instant} {id : Uuid}

theorem clears_iff (h : desk.now.add? timeout = some deadline) :
    desk.Clears bits w timeout ↔ 0 < (desk.table.expire w desk.now).1 := by
  rw [Clears, run_begin h rfl]
  constructor
  · rintro ⟨n, hn, hmem⟩
    simp only [List.mem_cons, List.not_mem_nil, or_false] at hmem
    rcases hmem with hmem | hmem | hmem | hmem <;> cases hmem
    exact hn
  · intro hn
    exact ⟨_, hn, .tail _ (.head _)⟩

/-- A caller is told that work is in progress if the acquisition answers so, and only then. -/
theorem refused_iff (h : desk.now.add? timeout = some deadline) :
    (desk.serve bits (.begin w timeout)).1 = .begun (.answer (.error (.workInProgress w))) ↔
      ∃ table, (desk.table.expire w desk.now).2.acquire (desk.rowUntil bits w deadline) =
        .ok (false, table) := by
  rw [serve, outcome, run_begin h rfl]
  cases ha : (desk.table.expire w desk.now).2.acquire (desk.rowUntil bits w deadline) with
  | error fault =>
    obtain rfl := LeaseTable.acquire_fault ha
    simp [told]
  | ok answer =>
    obtain ⟨taken, table⟩ := answer
    cases taken <;> simp [told]

variable {bits desk}

/-- A lease that runs is honoured if its instants and the reading of the clock have years without
a sign, and only then. -/
theorem honours_iff_of_runs
    (h : desk.table.Runs w (.ofLease (Lease.Stage.lease w id start deadline)))
    (hstart : start.Valid) (hdeadline : deadline.Valid) (hnow : now.Valid)
    (hcalendar : now.InCalendar) (hlater : start ≤ now) :
    desk.Honours bits w deadline now ↔ start.Storable ∧ deadline.Storable ∧ now.Storable := by
  constructor
  · rintro ⟨⟨l, hfound, -, -⟩, hrefused⟩
    obtain ⟨hs, hd⟩ := LeaseRow.instants_of_read (h.read_of_get? hfound)
    have hstart := Instant.storable_of_read hstart hs
    have hdeadline := Instant.storable_of_read hdeadline hd
    refine ⟨hstart, hdeadline, Instant.storable_iff.mpr ⟨hnow, ?_, Int.not_le.mp fun hlate => ?_⟩⟩
    · obtain ⟨-, hlow, -⟩ := Instant.storable_iff.mp hstart
      rw [Instant.le_def] at hlater
      omega
    · -- A late reading stands before the deadline as text, although it comes after it.
      have hahead : ¬ deadline.stored ≤ now.stored :=
        String.not_le.mpr (Instant.stored_lt_of_late hdeadline hlate)
      have hreaches : now.Reaches deadline := by
        obtain ⟨-, -, hhigh⟩ := Instant.storable_iff.mp hdeadline
        exact Instant.reaches_iff_le.mpr (.inl (Int.lt_of_lt_of_le hhigh hlate))
      have hzero := Instant.add?_zero hnow hcalendar
      refine (hrefused ⟨0⟩ (hzero ▸ rfl)).mp ?_ hreaches
      exact (refused_iff bits (desk.reading now) hzero).mpr ((h.missed_iff rfl).mpr hahead)
  · rintro ⟨hstart, hdeadline, hnow⟩
    have hpast : deadline.stored ≤ now.stored ↔ now.Reaches deadline :=
      Instant.stored_le_iff_reaches hdeadline hnow
    have hfound : desk.table.get? w =
        .ok (some (Lease.Stage.lease w id start.toMicros deadline.toMicros)) := by
      rw [h.get?_eq, LeaseRow.read_lease hstart hdeadline]
      rfl
    refine ⟨⟨_, hfound, rfl, fun timeout hadd => ?_⟩, fun timeout hadd => ?_⟩
    · obtain ⟨next, hnext⟩ := Option.isSome_iff_exists.mp hadd
      rw [clears_iff bits (desk.reading now) hnext]
      refine h.expire_pos_iff.trans (hpast.trans ?_)
      rw [Instant.reaches_iff_le]
      exact decide_eq_true_iff.symm
    · obtain ⟨next, hnext⟩ := Option.isSome_iff_exists.mp hadd
      rw [refused_iff bits (desk.reading now) hnext]
      exact (h.missed_iff rfl).trans (not_congr hpast)

/-- A lease that is free is granted until any instant of the calendar. -/
theorem serve_begin_of_free (hfree : desk.table.Free w)
    (hfresh : ∀ r ∈ desk.table.rows, r.id ≠ (Uuid.drawn (bits desk.drawn)).text)
    (hadd : desk.now.add? timeout = some deadline) : ∃ table : LeaseTable,
      table.Runs w (desk.rowUntil bits w deadline) ∧
      desk.serve bits (.begin w timeout) = (.begun (.answer (.ok (Uuid.drawn (bits desk.drawn)))),
        { desk with table, drawn := desk.drawn + 1 }) := by
  have hput : ∃ table, desk.table.acquire (desk.rowUntil bits w deadline) = .ok (true, table) :=
    LeaseTable.acquire_of_free hfree fun r hr hid => absurd hid (hfresh r hr)
  obtain ⟨table, ha⟩ := hput
  exact ⟨table, LeaseTable.runs_of_acquire ha rfl,
    serve_begin_of_some hadd (hfree.expire_eq.symm ▸ ha)⟩

/-- A call for a lease that is free is granted for every timeout that does not lead beyond the last
instant. Its deadline is honoured ever after, as long as the reading of the clock when the lease was
taken, the deadline and the later reading lie between the years 0 and 9999. If one of them does not,
the deadline is not honoured. -/
theorem begin_honours_iff (bits : Nat → Nat) (desk : LeaseDesk) (w : String) (timeout : Span)
    (hvalid : desk.now.Valid) (hfree : desk.table.Free w)
    (hfresh : ∀ r ∈ desk.table.rows, r.id ≠ (Uuid.drawn (bits desk.drawn)).text) :
    ((∃ id, (desk.serve bits (.begin w timeout)).1 = .begun (.answer (.ok id))) ↔
      (desk.now.add? timeout).isSome) ∧
    ∀ deadline, desk.now.add? timeout = some deadline →
      ∀ later, later.Valid → later.InCalendar → desk.now ≤ later →
        ((desk.serve bits (.begin w timeout)).2.Honours bits w deadline later ↔
          desk.now.Storable ∧ deadline.Storable ∧ later.Storable) := by
  constructor
  · constructor
    · rintro ⟨id, hserve⟩
      cases hadd : desk.now.add? timeout with
      | none =>
        rw [serve_begin_of_none hadd] at hserve
        cases hserve
      | some deadline => rfl
    · intro hadd
      obtain ⟨deadline, hadd⟩ := Option.isSome_iff_exists.mp hadd
      obtain ⟨table, -, hserve⟩ := serve_begin_of_free hfree hfresh hadd
      exact ⟨_, congrArg Prod.fst hserve⟩
  · intro deadline hadd later hlater hcalendar hle
    obtain ⟨table, hruns, hserve⟩ := serve_begin_of_free hfree hfresh hadd
    rw [hserve]
    exact honours_iff_of_runs hruns hvalid (hvalid.add? hadd) hlater hcalendar hle

end LeaseDesk

namespace Minute

/-- A lease of a minute that has ended, beside one that runs. -/
def desk : LeaseDesk where
  table := ⟨[.ofLease ⟨Uuid.drawn 0, "sweep", .succeeded, ⟨1704067200, 0⟩,
      some ⟨1704067230, 0⟩, ⟨1704067260, 0⟩⟩,
    .ofLease ⟨Uuid.drawn 1, "resolve", .running, ⟨1704067200, 0⟩, none, ⟨1704067230, 0⟩⟩]⟩
  now := ⟨1704067300, 250⟩
  drawn := 2

/-- The next lease is honoured in its last microsecond, and at its deadline, a nanosecond late. -/
theorem is_honoured :
    desk.now.Valid ∧ desk.table.Free "sweep" ∧
      (∀ r ∈ desk.table.rows, r.id ≠ (Uuid.drawn desk.drawn).text) ∧
      (desk.serve id (.begin "sweep" (.ofSeconds 60))).2.Honours id "sweep" ⟨1704067360, 250⟩
        ⟨1704067359, 999999999⟩ ∧
      (desk.serve id (.begin "sweep" (.ofSeconds 60))).2.Honours id "sweep" ⟨1704067360, 250⟩
        ⟨1704067360, 251⟩ := by
  have hfree : desk.table.Free "sweep" := by
    unfold LeaseTable.Free
    decide +kernel
  have hfresh : ∀ r ∈ desk.table.rows, r.id ≠ (Uuid.drawn desk.drawn).text := by decide +kernel
  have honoured := (LeaseDesk.begin_honours_iff id desk "sweep" (.ofSeconds 60) (by decide) hfree
    hfresh).2 ⟨1704067360, 250⟩ (by decide +kernel)
  exact ⟨by decide, hfree, hfresh,
    (honoured _ (by decide) (by decide) (by decide)).mpr (by decide +kernel),
    (honoured _ (by decide) (by decide) (by decide)).mpr (by decide +kernel)⟩

end Minute

namespace Overlong

/-- A lease is taken for eight thousand years. -/
def taken : DeskReply × LeaseDesk :=
  LeaseDesk.serve id ⟨{}, ⟨1704067200, 0⟩, 0⟩ (.begin "sweep" (.ofSeconds 252455616000))

/-- The lease is granted, and its deadline lies ahead. Yet it cannot be read, and the next call is
granted as well. -/
theorem is_lost :
    taken.1 = .begun (.answer (.ok (Uuid.drawn 0))) ∧
      (Instant.mk 1704067200 0).add? (.ofSeconds 252455616000) = some ⟨254159683200, 0⟩ ∧
      ¬ taken.2.now.Reaches ⟨254159683200, 0⟩ ∧
      taken.2.table.get? "sweep" =
        .error (.serialization "invalid timestamp +10024-01-01T00:00:00.000000Z") ∧
      (taken.2.serve id (.begin "sweep" (.ofSeconds 60))).1 =
        .begun (.answer (.ok (Uuid.drawn 1))) :=
  ⟨rfl, by decide +kernel, by decide +kernel, rfl, rfl⟩

end Overlong

end Sheltering
