import Sheltering.Proofs.Dialogue.Conduct
import Sheltering.Proofs.Lease.Reading
import Sheltering.Proofs.Lease.Stage

/-!
# A table of leases as a map

Calls are made one after the other to a desk, and its clock is set at will. What they answer and
what they leave behind is said by a map from work types to leases, in which nothing is text.

* `DeskCall`, `DeskReply`, `LeaseDesk.serve`: the calls, and how a desk answers them.
* `LeaseBook`: the map. `LeaseBook.Held`: the lease of a work type keeps all others out.
* `LeaseBook.Serves`: what a call answers and what it changes in the map.
* `LeaseDesk.IsBooked`: the table of a desk holds the map.
* `Service.Booked`: a call goes as the map says. `LeaseDesk.IsBooked.booked`: so does every call to
  a desk whose table holds the map.
* `desk_keeps_book`: so does every call of a sequence to a desk whose table was empty.
-/

namespace Sheltering

open Dialogue (Run run)

/-! ## Calls -/

/-- A call to a desk, or a move of its clock. -/
inductive DeskCall where
  | begin (workType : String) (timeout : Span)
  | finish (id : Uuid) (success : Bool)
  | get (workType : String)
  | list
  | setClock (now : Instant)
deriving DecidableEq, Repr

/-- What a call is answered with. -/
inductive DeskReply where
  | begun (r : Reply (Except Fault Uuid))
  | finished (r : Reply (Except Fault Unit))
  | found (r : Except Fault (Option Lease))
  | listed (r : Except Fault (List Lease))
  | clockSet

namespace LeaseDesk

variable {α : Type} (bits : Nat → Nat) (desk : LeaseDesk)

/-- How a dialogue with the desk ends, and the desk after it. -/
def outcome (d : Dialogue LeaseStep α) : Reply α × LeaseDesk :=
  let held := run (surroundings bits) d desk
  (held.ending, held.state)

/-- Answers a call. -/
def serve : DeskCall → DeskReply × LeaseDesk
  | .begin workType timeout =>
    let (ending, after) := desk.outcome bits (Lease.begin workType timeout).run
    (.begun ending, after)
  | .finish id success =>
    let (ending, after) := desk.outcome bits (Lease.finishWork id success).run
    (.finished ending, after)
  | .get workType => (.found (desk.table.get? workType), desk)
  | .list => (.listed desk.table.list, desk)
  | .setClock now => (.clockSet, { desk with now })

/-- The row of the lease that is put in until an instant. -/
def rowUntil (workType : String) (deadline : Instant) : LeaseRow :=
  .ofLease (Lease.Stage.lease workType (Uuid.drawn (bits desk.drawn)) desk.now deadline)

/-- What the caller of a lease is told, by how the acquisition went. -/
def told (workType : String) (id : Uuid) : Except Fault (Bool × LeaseTable) → Except Fault Uuid
  | .ok (true, _) => .ok id
  | .ok (false, _) => .error (.workInProgress workType)
  | .error fault => .error fault

/-- The desk when a lease is about to be put in. -/
def cleared (workType : String) : LeaseDesk :=
  ⟨(desk.table.expire workType desk.now).2, desk.now, desk.drawn + 1⟩

/-- The desk after an acquisition. -/
def acquired : Except Fault (Bool × LeaseTable) → LeaseDesk
  | .ok (_, table) => { desk with table }
  | .error _ => desk

/-- A stage asks the desk, and goes on after the reply. -/
theorem run_rest (w : String) (timeout : Span) (s : Lease.Stage)
    {r : Reply (Answer (s.question w))} {after : LeaseDesk}
    {rest : Run LeaseStep LeaseDesk (Except Fault Uuid)}
    (hask : surroundings bits (s.question w) desk = (r, after))
    (hrest : run (surroundings bits) (Lease.Stage.resume w timeout (s.after w timeout r)) after =
      rest) :
    run (surroundings bits) (s.rest w timeout) desk =
      { rest with exchanges := ⟨s.question w, r⟩ :: rest.exchanges } := by
  subst hrest
  rw [Lease.Stage.rest_eq, run, hask]

variable {bits desk} {w : String} {timeout : Span} {deadline : Instant} {table : LeaseTable}

/-- No lease is taken beyond the last instant. -/
theorem serve_begin_of_none (h : desk.now.add? timeout = none) :
    desk.serve bits (.begin w timeout) =
      (.begun (.answer (.error (Lease.Stage.tooLong w timeout))), desk) := by
  have hrun := run_rest bits desk w timeout .reading rfl
    (congrArg (run (surroundings bits) · desk) (Lease.Stage.resume_of_add?_eq_none w timeout h))
  have hend : desk.outcome bits (Lease.begin w timeout).run =
      (.answer (.error (Lease.Stage.tooLong w timeout)), desk) :=
    congrArg (fun held => (held.ending, held.state)) hrun
  rw [serve, hend]

/-- A call for a lease, exchange by exchange. -/
theorem run_begin {acquisition : Except Fault (Bool × LeaseTable)}
    (h : desk.now.add? timeout = some deadline)
    (ha : (desk.table.expire w desk.now).2.acquire (desk.rowUntil bits w deadline) = acquisition) :
    run (surroundings bits) (Lease.begin w timeout).run desk =
      { exchanges := [⟨.now, .answer desk.now⟩,
          ⟨.expire w desk.now, .answer (.ok (desk.table.expire w desk.now).1)⟩,
          ⟨.newId, .answer (Uuid.drawn (bits desk.drawn))⟩,
          ⟨.acquire (desk.rowUntil bits w deadline), .answer (acquisition.map Prod.fst)⟩]
        ending := .answer (told w (Uuid.drawn (bits desk.drawn)) acquisition)
        state := (desk.cleared w).acquired acquisition } := by
  have hask : surroundings bits (.acquire (desk.rowUntil bits w deadline)) (desk.cleared w) =
      (.answer (acquisition.map Prod.fst), (desk.cleared w).acquired acquisition) := by
    rw [surroundings, cleared, ha]
    cases acquisition <;> rfl
  have hend : run (surroundings bits) (Lease.Stage.resume w timeout (Lease.Stage.after w timeout
      (.taking (Uuid.drawn (bits desk.drawn)) desk.now deadline)
      (.answer (acquisition.map Prod.fst)))) ((desk.cleared w).acquired acquisition) =
      ⟨[], .answer (told w (Uuid.drawn (bits desk.drawn)) acquisition),
        (desk.cleared w).acquired acquisition⟩ := by
    rcases acquisition with _ | ⟨_ | _, _⟩ <;> rfl
  -- From the last question back to the first.
  have htake := run_rest bits (desk.cleared w) w timeout (.taking _ desk.now deadline) hask hend
  have hdraw := run_rest bits ⟨(desk.table.expire w desk.now).2, desk.now, desk.drawn⟩ w timeout
    (.drawing desk.now deadline) rfl htake
  have hclear := run_rest bits desk w timeout (.clearing desk.now deadline) rfl hdraw
  have hread := (congrArg (run (surroundings bits) · desk)
    (Lease.Stage.resume_of_add?_eq_some w timeout h)).trans hclear
  exact run_rest bits desk w timeout .reading rfl hread

/-- A lease is taken if its row goes in after the one whose deadline has passed was ended. -/
theorem serve_begin_of_some {taken : Bool} (h : desk.now.add? timeout = some deadline)
    (ha : (desk.table.expire w desk.now).2.acquire (desk.rowUntil bits w deadline) =
      .ok (taken, table)) :
    desk.serve bits (.begin w timeout) = (.begun (.answer (if taken then
      .ok (Uuid.drawn (bits desk.drawn)) else .error (.workInProgress w))),
      { desk with table, drawn := desk.drawn + 1 }) := by
  rw [serve, outcome, run_begin h ha]
  cases taken <;> rfl

end LeaseDesk

/-! ## The map -/

/-- What is known of every work type: its last lease, if it ever had one. Instants are cut to
microseconds. `drawn` counts the identifiers drawn. -/
structure LeaseBook where
  entry : String → Option Lease
  now : Instant
  drawn : Nat

namespace LeaseBook

/-- Nothing is known of any work type. -/
def blank (now : Instant) : LeaseBook := ⟨fun _ => none, now, 0⟩

/-- The lease of the work type runs, and its deadline has not been reached, to the microsecond. -/
def Held (b : LeaseBook) (workType : String) : Prop :=
  ∃ l, b.entry workType = some l ∧ l.status = .running ∧ ¬ b.now.Reaches l.deadline

/-- The identifier that is drawn next. -/
def nextId (bits : Nat → Nat) (b : LeaseBook) : Uuid := Uuid.drawn (bits b.drawn)

/-- An identifier is drawn. -/
def draw (b : LeaseBook) : LeaseBook := { b with drawn := b.drawn + 1 }

/-- The lease becomes that of its work type. -/
def put (b : LeaseBook) (l : Lease) : LeaseBook :=
  { b with entry := moved b.entry l.workType (some l) }

/-- The lease with an identifier ends, whichever work type it is of. -/
def close (b : LeaseBook) (id : Uuid) (success : Bool) : LeaseBook :=
  { b with entry := fun workType => (b.entry workType).map fun l =>
      if l.id = id then
        { l with status := .finished success, finish := some b.now.toMicros }
      else l }

/-- The lease that is taken until an instant. -/
def newLease (bits : Nat → Nat) (b : LeaseBook) (workType : String) (deadline : Instant) :
    Lease where
  id := b.nextId bits
  workType
  status := .running
  start := b.now.toMicros
  finish := none
  deadline := deadline.toMicros

/-- What a call answers, and what is known after it. -/
inductive Serves (bits : Nat → Nat) (b : LeaseBook) : DeskCall → DeskReply → LeaseBook → Prop
  /-- No lease keeps others out, and the new one is put in. -/
  | took {w : String} {timeout : Span} {deadline : Instant}
      (hd : b.now.add? timeout = some deadline) (hfree : ¬ b.Held w) :
    Serves bits b (.begin w timeout) (.begun (.answer (.ok (b.nextId bits))))
      (b.draw.put (b.newLease bits w deadline))
  /-- A lease keeps others out. -/
  | missed {w : String} {timeout : Span} {deadline : Instant}
      (hd : b.now.add? timeout = some deadline) (hheld : b.Held w) :
    Serves bits b (.begin w timeout) (.begun (.answer (.error (.workInProgress w)))) b.draw
  /-- The lease would end after the last instant. -/
  | tooLong {w : String} {timeout : Span} (hd : b.now.add? timeout = none) :
    Serves bits b (.begin w timeout) (.begun (.answer (.error (Lease.Stage.tooLong w timeout)))) b
  | finished {id : Uuid} {success : Bool} :
    Serves bits b (.finish id success) (.finished (.answer (.ok ()))) (b.close id success)
  | found {w : String} : Serves bits b (.get w) (.found (.ok (b.entry w))) b
  | listed {ls : List Lease} (hls : LeaseTable.IsListing b.entry ls) :
    Serves bits b .list (.listed (.ok ls)) b
  | clockSet {now : Instant} : Serves bits b (.setClock now) .clockSet { b with now }

end LeaseBook

/-- The table of the desk holds the map, in which no two work types have one identifier, and every
identifier was drawn. -/
structure LeaseDesk.IsBooked (bits : Nat → Nat) (desk : LeaseDesk) (b : LeaseBook) : Prop where
  now : b.now = desk.now
  drawn : b.drawn = desk.drawn
  holds : desk.table.Holds b.entry
  fresh : ∀ {w l}, b.entry w = some l → ∃ i < b.drawn, l.id = Uuid.drawn (bits i)
  distinct : ∀ {w w' l l'}, b.entry w = some l → b.entry w' = some l' → l.id = l'.id → w = w'

/-! ## Services -/

/-- A call that was answered, with the desk before and after it. -/
structure Service where
  before : LeaseDesk
  call : DeskCall
  reply : DeskReply
  after : LeaseDesk

namespace LeaseDesk

/-- A call made to a desk. -/
def service (bits : Nat → Nat) (desk : LeaseDesk) (call : DeskCall) : Service :=
  let (reply, after) := desk.serve bits call
  ⟨desk, call, reply, after⟩

/-- Calls made to a desk one after the other. -/
def services (bits : Nat → Nat) : List DeskCall → LeaseDesk → List Service
  | [], _ => []
  | call :: calls, desk =>
    let first := desk.service bits call
    first :: services bits calls first.after

end LeaseDesk

/-- The deadline of the lease that a call is about to take. -/
def DeskCall.deadline? (now : Instant) : DeskCall → Option Instant
  | .begin _ timeout => now.add? timeout
  | _ => none

namespace Service

/-- The instants of the call can be stored, and the identifier that it draws is a fresh one. -/
structure Fair (bits : Nat → Nat) (s : Service) : Prop where
  now : s.before.now.Storable
  deadline : ∀ d ∈ s.call.deadline? s.before.now, d.Storable
  fresh : (s.call.deadline? s.before.now).isSome →
    ∀ i < s.before.drawn, Uuid.drawn (bits i) ≠ Uuid.drawn (bits s.before.drawn)

instance (bits : Nat → Nat) (s : Service) : Decidable (s.Fair bits) :=
  decidable_of_iff (s.before.now.Storable ∧
    (∀ d ∈ s.call.deadline? s.before.now, d.Storable) ∧
    ((s.call.deadline? s.before.now).isSome →
      ∀ i < s.before.drawn, Uuid.drawn (bits i) ≠ Uuid.drawn (bits s.before.drawn)))
    ⟨fun ⟨hn, hd, hf⟩ => ⟨hn, hd, hf⟩, fun h => ⟨h.now, h.deadline, h.fresh⟩⟩

/-- A lease was refused. -/
def Refused (s : Service) : Prop := ∃ fault, s.reply = .begun (.answer (.error fault))

/-- The call goes as the map says, and the table holds the map before and after it. If a lease is
refused, nothing in the table changes. -/
structure Booked (bits : Nat → Nat) (s : Service) (b b' : LeaseBook) : Prop where
  before : s.before.IsBooked bits b
  serves : b.Serves bits s.call s.reply b'
  after : s.after.IsBooked bits b'
  unchanged : s.Refused → s.after.table = s.before.table

end Service

/-- The calls go as the map says, one after the other. -/
def LeaseBook.Keeps (bits : Nat → Nat) : LeaseBook → List Service → Prop
  | _, [] => True
  | b, s :: rest => ∃ b', s.Booked bits b b' ∧ b'.Keeps bits rest

/-! ## Every call goes as the map says -/

namespace LeaseDesk.IsBooked

variable {bits : Nat → Nat} {desk : LeaseDesk} {b : LeaseBook} {w : String} {timeout : Span}
  {deadline : Instant}

/-- A lease that keeps others out keeps its row as it is. -/
theorem expire_of_held (h : desk.IsBooked bits b) (hnow : desk.now.Storable) (hheld : b.Held w) :
    (desk.table.expire w desk.now).2 = desk.table := by
  obtain ⟨l, hl, -, hdeadline⟩ := hheld
  refine LeaseTable.update_eq_self fun r hr => Bool.eq_false_iff.mpr fun htest => hdeadline ?_
  simp only [Bool.and_eq_true, beq_iff_eq, decide_eq_true_eq] at htest
  obtain ⟨⟨hw, -⟩, hpast⟩ := htest
  obtain ⟨l', hl', rfl⟩ := h.holds.exists_of_mem hr
  rw [hw, hl] at hl'
  obtain rfl := Option.some.inj hl'
  rw [h.now]
  exact (Instant.stored_le_iff_reaches (h.holds.recorded hl).deadline.storable hnow).mp hpast

/-- A lease that keeps others out keeps the row of every other lease out. -/
theorem acquire_of_held (h : desk.IsBooked bits b) (hnow : desk.now.Storable) (hheld : b.Held w) :
    (desk.table.expire w desk.now).2.acquire (desk.rowUntil bits w deadline) =
      .ok (false, desk.table) := by
  rw [h.expire_of_held hnow hheld]
  obtain ⟨l, hl, hrun, -⟩ := hheld
  exact LeaseTable.acquire_of_running (h.holds.row_of_entry hl)
    (LeaseRow.isRunning_ofLease.mpr hrun)

/-- If no lease keeps others out, the work type is free once its lease was ended. -/
theorem free_of_not_held (h : desk.IsBooked bits b) (hnow : desk.now.Storable)
    (hfree : ¬ b.Held w) : (desk.table.expire w desk.now).2.Free w := by
  refine LeaseTable.free_expire fun r hr hw hrun => ?_
  obtain ⟨l, hl, rfl⟩ := h.holds.exists_of_mem hr
  rw [hw] at hl
  rw [LeaseRow.isRunning_ofLease] at hrun
  refine (Instant.stored_le_iff_reaches (h.holds.recorded hl).deadline.storable hnow).mpr ?_
  rw [← h.now]
  exact Decidable.byContradiction fun hn => hfree ⟨l, hl, hrun, hn⟩

/-- The fresh identifier is in no row. -/
theorem id_ne (h : desk.IsBooked bits b)
    (hfresh : ∀ i < desk.drawn, Uuid.drawn (bits i) ≠ Uuid.drawn (bits desk.drawn)) {l : Lease}
    (hl : b.entry w = some l) : l.id ≠ Uuid.drawn (bits desk.drawn) := by
  obtain ⟨i, hi, hid⟩ := h.fresh hl
  rw [hid]
  exact hfresh i (h.drawn ▸ hi)

theorem acquire_of_not_held (h : desk.IsBooked bits b) (hnow : desk.now.Storable)
    (hfresh : ∀ i < desk.drawn, Uuid.drawn (bits i) ≠ Uuid.drawn (bits desk.drawn))
    (hfree : ¬ b.Held w) (deadline : Instant) : ∃ table, (desk.table.expire w desk.now).2.acquire
      (desk.rowUntil bits w deadline) = .ok (true, table) := by
  refine LeaseTable.acquire_of_free (h.free_of_not_held hnow hfree) fun r hr hid => ?_
  obtain ⟨r', hr', rfl⟩ := LeaseTable.mem_update.mp hr
  obtain ⟨l, hl, rfl⟩ := h.holds.exists_of_mem hr'
  -- A lease that was ended has kept its identifier.
  refine absurd (Uuid.text_inj.mp ?_) (h.id_ne hfresh hl)
  split at hid <;> exact hid

/-! ### What is known after a call -/

/-- After a lease was taken, it is the one of its work type. -/
theorem took (h : desk.IsBooked bits b) (hnow : desk.now.Storable) (hdeadline : deadline.Storable)
    (hfresh : ∀ i < desk.drawn, Uuid.drawn (bits i) ≠ Uuid.drawn (bits desk.drawn))
    {table : LeaseTable} (ha : (desk.table.expire w desk.now).2.acquire
      (desk.rowUntil bits w deadline) = .ok (true, table)) :
    LeaseDesk.IsBooked bits { desk with table, drawn := desk.drawn + 1 }
      (b.draw.put (b.newLease bits w deadline)) := by
  have hrow : desk.rowUntil bits w deadline = .ofLease (b.newLease bits w deadline) := by
    simp only [rowUntil, Lease.Stage.lease, LeaseRow.ofLease, LeaseBook.newLease, LeaseBook.nextId,
      h.now, h.drawn, Instant.stored_toMicros, Option.map_none]
  have hstart : b.now.toMicros.IsStamp := h.now ▸ hnow.isStamp
  have hrecorded : (b.newLease bits w deadline).Recorded :=
    ⟨hstart, fun _ hfinish => absurd hfinish (Option.some_ne_none _).symm, hdeadline.isStamp⟩
  have hid : (b.newLease bits w deadline).id = Uuid.drawn (bits desk.drawn) := by
    rw [LeaseBook.newLease, LeaseBook.nextId, h.drawn]
  rw [hrow] at ha
  refine ⟨h.now, congrArg (· + 1) h.drawn, h.holds.acquire hrecorded ha, ?_, ?_⟩
  · intro w' l hl
    by_cases hw : w' = w
    · subst hw
      obtain rfl := Option.some.inj ((moved_self b.entry w' _).symm.trans hl)
      exact ⟨b.drawn, Nat.lt_succ_self _, rfl⟩
    · obtain ⟨i, hi, hid⟩ := h.fresh ((moved_ne b.entry _ hw).symm.trans hl)
      exact ⟨i, Nat.lt_succ_of_lt hi, hid⟩
  · have hother : ∀ {w' l}, w' ≠ w → (b.draw.put (b.newLease bits w deadline)).entry w' = some l →
        b.entry w' = some l := fun hw hl => (moved_ne b.entry _ hw).symm.trans hl
    have hself : ∀ {w' l}, w' = w → (b.draw.put (b.newLease bits w deadline)).entry w' = some l →
        l.id = Uuid.drawn (bits desk.drawn) := by
      rintro w' l rfl hl
      rw [← Option.some.inj ((moved_self b.entry w' _).symm.trans hl), hid]
    intro w₁ w₂ l₁ l₂ h₁ h₂ he
    -- Only the new lease has the new identifier, as that is in no row of the table before.
    by_cases hw₁ : w₁ = w <;> by_cases hw₂ : w₂ = w
    · rw [hw₁, hw₂]
    · exact absurd (he.symm.trans (hself hw₁ h₁)) (h.id_ne hfresh (hother hw₂ h₂))
    · exact absurd (he.trans (hself hw₂ h₂)) (h.id_ne hfresh (hother hw₁ h₁))
    · exact h.distinct (hother hw₁ h₁) (hother hw₂ h₂) he

/-- After a lease was refused, nothing has changed but the number of identifiers drawn. -/
theorem missed (h : desk.IsBooked bits b) :
    LeaseDesk.IsBooked bits { desk with drawn := desk.drawn + 1 } b.draw where
  now := h.now
  drawn := congrArg (· + 1) h.drawn
  holds := h.holds
  fresh hl :=
    let ⟨i, hi, hid⟩ := h.fresh hl
    ⟨i, Nat.lt_succ_of_lt hi, hid⟩
  distinct := h.distinct

/-- After a lease was finished, it has ended and the others are as they were. -/
theorem finished (h : desk.IsBooked bits b) (hnow : desk.now.Storable) (id : Uuid)
    (success : Bool) : LeaseDesk.IsBooked bits
      { desk with table := (desk.table.close id success desk.now).2 } (b.close id success) := by
  have hclosed : ∀ {w l}, (b.close id success).entry w = some l →
      ∃ l', b.entry w = some l' ∧ l.id = l'.id := by
    intro w l hl
    obtain ⟨l', hl', rfl⟩ := Option.map_eq_some_iff.mp hl
    refine ⟨l', hl', ?_⟩
    split <;> rfl
  refine ⟨h.now, h.drawn, ?_, fun hl => ?_, fun h₁ h₂ he => ?_⟩
  · have hholds := h.holds.close id success hnow
    rwa [← h.now] at hholds ⊢
  · obtain ⟨l', hl', hid⟩ := hclosed hl
    rw [hid]
    exact h.fresh hl'
  · obtain ⟨l₁, h₁, he₁⟩ := hclosed h₁
    obtain ⟨l₂, h₂, he₂⟩ := hclosed h₂
    exact h.distinct h₁ h₂ (he₁.symm.trans (he.trans he₂))

/-! ### Calls -/

/-- A call for a lease goes as the map says. -/
theorem booked_begin (h : desk.IsBooked bits b)
    (fair : (desk.service bits (.begin w timeout)).Fair bits) :
    ∃ b', (desk.service bits (.begin w timeout)).Booked bits b b' := by
  obtain ⟨hnow, hdeadline, hfresh⟩ := fair
  cases hadd : desk.now.add? timeout with
  | none =>
    have hnone : b.now.add? timeout = none := by rw [h.now, hadd]
    rw [service, serve_begin_of_none hadd]
    exact ⟨b, h, .tooLong hnone, h, fun _ => rfl⟩
  | some deadline =>
    have hsome : b.now.add? timeout = some deadline := by rw [h.now, hadd]
    have hdeadline : deadline.Storable := hdeadline deadline hadd
    have hfresh := hfresh (by
      show (desk.now.add? timeout).isSome
      rw [hadd]
      rfl)
    by_cases hheld : b.Held w
    · rw [service, serve_begin_of_some hadd (h.acquire_of_held hnow hheld)]
      exact ⟨b.draw, h, .missed hsome hheld, h.missed, fun _ => rfl⟩
    · obtain ⟨table, ha⟩ := h.acquire_of_not_held hnow hfresh hheld deadline
      have hid : Uuid.drawn (bits desk.drawn) = b.nextId bits := by rw [LeaseBook.nextId, h.drawn]
      rw [service, serve_begin_of_some hadd ha, hid]
      refine ⟨_, h, .took hsome hheld, h.took hnow hdeadline hfresh ha, ?_⟩
      rintro ⟨fault, hr⟩
      cases hr

/-- Every call goes as the map says. -/
theorem booked (h : desk.IsBooked bits b) {call : DeskCall}
    (fair : (desk.service bits call).Fair bits) :
    ∃ b', (desk.service bits call).Booked bits b b' := by
  cases call with
  | begin w timeout => exact h.booked_begin fair
  | finish id success =>
    exact ⟨b.close id success, h, .finished, h.finished fair.now id success,
      fun ⟨_, hr⟩ => (nomatch hr)⟩
  | get w =>
    have hfound : (desk.service bits (.get w)).reply = .found (.ok (b.entry w)) :=
      congrArg _ (h.holds.get?_eq w)
    exact ⟨b, h, hfound ▸ .found, h, fun _ => rfl⟩
  | list =>
    obtain ⟨ls, hlist, hls⟩ := h.holds.list_eq
    have hlisted : (desk.service bits .list).reply = .listed (.ok ls) := congrArg _ hlist
    exact ⟨b, h, hlisted ▸ .listed hls, h, fun _ => rfl⟩
  | setClock now =>
    exact ⟨{ b with now }, h, .clockSet, ⟨rfl, h.drawn, h.holds, h.fresh, h.distinct⟩, fun _ => rfl⟩

/-- All calls go as the map says. -/
theorem keeps (h : desk.IsBooked bits b) {calls : List DeskCall}
    (fair : ∀ s ∈ LeaseDesk.services bits calls desk, s.Fair bits) :
    b.Keeps bits (LeaseDesk.services bits calls desk) := by
  induction calls generalizing desk b with
  | nil => trivial
  | cons call calls ih =>
    obtain ⟨hfirst, hrest⟩ := List.forall_mem_cons.mp fair
    obtain ⟨b', hbooked⟩ := h.booked hfirst
    exact ⟨b', hbooked, ih hbooked.after hrest⟩

end LeaseDesk.IsBooked

/-- A desk with an empty table keeps a map that is empty. -/
theorem LeaseDesk.isBooked_blank (bits : Nat → Nat) (now : Instant) :
    LeaseDesk.IsBooked bits ⟨{}, now, 0⟩ (.blank now) where
  now := rfl
  drawn := rfl
  holds := ⟨List.nodup_nil, fun _ => rfl, fun hl => nomatch hl⟩
  fresh hl := nomatch hl
  distinct hl := nomatch hl

/-- Whatever calls are made to a desk with an empty table, and wherever its clock is moved between
them, each is answered by the map from work types to leases and changes it as it says. -/
theorem desk_keeps_book (bits : Nat → Nat) (calls : List DeskCall) (now : Instant)
    (fair : ∀ s ∈ LeaseDesk.services bits calls ⟨{}, now, 0⟩, s.Fair bits) :
    (LeaseBook.blank now).Keeps bits (LeaseDesk.services bits calls ⟨{}, now, 0⟩) :=
  (LeaseDesk.isBooked_blank bits now).keeps fair

namespace Takeover

/-- A lease is refused, then taken over after its deadline. The holder that was late finishes it,
and the other twice, after the clock has gone back. -/
def calls : List DeskCall :=
  [.begin "sweep" (.ofSeconds 60), .begin "sweep" (.ofSeconds 60), .setClock ⟨1704067261, 7⟩,
    .begin "sweep" (.ofSeconds 60), .finish (Uuid.drawn 0) false, .setClock ⟨1704060000, 999999999⟩,
    .begin "resolve" (.ofSeconds 30), .finish (Uuid.drawn 2) true, .finish (Uuid.drawn 2) false,
    .get "sweep", .list]

theorem keeps_book :
    (∀ s ∈ LeaseDesk.services id calls ⟨{}, ⟨1704067200, 500⟩, 0⟩, s.Fair id) ∧
      (LeaseBook.blank ⟨1704067200, 500⟩).Keeps id
        (LeaseDesk.services id calls ⟨{}, ⟨1704067200, 500⟩, 0⟩) := by
  have fair : ∀ s ∈ LeaseDesk.services id calls ⟨{}, ⟨1704067200, 500⟩, 0⟩, s.Fair id := by
    decide +kernel
  exact ⟨fair, desk_keeps_book id calls ⟨1704067200, 500⟩ fair⟩

end Takeover

end Sheltering
