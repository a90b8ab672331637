import Sheltering.Proofs.Dialogue.Assembly
import Sheltering.Proofs.Tick.Atomic

/-!
# Where a tick has got to

* `Fleet.Standing`: it takes the lease, or it works, or it leaves.
* `Fleet.Stands`: what is left of a tick that has got somewhere.
* `Fleet.Sound`: what every step keeps: the row of a tick that works is that of its lease, so no
  other tick works, and the ledgers are as it knows them.
* `Fleet.Sound.opening`, `Fleet.Sound.query`, `Fleet.Sound.leave`: a step keeps it, wherever its
  tick stands.
-/

namespace Sheltering

open Dialogue (Asks Keeps ask call)

namespace Fleet

abbrev TickMoment : Type := Moment Atom Site (Except Fault Unit)

/-! ## Standings -/

/-- Where a tick has got to. -/
inductive Standing where
  /-- It takes the lease. -/
  | opening (s : Lease.Stage)
  /-- It holds a lease and is in its batches, which count on what the ledgers have recorded. -/
  | working (row : LeaseRow) (id : Uuid) (L : Ledgers)
  /-- It has done its batches, or had none to do. At most it gives back a lease. -/
  | leaving (id : Option Uuid)

/-- The identifier that a tick has drawn. -/
def Standing.id? : Standing → Option Uuid
  | opening (.taking id _ _) => some id
  | opening _ => none
  | working _ id _ => some id
  | leaving id => id

/-- What a tick does when it leaves: it closes its own lease and writes a note. -/
def Leaves (id : Option Uuid) : Atom → Prop
  | .lease .now => True
  | .lease (.close id' _ _) => id = some id'
  | .note _ => True
  | _ => False

/-- What is left of taking the lease, step by step. -/
def openingRest (w : Worker) (d : Dialogue LeaseStep (Except Fault Uuid)) :
    Dialogue Atom (Except Fault Unit) :=
  (d.refine fun q => call (Atom.lease q)).bind w.afterBegin

/-- What is left of a tick after the statement of a stage. -/
def afterStage (w : Worker) (s : Lease.Stage)
    (r : Reply (Question.Answer (s.question w.workType))) : Dialogue Atom (Except Fault Unit) :=
  openingRest w (Lease.Stage.resume w.workType w.leaseTimeout
    (s.after w.workType w.leaseTimeout r))

/-- A tick that has got somewhere is what is left of it there. -/
inductive Stands (node : String) (w : Worker) :
    Standing → Dialogue Atom (Except Fault Unit) → Prop
  | opening (s : Lease.Stage) :
    Stands node w (.opening s) (openingRest w (s.rest w.workType w.leaseTimeout))
  | working {row : LeaseRow} {id : Uuid} {L : Ledgers} {subject : Subject} {q : Query}
      {next : Reply (Question.Answer q) →
        Dialogue Atom (Except Fault (BatchReport × BatchReport))}
      (h : (ask (Atom.query subject q) next).Keeps (Atom.records node) Atom.May
        (fun _ _ => True) L) :
    Stands node w (.working row id L)
      ((ask (Atom.query subject q) next).settled.bind (w.afterBatches id))
  | leaving {id : Option Uuid} {d : Dialogue Atom (Except Fault Unit)} (h : d.Asks (Leaves id)) :
    Stands node w (.leaving id) d

variable {node : String} {w : Worker} {id : Uuid} {L : Ledgers}

/-- A stage asks its statement and goes on after the reply. -/
theorem openingRest_eq (s : Lease.Stage) :
    openingRest w (s.rest w.workType w.leaseTimeout) =
      ask (Atom.lease (s.question w.workType)) (afterStage w s) := by
  rw [Lease.Stage.rest_eq]
  exact congrArg (Dialogue.bind · w.afterBegin) (Dialogue.settled_call_bind _ _)

/-- After its batches a tick only leaves. -/
theorem asks_afterBatches (r : Reply (Except Fault (BatchReport × BatchReport))) :
    (w.afterBatches id r).Asks (Leaves (some id)) := by
  let closes : TickStep → Prop
    | .finish id' _ => id' = id
    | .note _ => True
    | _ => False
  have hnote : ∀ n, (Worker.note n).Asks closes := fun n =>
    Asks.bind (Dialogue.asks_call trivial) fun _ => trivial
  have hclosing : (w.closing id r).Asks closes := by
    rcases r with (fault | ⟨challenges, transfers⟩) | _
    · refine Asks.bind (Dialogue.asks_call rfl) fun reply => ?_
      cases reply with
      | error fault => trivial
      | ok _ => exact Asks.bind (hnote _) fun _ => trivial
    · refine Asks.bind (Dialogue.asks_call rfl) fun reply => ?_
      cases reply with
      | error fault => trivial
      | ok _ => exact Asks.bind (hnote _) fun _ => trivial
    · refine Asks.bind (Dialogue.asks_call rfl) fun reply => ?_
      exact Asks.bind (hnote _) fun _ => trivial
  refine hclosing.refine fun q hq => ?_
  cases q with
  | finish id' success =>
    obtain rfl : id' = id := hq
    let returns : LeaseStep → Prop
      | .now => True
      | .close id'' _ _ => id'' = id'
      | _ => False
    have hfinish : (Lease.finishWork id' success).run.Asks returns := by
      refine Asks.run_bind (Asks.bind (Dialogue.asks_call trivial) fun _ => trivial) fun t => ?_
      exact Asks.run_bind (Dialogue.asks_call rfl) fun _ => trivial
    show ((Lease.finishWork id' success).run.refine fun q => call (Atom.lease q)).Asks _
    refine hfinish.refine fun q hq => Dialogue.asks_call (q := Atom.lease q) ?_
    cases q with
    | now => trivial
    | close id'' _ _ => exact congrArg some hq.symm
    | _ => exact hq
  | note n => exact Dialogue.asks_call trivial
  | _ => exact hq.elim

/-- Batches that keep to the ledgers are at work, or they are done. -/
theorem stands_of_keeps (id : Uuid) {b : Dialogue Atom (Except Fault (BatchReport × BatchReport))}
    (h : b.Keeps (Atom.records node) Atom.May (fun _ _ => True) L) (row : LeaseRow) :
    ∃ x, Stands node w x (b.settled.bind (w.afterBatches id)) ∧
      (x = .working row id L ∨ x = .leaving (some id)) := by
  cases b with
  | done a => exact ⟨_, .leaving (asks_afterBatches (.answer a)), .inr rfl⟩
  | panic => exact ⟨_, .leaving (asks_afterBatches .panic), .inr rfl⟩
  | ask q next =>
    cases q with
    | query subject q => exact ⟨_, .working h, .inl rfl⟩
    | _ => exact h.1.elim

theorem stands_of_not_ok {r : Reply (Except Fault Uuid)} (h : ∀ id, r ≠ .answer (.ok id)) :
    Stands node w (.leaving none) (openingRest w (Dialogue.unsettle r)) := by
  rcases r with (fault | id) | _
  · exact .leaving trivial
  · exact absurd rfl (h id)
  · exact .leaving trivial

/-! ## What every step keeps -/

/-- The tick `k` put in a row. -/
def Takes (ms : List TickMoment) (k : Nat) (row : LeaseRow) : Prop :=
  ∃ m ∈ ms, m.who = k ∧ m.exchange = ⟨.lease (.acquire row), .answer (.ok true)⟩

/-- What the ledgers have recorded is of the node. -/
def Recorded (node : String) (L : Ledgers) : Prop :=
  ∀ subject, ∀ e ∈ L subject, sameAddress e.resolver node = true

/-- What a tick counts on where it stands. While it works, the row of the work type is that of its
lease, and the ledgers are as it knows them. -/
def Fits (workType : String) (s : Site) : Standing → Prop
  | .opening (.clearing t _) => t.Storable ∧ t ≤ s.office.now
  | .opening (.taking id _ _) => id ∈ s.office.drawn
  | .opening _ => True
  | .working row id L => id ∈ s.office.drawn ∧ row.id = id.text ∧ row.isRunning = true ∧
    s.office.table.row? workType = some row ∧ L = s.ledgers
  | .leaving none => True
  | .leaving (some id) => id ∈ s.office.drawn

/-- What every step keeps. -/
structure Sound (ms : List TickMoment) (node workType : String) (s : Site) (f : Nat → Standing) :
    Prop where
  recorded : Recorded node s.ledgers
  fits : ∀ k, Fits workType s (f k)
  own : ∀ j k id, (f j).id? = some id → (f k).id? = some id → j = k
  takes : ∀ k row id L, f k = .working row id L → Takes ms k row

theorem sameAddress_trans {a b c : String} (hab : sameAddress a b = true)
    (hcb : sameAddress c b = true) : sameAddress a c = true := by
  rw [sameAddress, beq_iff_eq] at hab hcb ⊢
  rw [hab, hcb]

/-- No tick that works has a lease of which the deadline has been reached. -/
def Late (s : Site) (f : Nat → Standing) : Prop :=
  ∀ k row id L, f k = .working row id L →
    ∃ deadline : Instant, deadline.Storable ∧ row.deadline = deadline.stored ∧
      ¬ s.office.now.Reaches deadline

variable {ms : List TickMoment} {workType : String} {s : Site} {f : Nat → Standing} {k : Nat}
  {x x' : Standing} {q : LeaseStep} {o' : Office} {row : LeaseRow}

theorem Fits.drawn (h : Fits workType s x) (hx : x.id? = some id) : id ∈ s.office.drawn := by
  rcases x with (_ | _ | _ | _) | _ | (_ | _)
  · cases hx
  · cases hx
  · cases hx
  · cases hx
    exact h
  · cases hx
    exact h.1
  · cases hx
  · cases hx
    exact h

/-- What a tick counts on outlives a step that does not touch its row. -/
theorem Fits.lease (h : Fits workType s x) (hm : Office.Moves q s.office o')
    (hx : ∀ row id L, x = .working row id L → ¬ q.Touches row) :
    Fits workType { s with office := o' } x := by
  rcases x with (_ | _ | _ | _) | _ | (_ | _)
  · trivial
  · exact ⟨h.1, Instant.le_trans h.2 hm.now_le⟩
  · trivial
  · exact hm.drawn h
  · obtain ⟨hid, hrow, hrun, hr, hL⟩ := h
    exact ⟨hm.drawn hid, hrow, hrun, hm.keeps_row hr hrun (hx _ _ _ rfl), hL⟩
  · trivial
  · exact hm.drawn h

theorem Sound.fits_working (h : Sound ms node workType s f) (hk : f k = .working row id L) :
    id ∈ s.office.drawn ∧ row.id = id.text ∧ row.isRunning = true ∧
      s.office.table.row? workType = some row ∧ L = s.ledgers := by
  have hf := h.fits k
  rw [hk] at hf
  exact hf

/-- At most one tick works. -/
theorem Sound.alone (h : Sound ms node workType s f) {j : Nat} {row' : LeaseRow} {id' : Uuid}
    {L' : Ledgers} (hk : f k = .working row id L) (hj : f j = .working row' id' L') : j = k := by
  obtain ⟨-, hid, -, hrow, -⟩ := h.fits_working hk
  obtain ⟨-, hid', -, hrow', -⟩ := h.fits_working hj
  obtain rfl : row = row' := Option.some.inj (hrow.symm.trans hrow')
  obtain rfl : id = id' := Uuid.text_inj.mp (hid.symm.trans hid')
  exact h.own j k id (by rw [hj]; rfl) (by rw [hk]; rfl)

/-- A step of the lease that touches no row of a tick at work. -/
theorem Sound.lease (h : Sound ms node workType s f) (hm : Office.Moves q s.office o')
    (hq : ∀ k row id L, f k = .working row id L → ¬ q.Touches row)
    (hfits : Fits workType { s with office := o' } x')
    (hid : ∀ id, x'.id? = some id → (f k).id? = some id ∨ id ∉ s.office.drawn)
    (ht : ∀ row id L, x' = .working row id L → Takes ms k row) :
    Sound ms node workType { s with office := o' } (moved f k x') := by
  refine ⟨h.recorded, fun j => ?_, fun i j id hi hj => ?_, fun j row id L hj => ?_⟩
  · by_cases hjk : j = k
    · rw [hjk, moved_self]
      exact hfits
    · rw [moved_ne f x' hjk]
      exact (h.fits j).lease hm (hq j)
  · by_cases hik : i = k <;> by_cases hjk : j = k
    · rw [hik, hjk]
    · rw [hik, moved_self] at hi
      rw [moved_ne f x' hjk] at hj
      obtain hold | hnew := hid id hi
      · rw [hik]
        exact h.own k j id hold hj
      · exact absurd ((h.fits j).drawn hj) hnew
    · rw [moved_ne f x' hik] at hi
      rw [hjk, moved_self] at hj
      obtain hold | hnew := hid id hj
      · rw [hjk]
        exact h.own i k id hi hold
      · exact absurd ((h.fits i).drawn hi) hnew
    · rw [moved_ne f x' hik] at hi
      rw [moved_ne f x' hjk] at hj
      exact h.own i j id hi hj
  · by_cases hjk : j = k
    · rw [hjk, moved_self] at hj
      rw [hjk]
      exact ht row id L hj
    · rw [moved_ne f x' hjk] at hj
      exact h.takes j row id L hj

/-- A statement that ends old leases at an instant that was read touches no row of a tick at work.
-/
theorem Late.not_expired (h : Late s f) {t : Instant} (ht : t.Storable) (hnow : t ≤ s.office.now)
    (hk : f k = .working row id L) : ¬ (LeaseStep.expire workType t).Touches row := by
  rintro ⟨-, hle⟩
  obtain ⟨deadline, hd, hrow, hlate⟩ := h k row id L hk
  rw [hrow, Instant.stored_le_iff_reaches hd ht] at hle
  exact hlate (hle.later hnow)

/-- A tick that gives up does no harm. -/
theorem Sound.giveUp (h : Sound ms node workType s f) (hm : Office.Moves q s.office o')
    (hq : ∀ k row id L, f k = .working row id L → ¬ q.Touches row) :
    Sound ms node workType { s with office := o' } (moved f k (.leaving none)) :=
  h.lease hm hq trivial (fun _ hid => nomatch hid) fun _ _ _ hx => nomatch hx

/-- What is left of a tick goes on somewhere, and everything is kept. -/
def GoesOn (ms : List TickMoment) (node : String) (s : Site) (f : Nat → Standing) (k : Nat)
    (w : Worker) (d : Dialogue Atom (Except Fault Unit)) : Prop :=
  ∃ x, Stands node w x d ∧ Sound ms node w.workType s (moved f k x)

theorem Sound.reading {r : Reply (Question.Answer (Lease.Stage.reading.question w.workType))}
    (h : Sound ms node w.workType s f) (hc : Office.serves .now s.office r o') :
    GoesOn ms node { s with office := o' } f k w (afterStage w .reading r) := by
  have hm := Office.moves_of_serves hc
  have hq : ∀ k row id L, f k = .working row id L → ¬ LeaseStep.now.Touches row :=
    fun _ _ _ _ _ ht => ht
  obtain ⟨t, rfl, hnow, ht, rfl⟩ | ⟨rfl, -⟩ := hc
  · cases hd : t.add? w.leaseTimeout with
    | none =>
      have he : afterStage w .reading (.answer t) = openingRest w (Dialogue.unsettle _) :=
        congrArg (openingRest w) (Lease.Stage.resume_of_add?_eq_none _ _ hd)
      refine ⟨.leaving none, ?_, h.giveUp hm hq⟩
      exact he ▸ stands_of_not_ok fun id hid => nomatch hid
    | some deadline =>
      have he : afterStage w .reading (.answer t) =
          openingRest w ((Lease.Stage.clearing t deadline).rest w.workType w.leaseTimeout) :=
        congrArg (openingRest w) (Lease.Stage.resume_of_add?_eq_some _ _ hd)
      refine ⟨.opening (.clearing t deadline), he ▸ .opening _, ?_⟩
      exact h.lease hm hq ⟨ht, Instant.le_refl _⟩ (fun _ hid => nomatch hid)
        fun _ _ _ hx => nomatch hx
  · exact ⟨.leaving none, .leaving trivial, h.giveUp hm hq⟩

theorem Sound.clearing {t deadline : Instant}
    {r : Reply (Question.Answer ((Lease.Stage.clearing t deadline).question w.workType))}
    (h : Sound ms node w.workType s f) (hlate : Late s f) (ht : t.Storable)
    (hnow : t ≤ s.office.now) (hc : Office.serves (.expire w.workType t) s.office r o') :
    GoesOn ms node { s with office := o' } f k w (afterStage w (.clearing t deadline) r) := by
  have hm := Office.moves_of_serves hc
  have hq : ∀ k row id L, f k = .working row id L →
      ¬ (LeaseStep.expire w.workType t).Touches row :=
    fun _ _ _ _ hj => hlate.not_expired ht hnow hj
  obtain ⟨rfl, rfl⟩ | ⟨hfailed, -⟩ := hc
  · refine ⟨.opening (.drawing t deadline), .opening _, ?_⟩
    exact h.lease hm hq trivial (fun _ hid => nomatch hid) fun _ _ _ hx => nomatch hx
  · refine ⟨.leaving none, ?_, h.giveUp hm hq⟩
    rcases r with (fault | n) | _
    · exact .leaving trivial
    · exact absurd rfl (hfailed n)
    · exact .leaving trivial

theorem Sound.drawing {t deadline : Instant}
    {r : Reply (Question.Answer ((Lease.Stage.drawing t deadline).question w.workType))}
    (h : Sound ms node w.workType s f) (hc : Office.serves .newId s.office r o') :
    GoesOn ms node { s with office := o' } f k w (afterStage w (.drawing t deadline) r) := by
  have hm := Office.moves_of_serves hc
  have hq : ∀ k row id L, f k = .working row id L → ¬ LeaseStep.newId.Touches row :=
    fun _ _ _ _ _ ht => ht
  obtain ⟨id, rfl, hnew, rfl⟩ | ⟨rfl, -⟩ := hc
  · refine ⟨.opening (.taking id t deadline), .opening _, ?_⟩
    refine h.lease hm hq List.mem_cons_self (fun id' hid => .inr ?_) fun _ _ _ hx => nomatch hx
    obtain rfl := Option.some.inj hid
    exact hnew
  · exact ⟨.leaving none, .leaving trivial, h.giveUp hm hq⟩

/-- A tick that takes the lease goes to work. -/
theorem Sound.taking {id : Uuid} {t deadline : Instant}
    {r : Reply (Question.Answer ((Lease.Stage.taking id t deadline).question w.workType))}
    (h : Sound ms node w.workType s f) (hk : f k = .opening (.taking id t deadline))
    (hw : ∀ subject, sameAddress (w.resolver subject).node node = true)
    (hc : Office.serves
      (.acquire (.ofLease (Lease.Stage.lease w.workType id t deadline))) s.office r o')
    (htake : r = .answer (.ok true) →
      Takes ms k (.ofLease (Lease.Stage.lease w.workType id t deadline))) :
    GoesOn ms node { s with office := o' } f k w (afterStage w (.taking id t deadline) r) := by
  have hm := Office.moves_of_serves hc
  have hdrawn : id ∈ s.office.drawn := (h.fits k).drawn (by rw [hk]; rfl)
  have hown : ∀ id', some id = some id' → (f k).id? = some id' := fun id' hid => by
    rw [hk]
    exact hid
  have hq : ∀ k row id' L, f k = .working row id' L →
      ¬ (LeaseStep.acquire (.ofLease (Lease.Stage.lease w.workType id t deadline))).Touches row :=
    fun _ _ _ _ _ ht => ht
  obtain (⟨taken, table, ha, rfl, rfl⟩ | ⟨fault, -, rfl, rfl⟩) | ⟨hfailed, -⟩ := hc
  · cases taken with
    | false => exact ⟨.leaving none, .leaving trivial, h.giveUp hm hq⟩
    | true =>
      have hkeeps : w.atomicBatches.Keeps (Atom.records node) Atom.May (fun _ _ => True)
          s.ledgers := Worker.keeps_batches fun subject e he =>
        sameAddress_trans (h.recorded subject e he) (hw subject)
      obtain ⟨x', hx', hcases⟩ := stands_of_keeps (w := w) id hkeeps
        (.ofLease (Lease.Stage.lease w.workType id t deadline))
      rw [← Worker.afterBegin_ok] at hx'
      refine ⟨x', hx', ?_⟩
      obtain ⟨hf, -⟩ | ⟨-, hacq⟩ := LeaseTable.acquire_cases ha
      · cases hf
      obtain rfl | rfl := hcases
      · refine h.lease hm hq ⟨hdrawn, rfl, rfl, hacq.self, rfl⟩ (fun id' hid => .inl ?_) ?_
        · exact hown id' hid
        · rintro row id' L hx
          cases hx
          exact htake rfl
      · exact h.lease hm hq hdrawn (fun id' hid => .inl (hown id' hid)) fun _ _ _ hx => nomatch hx
  · exact ⟨.leaving none, .leaving trivial, h.giveUp hm hq⟩
  · refine ⟨.leaving none, ?_, h.giveUp hm hq⟩
    rcases r with (fault | taken) | _
    · exact .leaving trivial
    · exact absurd rfl (hfailed taken)
    · exact .leaving trivial

/-- A step of a tick that takes the lease. -/
theorem Sound.opening {stage : Lease.Stage}
    {r : Reply (Question.Answer (stage.question w.workType))}
    (h : Sound ms node w.workType s f) (hlate : Late s f) (hk : f k = .opening stage)
    (hw : ∀ subject, sameAddress (w.resolver subject).node node = true)
    (hc : Office.serves (stage.question w.workType) s.office r o')
    (htake : ∀ row, (⟨.lease (stage.question w.workType), r⟩ : Dialogue.Exchange Atom) =
      ⟨.lease (.acquire row), .answer (.ok true)⟩ → Takes ms k row) :
    GoesOn ms node { s with office := o' } f k w (afterStage w stage r) := by
  have hfits := h.fits k
  rw [hk] at hfits
  cases stage with
  | reading => exact h.reading hc
  | clearing t deadline => exact h.clearing hlate hfits.1 hfits.2 hc
  | drawing t deadline => exact h.drawing hc
  | taking id t deadline =>
    refine h.taking hk hw hc fun hr => htake _ ?_
    rw [hr]
    rfl

/-- What a ledger records is the submission of a tick, and so of the node. -/
theorem Recorded.step {subject : Subject} {q : Query} {r : Reply (Question.Answer q)} {L' : Ledgers}
    (h : Recorded node L) (hc : Atom.records node (.query subject q) L r L') :
    Recorded node L' := by
  obtain ⟨es, hes, rfl⟩ := hc
  intro other
  by_cases ho : other = subject
  · subst ho
    rw [moved_self]
    by_cases hq : Ledger.IsQuiet q
    · rw [Ledger.eq_of_isQuiet hq hes]
      exact h other
    · cases q with
      | submit p =>
        obtain ⟨e, -, hnode, rfl⟩ | ⟨rfl, -⟩ := hes
        · exact List.forall_mem_append.mpr ⟨h other, List.forall_mem_singleton.mpr hnode⟩
        · exact h other
      | _ => exact absurd trivial hq
  · rw [moved_ne L es ho]
    exact h other

/-- A step of a tick at work. -/
theorem Sound.query {subject : Subject} {q : Query} {r : Reply (Question.Answer q)} {L' : Ledgers}
    (h : Sound ms node workType s f) (hk : f k = .working row id L)
    (hc : Atom.records node (.query subject q) s.ledgers r L')
    (hx : x' = .working row id L' ∨ x' = .leaving (some id)) :
    Sound ms node workType { s with ledgers := L' } (moved f k x') := by
  obtain ⟨hid, hrow, hrun, hr, -⟩ := h.fits_working hk
  have hid' : x'.id? = (f k).id? := by
    obtain rfl | rfl := hx <;> rw [hk] <;> rfl
  have hids : ∀ j, (moved f k x' j).id? = (f j).id? := by
    intro j
    by_cases hjk : j = k
    · rw [hjk, moved_self, hid']
    · rw [moved_ne f x' hjk]
  refine ⟨h.recorded.step hc, fun j => ?_, fun i j id hi hj => ?_, fun j row' id' L'' hj => ?_⟩
  · by_cases hjk : j = k
    · rw [hjk, moved_self]
      obtain rfl | rfl := hx
      · exact ⟨hid, hrow, hrun, hr, rfl⟩
      · exact hid
    · rw [moved_ne f x' hjk]
      -- Nobody else works, so nobody else counts on the ledgers.
      have hj := h.fits j
      have hne : ∀ row' id' L'', f j ≠ .working row' id' L'' := fun row' id' L'' hj' =>
        hjk (h.alone hk hj')
      generalize f j = y at hj hne
      rcases y with (_ | _ | _ | _) | ⟨row', id', L''⟩ | (_ | _)
      · trivial
      · exact hj
      · trivial
      · exact hj
      · exact absurd rfl (hne row' id' L'')
      · trivial
      · exact hj
  · rw [hids] at hi hj
    exact h.own i j id hi hj
  · by_cases hjk : j = k
    · rw [hjk, moved_self] at hj
      obtain rfl | rfl := hx
      · cases hj
        rw [hjk]
        exact h.takes k _ _ _ hk
      · cases hj
    · rw [moved_ne f x' hjk] at hj
      exact h.takes j row' id' L'' hj

/-- A step of a tick that leaves. -/
theorem Sound.leave {q : Atom} {r : Reply (Question.Answer q)} {s' : Site} {id : Option Uuid}
    (h : Sound ms node workType s f) (hk : f k = .leaving id) (hq : Leaves id q)
    (hc : Site.conduct node q s r s') :
    Sound ms node workType s' (moved f k (.leaving id)) := by
  have hself : moved f k (.leaving id) = f := by
    funext j
    by_cases hjk : j = k
    · rw [hjk, moved_self, hk]
    · rw [moved_ne f _ hjk]
  have hlease : ∀ {q : LeaseStep} {o' : Office}, Office.Moves q s.office o' →
      (∀ k row id L, f k = .working row id L → ¬ q.Touches row) →
      Sound ms node workType { s with office := o' } (moved f k (.leaving id)) := by
    intro q o' hm hq
    have hfits := (h.fits k).lease hm (hq k)
    rw [hk] at hfits
    refine h.lease hm hq hfits (fun id' hid => .inl ?_) fun _ _ _ hx => nomatch hx
    rw [hk]
    exact hid
  cases q with
  | note n =>
    obtain rfl : s' = s := hc
    rw [hself]
    exact h
  | query => exact hq.elim
  | lease q =>
    obtain ⟨o', L'⟩ := s'
    obtain ⟨hserves, hL⟩ := hc
    obtain rfl : L' = s.ledgers := hL
    refine hlease (Office.moves_of_serves hserves) fun j row id' L hj => ?_
    cases q with
    | close id'' success t =>
      intro ht
      obtain ⟨-, hrow, -⟩ := h.fits_working hj
      obtain rfl : id' = id'' := Uuid.text_inj.mp (hrow.symm.trans ht)
      have := h.own j k id' (by rw [hj]; rfl) (by rw [hk]; exact hq)
      rw [this, hk] at hj
      cases hj
    | now => exact fun ht => ht
    | _ => exact hq.elim

/-- A tick asks its collaborators for nothing that it may not ask for. -/
theorem Stands.may {d : Dialogue Atom (Except Fault Unit)} {subject : Subject} {q : Query}
    {next : Reply (Question.Answer q) → Dialogue Atom (Except Fault Unit)}
    (h : Stands node w x d) (hd : d = ask (Atom.query subject q) next)
    (hfits : Fits workType s x) : Ledger.May q (s.ledgers subject) := by
  cases h with
  | opening stage =>
    rw [openingRest_eq] at hd
    cases hd
  | working hkeeps =>
    cases hd
    obtain ⟨-, -, -, -, rfl⟩ := hfits
    exact hkeeps.1
  | leaving hasks =>
    rw [hd] at hasks
    exact hasks.1.elim

end Fleet

end Sheltering
