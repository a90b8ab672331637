import Sheltering.Proofs.Lease.Office
import Sheltering.Proofs.Resolver.Ledger
import Sheltering.Tick

/-!
# The atomic steps of a tick

* `Atom`: a statement of the lease, a note, or a question to a collaborator.
* `Worker.atomicTick`: a tick, step by step.
* `Site`: what the ticks of a node have in common; `Site.conduct`: what may come of a step. Every
  statement, note and collaborator may fail or panic.
* `Worker.keeps_batches`: the batches of a tick submit nothing that the ledgers have recorded.
-/

namespace Sheltering

open Dialogue (Asks Keeps ask call)

/-- An atomic step of a tick. -/
inductive Atom where
  | lease (q : LeaseStep)
  | note (n : JournalNote)
  | query (subject : Subject) (q : Query)

namespace Atom

/-- What each step is answered with. -/
def Answer : Atom → Type
  | lease q => LeaseStep.Answer q
  | note _ => Except Fault Unit
  | query _ q => Query.Answer q

instance : Question Atom := ⟨Answer⟩

end Atom

/-- The atomic steps of a question of a tick. -/
def TickStep.atoms : (q : TickStep) → Dialogue Atom (Question.Answer q)
  | begin workType timeout =>
    (Lease.begin workType timeout).run.refine fun q => call (Atom.lease q)
  | finish id success => (Lease.finishWork id success).run.refine fun q => call (Atom.lease q)
  | note n => call (Atom.note n)
  | challenge q => call (Atom.query .challenge q)
  | transfer q => call (Atom.query .transfer q)

namespace Worker

/-- A tick, step by step. -/
def atomicTick (w : Worker) : Dialogue Atom (Except Fault Unit) := w.tick.refine TickStep.atoms

/-- What a tick does after its batches, however they ended. -/
def closing (w : Worker) (id : Uuid) :
    Reply (Except Fault (BatchReport × BatchReport)) → Steps (Except Fault Unit)
  | .panic => do
    let _ ← finish id false
    note (w.panickedNote id)
    .panic
  | .answer (.ok (challenges, transfers)) => do
    match ← finish id true with
    | .error fault => pure (.error fault)
    | .ok () => do
      note (w.finishedNote id challenges transfers)
      pure (.ok ())
  | .answer (.error batchFault) => do
    match ← finish id false with
    | .error fault => pure (.error fault)
    | .ok () => do
      note (w.failedNote id batchFault)
      pure (.error batchFault)

theorem work_eq (w : Worker) (id : Uuid) :
    w.work id = w.batches.run.settled.bind (w.closing id) := by
  refine congrArg (Dialogue.bind _) (funext fun r => ?_)
  rcases r with (_ | ⟨_, _⟩) | _ <;> rfl

/-- The atomic steps after a lease was asked for. -/
def afterBegin (w : Worker) (r : Except Fault Uuid) : Dialogue Atom (Except Fault Unit) :=
  (match r with
    | .ok id => w.work id
    | .error fault => pure (if fault.isWorkInProgress then .ok () else .error fault)
    : Steps (Except Fault Unit)).refine TickStep.atoms

/-- The atomic steps after the batches. -/
def afterBatches (w : Worker) (id : Uuid) (r : Reply (Except Fault (BatchReport × BatchReport))) :
    Dialogue Atom (Except Fault Unit) :=
  (w.closing id r).refine TickStep.atoms

/-- The atomic steps of the batches. -/
def atomicBatches (w : Worker) : Dialogue Atom (Except Fault (BatchReport × BatchReport)) :=
  w.batches.run.refine TickStep.atoms

theorem atomicTick_eq (w : Worker) : w.atomicTick =
    ((Lease.begin w.workType w.leaseTimeout).run.refine fun q => call (Atom.lease q)).bind
      w.afterBegin := by
  have h : w.atomicTick = ((begin w).refine TickStep.atoms).bind w.afterBegin := by
    refine (Dialogue.refine_bind _ _).trans (congrArg _ (funext fun r => ?_))
    cases r <;> rfl
  have hb : (begin w).refine TickStep.atoms =
      (Lease.begin w.workType w.leaseTimeout).run.refine fun q => call (Atom.lease q) :=
    Dialogue.refine_call _
  rw [h, hb]

theorem afterBegin_ok (w : Worker) (id : Uuid) :
    w.afterBegin (.ok id) = w.atomicBatches.settled.bind (w.afterBatches id) := by
  show (w.work id).refine TickStep.atoms = _
  rw [work_eq, Dialogue.refine_bind, Dialogue.refine_settled]
  rfl

/-- A batch of one kind, step by step. -/
theorem refine_batch {α : Type} (subject : Subject) (d : Dialogue Query α)
    {f : (q : Query) → Dialogue TickStep (Question.Answer q)}
    (h : ∀ q, (f q).refine TickStep.atoms = call (Atom.query subject q)) :
    (d.refine f).refine TickStep.atoms = d.refine fun q => call (Atom.query subject q) := by
  rw [Dialogue.refine_refine]
  exact congrArg (fun g => d.refine g) (funext h)

end Worker

/-! ## What ticks have in common -/

/-- What the ledger of each kind has recorded of the node. -/
abbrev Ledgers : Type := Subject → List ResolvedEvent

namespace Atom

variable {node : String} {L : Ledgers}

/-- What a step does to the ledgers. -/
def records (node : String) : Conduct Atom Ledgers
  | .query subject q, L, r, L' =>
    ∃ es, Ledger.records node q (L subject) r es ∧ L' = moved L subject es
  | _, L, _, L' => L' = L

/-- What a tick may do while it works: it asks its collaborators, and submits nothing that is
recorded. -/
def May : Atom → Ledgers → Prop
  | .query subject q, L => Ledger.May q (L subject)
  | _, _ => False

/-- What holds of a dialogue with one ledger holds of its steps, and the other ledger is as it was.
-/
theorem keeps_refine {α : Type} {subject : Subject} {d : Dialogue Query α}
    {post : α → List ResolvedEvent → Prop}
    (h : d.Keeps (Ledger.records node) Ledger.May post (L subject)) :
    (d.refine fun q => call (Atom.query subject q)).Keeps (records node) May
      (fun a L' => post a (L' subject) ∧ ∀ other, other ≠ subject → L' other = L other) L := by
  induction d generalizing L with
  | done a => exact ⟨h, fun _ _ => rfl⟩
  | panic => trivial
  | ask q next ih =>
    have hask : ((ask q next).refine fun q => call (Atom.query subject q)) =
        ask (Atom.query subject q) fun r => (next r).refine fun q => call (Atom.query subject q) :=
      Dialogue.settled_call_bind _ _
    rw [hask]
    refine ⟨h.1, fun r L' ⟨es, hc, hL⟩ => ?_⟩
    subst hL
    have hself : moved L subject es subject = es := moved_self ..
    refine (ih r (by rw [hself]; exact h.2 r es hc)).mono fun a L'' ⟨hp, hother⟩ => ⟨hp, ?_⟩
    intro other hne
    rw [hother other hne, moved_ne L es hne]

end Atom

/-- The batches of a tick submit nothing that is recorded, and nothing twice. -/
theorem Worker.keeps_batches {w : Worker} {node : String} {L : Ledgers}
    (h : ∀ subject, ∀ e ∈ L subject, sameAddress e.resolver (w.resolver subject).node = true) :
    w.atomicBatches.Keeps (Atom.records node) Atom.May (fun _ _ => True) L := by
  have hc : w.challenges.run.refine TickStep.atoms =
      ((w.resolver .challenge).batch w.mode).run.refine fun q => call (Atom.query .challenge q) :=
    refine_batch .challenge _ fun q => Dialogue.refine_call _
  have ht : w.transfers.run.refine TickStep.atoms =
      ((w.resolver .transfer).batch w.mode).run.refine fun q => call (Atom.query .transfer q) :=
    refine_batch .transfer _ fun q => Dialogue.refine_call _
  have hb : w.atomicBatches = (w.challenges.run.refine TickStep.atoms).bind fun r =>
      (ExceptT.bindCont (fun challenges => do
        let transfers ← w.transfers
        pure (challenges, transfers) : BatchReport → ExceptT Fault Steps _) r).refine
          TickStep.atoms := Dialogue.refine_bind _ _
  rw [hb, hc]
  have hbatch : ((w.resolver .challenge).batch w.mode).run.Keeps (Ledger.records node) Ledger.May
      (fun _ _ => True) (L .challenge) := Resolver.keeps_batch (h .challenge)
  refine Keeps.bind ((Atom.keeps_refine hbatch).mono ?_)
  rintro r L' ⟨-, hother⟩
  cases r with
  | error fault => trivial
  | ok challenges =>
    have hb' : (ExceptT.bindCont (fun challenges => do
        let transfers ← w.transfers
        pure (challenges, transfers) : BatchReport → ExceptT Fault Steps _)
          (.ok challenges)).refine TickStep.atoms =
        (w.transfers.run.refine TickStep.atoms).bind _ := Dialogue.refine_bind _ _
    rw [hb', ht]
    have ht' : ∀ e ∈ L' .transfer,
        sameAddress e.resolver (w.resolver .transfer).node = true := by
      rw [hother .transfer (by decide)]
      exact h .transfer
    have hbatch' : ((w.resolver .transfer).batch w.mode).run.Keeps (Ledger.records node)
        Ledger.May (fun _ _ => True) (L' .transfer) := Resolver.keeps_batch ht'
    refine Keeps.bind ((Atom.keeps_refine hbatch').mono ?_)
    intro r L'' _
    cases r <;> trivial

/-- What the ticks of a node have in common. -/
structure Site where
  office : Office
  ledgers : Ledgers

/-- The reply says that a step failed. -/
def LeaseStep.Failed : (q : LeaseStep) → Reply (Question.Answer q) → Prop
  | .now, r => r = .panic
  | .newId, r => r = .panic
  | .expire _ _, r => ∀ n, r ≠ .answer (.ok n)
  | .acquire _, r => ∀ taken, r ≠ .answer (.ok taken)
  | .close _ _ _, r => ∀ n, r ≠ .answer (.ok n)

namespace Office

/-- A step of the lease is executed, or it fails. One that fails may have been executed or not. -/
def serves : Conduct LeaseStep Office := fun q o r o' =>
  answers q o r o' ∨ (q.Failed r ∧ (o' = o ∨ ∃ r', answers q o r' o'))

/-- The office is as it was, or as it is after a step. -/
def Moves (q : LeaseStep) (o o' : Office) : Prop := o' = o ∨ ∃ r, answers q o r o'

variable {q : LeaseStep} {o o' : Office}

theorem moves_of_serves {r : Reply (Answer q)} (h : serves q o r o') : Moves q o o' := by
  obtain h | ⟨-, h⟩ := h
  · exact .inr ⟨r, h⟩
  · exact h

theorem Moves.now_le (h : Moves q o o') : o.now ≤ o'.now := by
  obtain rfl | ⟨r, h⟩ := h
  · exact Instant.le_refl _
  · exact Office.now_le h

theorem Moves.drawn (h : Moves q o o') {id : Uuid} (hid : id ∈ o.drawn) : id ∈ o'.drawn := by
  obtain rfl | ⟨r, h⟩ := h
  · exact hid
  · exact drawn_subset h hid

theorem Moves.keeps_row {w : String} {r : LeaseRow} (h : Moves q o o')
    (hrow : o.table.row? w = some r) (hr : r.isRunning = true) (hq : ¬ q.Touches r) :
    o'.table.row? w = some r := by
  obtain rfl | ⟨reply, h⟩ := h
  · exact hrow
  · exact Office.keeps_row h hrow hr hq

end Office

/-- What may come of a step of a tick: a statement of the lease is executed or fails, a note changes
nothing, and a collaborator may reply in any way that the ledgers allow. -/
def Site.conduct (node : String) : Conduct Atom Site
  | .lease q, s, r, s' => Office.serves q s.office r s'.office ∧ s'.ledgers = s.ledgers
  | .note _, s, _, s' => s' = s
  | .query subject q, s, r, s' =>
    Atom.records node (.query subject q) s.ledgers r s'.ledgers ∧ s'.office = s.office

end Sheltering
