import Sheltering.Proofs.Dialogue.Beats
import Sheltering.Proofs.Lease.Stage
import Sheltering.Proofs.Lease.Table
import Sheltering.Proofs.Tick.Course

/-!
# Every tick gives back the lease that it took

* `LeaseTable.executes`: a table that executes every statement; `LeaseTable.serves`: the lease of
  ticks on such a table.
* `LeaseTable.goes_begin`, `LeaseTable.goes_finish`: which rows run after a lease is taken, and after
  it is given back.
* `Turn`: a tick as it went; `Turn.Released`: it leaves no running row of its own.
* `Worker.ticks_release`: so does every tick of a sequence of ticks.
-/

namespace Sheltering

open Dialogue (Exchange Goes Held Path Surroundings goes_beats goes_call)

namespace LeaseTable

/-- A table that executes every statement. The clock may show any instant, and any identifier may
be drawn. -/
def executes : Conduct LeaseStep LeaseTable
  | .now, t, r, t' => (∃ now, r = .answer now) ∧ t' = t
  | .newId, t, r, t' => (∃ id, r = .answer id) ∧ t' = t
  | .expire workType now, t, r, t' =>
    r = .answer (.ok (t.expire workType now).1) ∧ t' = (t.expire workType now).2
  | .acquire row, t, r, t' =>
    match t.acquire row with
    | .ok (taken, table) => r = .answer (.ok taken) ∧ t' = table
    | .error fault => r = .answer (.error fault) ∧ t' = t
  | .close id success now, t, r, t' =>
    r = .answer (.ok (t.close id success now).1) ∧ t' = (t.close id success now).2

/-- The lease of ticks on a table that executes every statement. The log and the collaborators may
reply in any way. -/
def serves : Conduct TickStep LeaseTable
  | .begin workType timeout, t, r, t' =>
    ∃ bs, (Lease.begin workType timeout).run.Goes executes t bs r t'
  | .finish id success, t, r, t' =>
    ∃ bs, (Lease.finishWork id success).run.Goes executes t bs r t'
  | _, t, _, t' => t' = t

variable {t t' : LeaseTable} {r : LeaseRow} {workType : String} {id : Uuid} {now : Instant}
  {success : Bool} {bs : List (Beat LeaseStep LeaseTable)}

/-! ## The rows that run -/

theorem mem_of_mem_expire (h : r ∈ (t.expire workType now).2.rows) (hr : r.isRunning = true) :
    r ∈ t.rows := by
  obtain ⟨r', hr', rfl⟩ := mem_update.mp h
  split at hr
  · cases hr
  · rename_i hn
    rw [if_neg hn]
    exact hr'

theorem mem_of_mem_close (h : r ∈ (t.close id success now).2.rows) (hr : r.isRunning = true) :
    r ∈ t.rows ∧ r.id ≠ id.text := by
  obtain ⟨r', hr', rfl⟩ := mem_update.mp h
  split at hr
  · rw [isRunning_finished] at hr
    cases hr
  · rename_i hn
    rw [if_neg hn]
    exact ⟨hr', by simpa using hn⟩

/-- An acquisition makes no row run but its own, and only if it says so. -/
theorem goes_acquire {row : LeaseRow} {reply : Reply (Except Fault Bool)}
    (h : executes (.acquire row) t reply t') (hr : r ∈ t'.rows) :
    r ∈ t.rows ∨ (reply = .answer (.ok true) ∧ r = row) := by
  dsimp only [executes] at h
  split at h
  · rename_i taken table ha
    obtain ⟨rfl, rfl⟩ := h
    obtain ⟨-, rfl⟩ | ⟨rfl, hacq⟩ := acquire_cases ha
    · exact .inl hr
    · exact (hacq.rows r hr).symm.imp id fun hrow => ⟨rfl, hrow⟩
  · obtain ⟨-, rfl⟩ := h
    exact .inl hr

theorem goes_take {lease : Lease} {reply : Reply (Except Fault Uuid)}
    (h : (Lease.take lease).run.Goes executes t bs reply t') (hr : r ∈ t'.rows) :
    r ∈ t.rows ∨ (reply = .answer (.ok lease.id) ∧ r.id = lease.id.text) := by
  obtain ⟨taken, bs₁, t₁, bs₂, -, h₁, h₂⟩ | ⟨fault, h₁, -⟩ | ⟨h₁, -⟩ := Goes.run_bind_inv h
  · cases taken with
    | true =>
      obtain ⟨-, rfl, rfl⟩ := h₂
      obtain hmem | ⟨-, rfl⟩ := goes_acquire (goes_call h₁).2 hr
      · exact .inl hmem
      · exact .inr ⟨rfl, rfl⟩
    | false =>
      obtain ⟨-, -, rfl⟩ := h₂
      exact (goes_acquire (goes_call h₁).2 hr).imp_right fun ⟨he, _⟩ => nomatch he
  · exact (goes_acquire (goes_call h₁).2 hr).imp_right fun ⟨he, _⟩ => nomatch he
  · exact (goes_acquire (goes_call h₁).2 hr).imp_right fun ⟨he, _⟩ => nomatch he

theorem goes_draw {start deadline : Instant} {reply : Reply (Except Fault Uuid)}
    (h : (Lease.draw workType start deadline).run.Goes executes t bs reply t') (hr : r ∈ t'.rows) :
    r ∈ t.rows ∨ ∃ id, reply = .answer (.ok id) ∧ r.id = id.text := by
  obtain ⟨id, bs₁, t₁, bs₂, -, h₁, h₂⟩ | ⟨h₁, -⟩ := Goes.lift_bind_inv h
  · obtain ⟨-, -, rfl⟩ := goes_call h₁
    exact (goes_take h₂ hr).imp_right fun hid => ⟨id, hid⟩
  · exact nomatch (goes_call h₁).2.1

/-- Taking a lease makes no row run but its own. -/
theorem goes_begin {timeout : Span} {reply : Reply (Except Fault Uuid)}
    (h : (Lease.begin workType timeout).run.Goes executes t bs reply t') (hr : r ∈ t'.rows)
    (hrun : r.isRunning = true) : r ∈ t.rows ∨ ∃ id, reply = .answer (.ok id) ∧ r.id = id.text := by
  obtain ⟨start, bs₁, t₁, bs₂, -, h₁, h₂⟩ | ⟨h₁, -⟩ := Goes.lift_bind_inv h
  · obtain ⟨-, -, rfl⟩ := goes_call h₁
    split at h₂
    · obtain ⟨-, -, rfl⟩ := h₂
      exact .inl hr
    · obtain ⟨n, bs₃, t₂, bs₄, -, h₃, h₄⟩ | ⟨fault, h₃, -⟩ | ⟨h₃, -⟩ := Goes.run_bind_inv h₂
      · obtain ⟨-, -, rfl⟩ := goes_call h₃
        exact (goes_draw h₄ hr).imp_left (mem_of_mem_expire · hrun)
      · exact nomatch (goes_call h₃).2.1
      · exact nomatch (goes_call h₃).2.1
  · exact nomatch (goes_call h₁).2.1

/-- A lease that is given back does not run any more, nor does any row of its identifier. -/
theorem goes_finish {reply : Reply (Except Fault Unit)}
    (h : (Lease.finishWork id success).run.Goes executes t bs reply t') :
    reply = .answer (.ok ()) ∧
      ∀ r ∈ t'.rows, r.isRunning = true → r ∈ t.rows ∧ r.id ≠ id.text := by
  obtain ⟨now, bs₁, t₁, bs₂, -, h₁, h₂⟩ | ⟨h₁, -⟩ := Goes.lift_bind_inv h
  · obtain ⟨-, -, rfl⟩ := goes_call h₁
    obtain ⟨n, bs₃, t₂, bs₄, -, h₃, -, rfl, rfl⟩ | ⟨fault, h₃, -⟩ | ⟨h₃, -⟩ :=
      Goes.run_bind_inv h₂
    · obtain ⟨-, -, rfl⟩ := goes_call h₃
      exact ⟨rfl, fun r hr => mem_of_mem_close hr⟩
    · exact nomatch (goes_call h₃).2.1
    · exact nomatch (goes_call h₃).2.1
  · obtain ⟨-, ⟨_, he⟩, -⟩ := goes_call h₁
    cases he

/-- What has nothing to do with the lease leaves the table as it is. -/
theorem eq_of_isAside {q : TickStep} {r : Reply (Answer q)} (hq : q.IsAside)
    (h : serves q t r t') : t' = t := by
  cases q with
  | begin | finish => exact hq.elim
  | _ => exact h

theorem eq_of_path {bs : List (Beat TickStep LeaseTable)} (h : Path serves t bs t')
    (hbs : ∀ b ∈ bs, b.exchange.question.IsAside) : t = t' :=
  h.rel TickStep.IsAside hbs (fun _ => rfl) Eq.trans fun _ _ _ _ hq hc => (eq_of_isAside hq hc).symm

end LeaseTable

/-! ## Turns -/

/-- A tick as it went: its worker, its beats, and its end. -/
structure Turn where
  worker : Worker
  beats : List (Beat TickStep LeaseTable)
  ending : Reply (Except Fault Unit)

namespace Turn

open LeaseTable (serves)

variable {turn : Turn} {turns : List Turn} {t t' : LeaseTable} {id : Uuid}

def exchanges (turn : Turn) : List (Exchange TickStep) := turn.beats.map (·.exchange)

/-- The lease that the tick took. -/
def lease? (turn : Turn) : Option Uuid :=
  match turn.exchanges with
  | ⟨.begin _ _, .answer (.ok id)⟩ :: _ => some id
  | _ => none

/-- The tick goes its course, leads from one table to another, and leaves no row running that did
not run before or is of its lease. -/
structure Released (turn : Turn) (t t' : LeaseTable) : Prop where
  course : turn.worker.Course turn.exchanges turn.ending
  path : Path serves t turn.beats t'
  rows : ∀ r ∈ t'.rows, r.isRunning = true →
    r ∈ t.rows ∧ ∀ id, turn.lease? = some id → r.id ≠ id.text

/-- Each tick of a sequence gives back its lease. -/
def AllReleased : List Turn → LeaseTable → LeaseTable → Prop
  | [], t, t' => t' = t
  | turn :: turns, t, t' => ∃ t₁, turn.Released t t₁ ∧ AllReleased turns t₁ t'

/-- A tick that took no lease makes no row run. -/
theorem rows_of_begin {reply : Reply (Except Fault Uuid)} {workType : String} {timeout : Span}
    {bs : List (Beat TickStep LeaseTable)} (hp : Path serves t bs t')
    (hbs : bs.map (·.exchange) = [⟨.begin workType timeout, reply⟩])
    (hreply : ∀ id, reply ≠ .answer (.ok id)) :
    ∀ r ∈ t'.rows, r.isRunning = true → r ∈ t.rows := by
  obtain ⟨⟨e, t₁⟩, rfl, rfl⟩ := List.map_eq_singleton_iff.mp hbs
  obtain ⟨⟨bs, hbegin⟩, rfl⟩ := hp
  intro r hr hrun
  obtain hmem | ⟨id, he, -⟩ := LeaseTable.goes_begin hbegin hr hrun
  · exact hmem
  · exact absurd he (hreply id)

/-- A tick that works makes no row run, and stops all rows of its lease. -/
theorem rows_of_worked {w : Worker} {workType : String} {timeout : Span} {v : Worker.Verdict}
    {batches closing : List (Exchange TickStep)} {ending : Reply (Except Fault Unit)}
    {bs : List (Beat TickStep LeaseTable)} (hp : Path serves t bs t')
    (hbs : bs.map (·.exchange) = ⟨.begin workType timeout, .answer (.ok id)⟩ :: (batches ++ closing))
    (hb : w.Batches batches v) (hc : w.Closes id v closing ending) :
    ∀ r ∈ t'.rows, r.isRunning = true → r ∈ t.rows ∧ r.id ≠ id.text := by
  obtain ⟨reply, notes, rfl, hnotes⟩ := hc.finish_first
  obtain ⟨⟨e, t₁⟩, bs₁, rfl, rfl, hrest⟩ := List.map_eq_cons_iff.mp hbs
  obtain ⟨bs₂, bs₃, rfl, rfl, hlast⟩ := List.map_eq_append_iff.mp hrest
  obtain ⟨⟨e, t₂⟩, bs₄, rfl, rfl, rfl⟩ := List.map_eq_cons_iff.mp hlast
  obtain ⟨⟨xs, hbegin⟩, hp⟩ := hp
  obtain ⟨t₃, hbatches, ⟨ys, hfinish⟩, hnoted⟩ := Dialogue.path_append.mp hp
  obtain rfl := LeaseTable.eq_of_path hbatches fun b hb' =>
    hb.isAside b.exchange (List.mem_map_of_mem hb')
  obtain rfl := LeaseTable.eq_of_path hnoted fun b hb' =>
    hnotes b.exchange (List.mem_map_of_mem hb')
  intro r hr hrun
  obtain ⟨hmem, hne⟩ := (LeaseTable.goes_finish hfinish).2 r hr hrun
  obtain hmem | ⟨id', he, hid⟩ := LeaseTable.goes_begin hbegin hmem hrun
  · exact ⟨hmem, hne⟩
  · cases he
    exact absurd hid hne

/-- A tick that goes its course on a table gives back its lease. -/
theorem released (hc : turn.worker.Course turn.exchanges turn.ending)
    (hp : Path serves t turn.beats t') : turn.Released t t' := by
  refine ⟨hc, hp, ?_⟩
  obtain ⟨w, bs, ending⟩ := turn
  rw [lease?]
  generalize hes : exchanges ⟨w, bs, ending⟩ = es at hc
  cases hc with
  | idle | refused | crashed =>
    exact fun r hr hrun => ⟨rows_of_begin hp hes nofun r hr hrun, nofun⟩
  | worked hb hc =>
    intro r hr hrun
    obtain ⟨hmem, hne⟩ := rows_of_worked hp hes hb hc r hr hrun
    refine ⟨hmem, fun id he => ?_⟩
    cases he
    exact hne

/-- After a sequence of ticks no row runs that did not run before it or is of a lease of theirs. -/
theorem AllReleased.rows (h : AllReleased turns t t') : ∀ r ∈ t'.rows, r.isRunning = true →
    r ∈ t.rows ∧ ∀ turn ∈ turns, ∀ id, turn.lease? = some id → r.id ≠ id.text := by
  induction turns generalizing t with
  | nil =>
    obtain rfl := h
    exact fun r hr _ => ⟨hr, nofun⟩
  | cons turn turns ih =>
    obtain ⟨t₁, hfirst, hrest⟩ := h
    intro r hr hrun
    obtain ⟨hmem, hlater⟩ := ih hrest r hr hrun
    obtain ⟨hmem, hturn⟩ := hfirst.rows r hmem hrun
    exact ⟨hmem, List.forall_mem_cons.mpr ⟨hturn, hlater⟩⟩

end Turn

namespace Worker

open LeaseTable (serves)
open Turn (AllReleased)

/-- Ticks of workers, one after the other. A panic ends the tick, not those after it. -/
def ticks : List Worker → Steps (List (Reply (Except Fault Unit)))
  | [] => pure []
  | w :: rest => do
    let ending ← w.tick.settled
    let endings ← ticks rest
    pure (ending :: endings)

theorem goes_ticks {ws : List Worker} {t t' : LeaseTable} {bs : List (Beat TickStep LeaseTable)}
    {ending : Reply (List (Reply (Except Fault Unit)))} (h : (ticks ws).Goes serves t bs ending t') :
    ∃ turns : List Turn, turns.map (·.worker) = ws ∧ ending = .answer (turns.map (·.ending)) ∧
      bs = turns.flatMap (·.beats) ∧ AllReleased turns t t' := by
  induction ws generalizing t bs ending with
  | nil =>
    obtain ⟨rfl, rfl, rfl⟩ := h
    exact ⟨[], rfl, rfl, rfl, rfl⟩
  | cons w rest ih =>
    obtain ⟨reply, bs₁, t₁, bs₂, endings, rfl, htick, hlater, rfl⟩ := Goes.settled_cons_inv h
    have hturn : Turn.Released ⟨w, bs₁, reply⟩ t t₁ :=
      Turn.released (held_tick htick.held) htick.path
    obtain ⟨turns, rfl, rfl, rfl, hturns⟩ := ih hlater
    exact ⟨⟨w, bs₁, reply⟩ :: turns, rfl, rfl, rfl, t₁, hturn, hturns⟩

/-- Every tick goes its course, whatever the lease, the log and the collaborators reply. On a table
that executes every statement every tick of a sequence leaves no running row of its own. -/
theorem ticks_release :
    (∀ (w : Worker) (es : List (Exchange TickStep)) (ending : Reply (Except Fault Unit)),
      w.tick.Held es ending → w.Course es ending) ∧
    ∀ (ws : List Worker) (t t' : LeaseTable) (bs : List (Beat TickStep LeaseTable))
      (ending : Reply (List (Reply (Except Fault Unit)))), (ticks ws).Goes serves t bs ending t' →
      ∃ turns : List Turn, turns.map (·.worker) = ws ∧ ending = .answer (turns.map (·.ending)) ∧
        bs = turns.flatMap (·.beats) ∧ AllReleased turns t t' ∧
        ∀ r ∈ t'.rows, r.isRunning = true →
          r ∈ t.rows ∧ ∀ turn ∈ turns, ∀ id, turn.lease? = some id → r.id ≠ id.text := by
  refine ⟨fun w es ending => held_tick, fun ws t t' bs ending h => ?_⟩
  obtain ⟨turns, hworkers, hending, hbeats, hturns⟩ := goes_ticks h
  exact ⟨turns, hworkers, hending, hbeats, hturns, hturns.rows⟩

/-! ## Two ticks that panic -/

namespace Panicking

def worker : Worker :=
  { workType := "resolution", leaseTimeout := .ofSeconds 10, mode := .all
    challengeSetup := { node := "0xA" }, transferSetup := { node := "0xA" } }

/-- A table on which the same identifier is drawn every time, at the same instant. -/
def table : Surroundings LeaseStep LeaseTable
  | .now, t => (.answer ⟨1700000000, 0⟩, t)
  | .newId, t => (.answer ⟨7⟩, t)
  | .expire workType now, t =>
    let (n, t) := t.expire workType now
    (.answer (.ok n), t)
  | .acquire row, t =>
    match t.acquire row with
    | .ok (taken, t) => (.answer (.ok taken), t)
    | .error fault => (.answer (.error fault), t)
  | .close id success now, t =>
    let (n, t) := t.close id success now
    (.answer (.ok n), t)

/-- Every collaborator panics. -/
def world : Surroundings TickStep LeaseTable
  | .begin workType timeout, t =>
    let run := Dialogue.run table (Lease.begin workType timeout).run t
    (run.ending, run.state)
  | .finish id success, t =>
    let run := Dialogue.run table (Lease.finishWork id success).run t
    (run.ending, run.state)
  | .note _, t => (.answer (.ok ()), t)
  | .challenge _, t => (.panic, t)
  | .transfer _, t => (.panic, t)

theorem table_executes (q : LeaseStep) (t : LeaseTable) :
    LeaseTable.executes q t (table q t).1 (table q t).2 := by
  cases q with
  | now | newId => exact ⟨⟨_, rfl⟩, rfl⟩
  | expire | close => exact ⟨rfl, rfl⟩
  | acquire row =>
    dsimp only [LeaseTable.executes, table]
    cases t.acquire row with
    | ok p => exact ⟨rfl, rfl⟩
    | error fault => exact ⟨rfl, rfl⟩

theorem world_serves (q : TickStep) (t : LeaseTable) : serves q t (world q t).1 (world q t).2 := by
  cases q with
  | begin | finish => exact ⟨_, goes_beats table_executes _ t⟩
  | _ => rfl

/-- The table after two ticks. -/
def after : LeaseTable := (Dialogue.run world (ticks [worker, worker]) {}).state

end Panicking

open Panicking in
/-- Two ticks panic one after the other. Both take the lease, and both give it back. -/
theorem ticks_release_panicking :
    after.rows.map (fun r => (r.id, r.status)) =
      [("00000000-0000-0000-0000-000000000007", "FAILURE")] ∧
    ∃ turns : List Turn, turns.map (·.worker) = [worker, worker] ∧
      turns.map (·.ending) = [.panic, .panic] ∧ AllReleased turns {} after := by
  have h := goes_beats world_serves (ticks [worker, worker]) {}
  obtain ⟨turns, hworkers, hending, -, hturns, -⟩ := ticks_release.2 _ _ _ _ _ h
  refine ⟨by decide +kernel, turns, hworkers, ?_, hturns⟩
  exact (Reply.answer.inj hending).symm

end Worker

end Sheltering
