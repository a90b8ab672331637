import Sheltering.Proofs.Reconcile
import Sheltering.Proofs.Resolver.Course
import Sheltering.Resolver.Batch

/-!
# Batches from first to last

* `BatchReport.Counts`: a report counts outcomes by class; `BatchReport.counts_ofOutcomes`: that of
  a batch does.
* `Resolver.remembering`: the surroundings of a resolver that remembers its failures.
* `Resolver.Attempted`: an attempt of a batch; `Resolver.Leads`: attempts one after the other;
  `Resolver.Attempts`: those up to the first that ends the batch.
* `Resolver.run_attempts`: the attempts of a batch are such attempts, whatever came of them.
* `Resolver.attempted_prefix`: a batch that stops at the first resolution goes as one that attempts
  all, as far as it goes.
* `Resolver.batch_lawful`: what is attempted, asked, reported and remembered in batches of both
  modes from one state.
-/

namespace Sheltering

open Dialogue (Exchange Held Run Settles Surroundings lift_bind_run run run_bind
  run_bind_of_answer run_bind_of_error run_bind_of_ok run_bind_of_panic run_held settles_call)

/-! ## Reports -/

namespace BatchReport

/-- The report counts the outcomes of a batch by class. -/
structure Counts (report : BatchReport) (opened : Nat) (outcomes : List Outcome) : Prop where
  opened : report.opened = opened
  attempted : report.attempted = outcomes.length
  resolved : report.resolved = outcomes.countP Outcome.isResolved
  skipped : report.skipped = outcomes.countP Outcome.isSkipped
  failed : report.failed = outcomes.countP Outcome.isFailed
  total : report.attempted = report.resolved + report.skipped + report.failed

theorem foldl_record (r : BatchReport) (outcomes : List Outcome) :
    outcomes.foldl record r = ⟨r.opened, r.attempted + outcomes.length,
      r.resolved + outcomes.countP Outcome.isResolved,
      r.skipped + outcomes.countP Outcome.isSkipped,
      r.failed + outcomes.countP Outcome.isFailed⟩ := by
  induction outcomes generalizing r with
  | nil => rfl
  | cons outcome outcomes ih =>
    rw [List.foldl_cons, ih]
    cases outcome <;>
      simp [record, List.countP_cons, Outcome.isResolved, Outcome.isSkipped, Outcome.isFailed] <;>
      omega

/-- Every outcome is of one class. -/
theorem length_eq_countP (outcomes : List Outcome) :
    outcomes.length = outcomes.countP Outcome.isResolved + outcomes.countP Outcome.isSkipped +
      outcomes.countP Outcome.isFailed := by
  induction outcomes with
  | nil => rfl
  | cons outcome outcomes ih =>
    cases outcome <;>
      simp [ih, List.countP_cons, Outcome.isResolved, Outcome.isSkipped, Outcome.isFailed] <;> omega

theorem counts_ofOutcomes (opened : Nat) (outcomes : List Outcome) :
    (ofOutcomes opened outcomes).Counts opened outcomes := by
  have h := foldl_record (start opened) outcomes
  simp only [start, Nat.zero_add] at h
  unfold ofOutcomes
  rw [start, h]
  exact ⟨rfl, rfl, rfl, rfl, rfl, length_eq_countP outcomes⟩

end BatchReport

namespace Resolver

open Query (IsFeed Sane)

variable {σ : Type}

/-! ## Surroundings with a memory -/

/-- The surroundings of a resolver that remembers its failures. What others do is left open; they
have the state `σ`, in which the clock has a reading. The memory answers at that reading. -/
def remembering (others : Surroundings Query σ) (clock : σ → Instant) :
    Surroundings Query (σ × Backoff) := fun q (s, b) =>
  let (reply, s') := others q s
  match b.reply (clock s) q with
  | some (a, b') => (.answer a, s', b')
  | none => (reply, s', b)

/-- The exchanges with others: all but those with the resolver's own memory. -/
def outward (es : List (Exchange Query)) : List (Exchange Query) :=
  es.filter fun e => !e.question.isMemory

/-! ## The attempts of a batch -/

/-- An attempt of a batch: its proposition, and the attempt as it was held. -/
structure Attempted (σ : Type) where
  proposition : Proposition
  run : Run Query σ Outcome

/-- A batch ends with an attempt that panics, and a batch that is to resolve one proposition with
the first that is resolved. -/
def Attempted.Ends (mode : Mode) (a : Attempted σ) : Prop :=
  a.run.ending = .panic ∨ mode = .one ∧ a.run.ending = .answer .resolved

instance (mode : Mode) (a : Attempted σ) : Decidable (a.Ends mode) :=
  inferInstanceAs (Decidable (_ ∨ _))

variable {world : Surroundings Query σ} {r : Resolver} {mode : Mode} {s : σ}
  {ps : List Proposition} {p : Proposition} {as : List (Attempted σ)} {a : Attempted σ}

/-- Attempts one after the other, each from where the one before left the surroundings. -/
def Leads (world : Surroundings Query σ) (r : Resolver) : σ → List (Attempted σ) → Prop
  | _, [] => True
  | s, a :: as =>
    a.run = run world (attempt r a.proposition) s ∧ Leads world r a.run.state as

/-- Where the last attempt left the surroundings. -/
def left (s : σ) (as : List (Attempted σ)) : σ := as.foldl (fun _ a => a.run.state) s

/-- These were the attempts at some propositions: in order, and up to the first that ends the
batch, or all. -/
structure Attempts (mode : Mode) (ps : List Proposition) (as : List (Attempted σ)) : Prop where
  inOrder : as.map (·.proposition) <+: ps
  goesOn : ∀ a ∈ as.dropLast, ¬ a.Ends mode
  complete : as.map (·.proposition) = ps ∨ ∃ a, as.getLast? = some a ∧ a.Ends mode

/-- The attempts at some propositions from a state. -/
def attempted (world : Surroundings Query σ) (r : Resolver) (mode : Mode) :
    List Proposition → σ → List (Attempted σ)
  | [], _ => []
  | p :: ps, s =>
    let a : Attempted σ := ⟨p, run world (attempt r p) s⟩
    a :: if a.Ends mode then [] else attempted world r mode ps a.run.state

theorem attempted_cons : attempted world r mode (p :: ps) s =
    ⟨p, run world (attempt r p) s⟩ ::
      if Attempted.Ends mode ⟨p, run world (attempt r p) s⟩ then []
      else attempted world r mode ps (run world (attempt r p) s).state :=
  rfl

/-- What the attempts came to, unless one of them panicked. -/
def gathered : List (Attempted σ) → Reply (List Outcome)
  | [] => .answer []
  | a :: as =>
    match a.run.ending with
    | .panic => .panic
    | .answer outcome => (gathered as).map (outcome :: ·)

theorem leads_attempted (ps : List Proposition) (s : σ) :
    Leads world r s (attempted world r mode ps s) := by
  induction ps generalizing s with
  | nil => trivial
  | cons p ps ih =>
    unfold attempted
    refine ⟨rfl, ?_⟩
    split
    · trivial
    · exact ih _

/-- What holds of all but the last of a list, by its first element. -/
theorem forall_mem_dropLast_cons {α : Type} {test : α → Prop} {x : α} {xs : List α} :
    (∀ y ∈ (x :: xs).dropLast, test y) ↔ (xs ≠ [] → test x) ∧ ∀ y ∈ xs.dropLast, test y := by
  cases xs with
  | nil => simp
  | cons z zs => simp

theorem attempts_attempted (world : Surroundings Query σ) (r : Resolver) (mode : Mode)
    (ps : List Proposition) (s : σ) :
    Attempts mode ps (attempted world r mode ps s) := by
  induction ps generalizing s with
  | nil => exact ⟨List.prefix_rfl, List.forall_mem_nil _, .inl rfl⟩
  | cons p ps ih =>
    unfold attempted
    dsimp only
    split
    · rename_i hends
      exact ⟨by simp, by simp, .inr ⟨_, rfl, hends⟩⟩
    · rename_i hends
      obtain ⟨horder, hgoes, hcomplete⟩ := ih (run world (attempt r p) s).state
      refine ⟨by simpa using horder, forall_mem_dropLast_cons.mpr ⟨fun _ => hends, hgoes⟩, ?_⟩
      rcases hcomplete with hall | ⟨a, ha, hends⟩
      · exact .inl (congrArg (p :: ·) hall)
      · refine .inr ⟨a, ?_, hends⟩
        rw [List.getLast?_cons, ha]
        rfl

/-- The attempts at some propositions, held one after the other, whatever came of them. -/
theorem run_attempts (ps : List Proposition) (s : σ) : run world (attempts r mode ps) s =
    ⟨(attempted world r mode ps s).flatMap (·.run.exchanges),
      gathered (attempted world r mode ps s), left s (attempted world r mode ps s)⟩ := by
  induction ps generalizing s with
  | nil => rfl
  | cons p ps ih =>
    rw [attempts, attempted_cons]
    cases hfirst : (run world (attempt r p) s).ending with
    | panic =>
      have hends : (⟨p, run world (attempt r p) s⟩ : Attempted σ).Ends mode := .inl hfirst
      refine (run_bind world (attempt r p) _ s).trans ?_
      simp [hends, gathered, left, hfirst]
    | answer outcome =>
      refine (run_bind_of_answer hfirst).trans ?_
      have hends : (⟨p, run world (attempt r p) s⟩ : Attempted σ).Ends mode ↔
          mode = .one ∧ outcome.isResolved := by
        unfold Attempted.Ends
        cases outcome <;> simp [hfirst, Outcome.isResolved]
      by_cases hlast : mode = .one ∧ outcome.isResolved
      · rw [if_pos (hends.mpr hlast)]
        dsimp only
        rw [if_pos hlast]
        simp [gathered, left, hfirst, Reply.map]
      · rw [if_neg (mt hends.mp hlast)]
        dsimp only
        rw [if_neg hlast]
        have hrest : run world (attempts r mode ps >>= fun more => pure (outcome :: more))
            (run world (attempt r p) s).state = _ := run_bind _ _ _ _
        rw [hrest, ih]
        cases hmore : gathered (attempted world r mode ps (run world (attempt r p) s).state) <;>
          simp [gathered, left, hfirst, hmore, Reply.map]

/-! ## Both modes -/

theorem ends_all : a.Ends .all ↔ a.run.ending = .panic := by simp [Attempted.Ends]

theorem ends_one : a.Ends .one ↔ a.Ends .all ∨ a.run.ending = .answer .resolved := by
  simp [Attempted.Ends]

/-- A batch that stops at the first resolution goes as one that attempts all, as far as it goes. -/
theorem attempted_prefix (world : Surroundings Query σ) (r : Resolver) (ps : List Proposition)
    (s : σ) : attempted world r .one ps s <+: attempted world r .all ps s := by
  induction ps generalizing s with
  | nil => exact List.prefix_rfl
  | cons p ps ih =>
    rw [attempted_cons, attempted_cons]
    refine List.prefix_cons_iff.mpr (.inr ⟨_, rfl, ?_⟩)
    by_cases hone : (⟨p, run world (attempt r p) s⟩ : Attempted σ).Ends .one
    · rw [if_pos hone]
      exact List.nil_prefix
    · rw [if_neg hone, if_neg (mt (ends_one.mpr ∘ .inl) hone)]
      exact ih _

/-- It goes as far if nothing is resolved before the last attempt. -/
theorem attempted_eq (ps : List Proposition) (s : σ)
    (h : ∀ a ∈ (attempted world r .all ps s).dropLast, a.run.ending ≠ .answer .resolved) :
    attempted world r .one ps s = attempted world r .all ps s := by
  induction ps generalizing s with
  | nil => rfl
  | cons p ps ih =>
    rw [attempted_cons] at h
    rw [attempted_cons, attempted_cons]
    by_cases hall : (⟨p, run world (attempt r p) s⟩ : Attempted σ).Ends .all
    · rw [if_pos hall, if_pos (ends_one.mpr (.inl hall))]
    · rw [if_neg hall] at h ⊢
      obtain ⟨hfirst, hlater⟩ := forall_mem_dropLast_cons.mp h
      by_cases hone : (⟨p, run world (attempt r p) s⟩ : Attempted σ).Ends .one
      · -- The proposition is resolved, so no other is attempted after it.
        have hresolved := (ends_one.mp hone).resolve_left hall
        have hnil := Decidable.not_not.mp fun hne => hfirst hne hresolved
        rw [if_pos hone, hnil]
      · rw [if_neg hone]
        exact congrArg _ (ih _ hlater)

/-! ## What attempts come to -/

theorem gathered_answer {outcomes : List Outcome} (h : gathered as = .answer outcomes) :
    as.map (·.run.ending) = outcomes.map .answer := by
  induction as generalizing outcomes with
  | nil =>
    cases h
    rfl
  | cons a as ih =>
    unfold gathered at h
    split at h
    · cases h
    · rename_i outcome ha
      cases hrest : gathered as with
      | panic => simp [hrest, Reply.map] at h
      | answer rest =>
        obtain rfl : outcome :: rest = outcomes := by simpa [hrest, Reply.map] using h
        simp [ha, ih hrest]

theorem gathered_panic (h : gathered as = .panic) : ∃ a ∈ as, a.run.ending = .panic := by
  induction as with
  | nil => cases h
  | cons a as ih =>
    unfold gathered at h
    split at h
    · rename_i ha
      exact ⟨a, List.mem_cons_self, ha⟩
    · cases hrest : gathered as with
      | panic =>
        obtain ⟨b, hb, hpanic⟩ := ih hrest
        exact ⟨b, List.mem_cons_of_mem _ hb, hpanic⟩
      | answer rest => simp [hrest, Reply.map] at h

/-- Only the last attempt ends a batch. -/
theorem Attempts.getLast?_eq (h : Attempts mode ps as) (ha : a ∈ as) (hends : a.Ends mode) :
    as.getLast? = some a := by
  have hne : as ≠ [] := List.ne_nil_of_mem ha
  rw [← List.dropLast_concat_getLast hne] at ha ⊢
  rcases List.mem_append.mp ha with hearly | hlast
  · exact absurd hends (h.goesOn a hearly)
  · rw [List.getLast?_concat, List.mem_singleton.mp hlast]

/-- Where no attempt panics, a batch that is to attempt all does. -/
theorem Attempts.all (h : Attempts .all ps as) (hanswer : ∀ a ∈ as, a.run.ending ≠ .panic) :
    as.map (·.proposition) = ps := by
  rcases h.complete with hall | ⟨a, ha, hends⟩
  · exact hall
  · exact absurd (ends_all.mp hends) (hanswer a (List.mem_of_getLast? ha))

/-- Where no attempt panics, a batch that is to resolve one proposition ends with the first that is
resolved, or attempts all. -/
theorem Attempts.first {outcomes : List Outcome} (h : Attempts .one ps as)
    (ho : as.map (·.run.ending) = outcomes.map .answer) :
    (∀ outcome ∈ outcomes.dropLast, outcome ≠ .resolved) ∧
      (as.map (·.proposition) = ps ∨ outcomes.getLast? = some .resolved) := by
  constructor
  · rintro outcome hmem rfl
    have hmem : Reply.answer Outcome.resolved ∈ as.dropLast.map (·.run.ending) := by
      rw [List.map_dropLast, ho, ← List.map_dropLast]
      exact List.mem_map_of_mem hmem
    obtain ⟨a, ha, hresolved⟩ := List.mem_map.mp hmem
    exact h.goesOn a ha (ends_one.mpr (.inr hresolved))
  · refine h.complete.imp_right fun ⟨a, ha, hends⟩ => ?_
    have hlast : some a.run.ending = outcomes.getLast?.map .answer := by
      rw [← List.getLast?_map, ← ho, List.getLast?_map, ha, Option.map_some]
    obtain ⟨outcome, houtcome, hending⟩ := Option.map_eq_some_iff.mp hlast.symm
    unfold Attempted.Ends at hends
    rw [houtcome]
    simpa [← hending] using hends

/-- A batch that is to resolve one proposition resolves no second. -/
theorem countP_isResolved_le_one {outcomes : List Outcome}
    (h : ∀ outcome ∈ outcomes.dropLast, outcome ≠ .resolved) :
    outcomes.countP Outcome.isResolved ≤ 1 := by
  have hearly : outcomes.dropLast.countP Outcome.isResolved = 0 := by
    refine List.countP_eq_zero.mpr fun outcome hmem hresolved => h outcome hmem ?_
    cases outcome with
    | resolved => rfl
    | skipped | failed => cases hresolved
  by_cases hnil : outcomes = []
  · simp [hnil]
  · rw [← List.dropLast_concat_getLast hnil, List.countP_append, hearly, Nat.zero_add]
    exact List.countP_le_length

/-! ## Before the attempts -/

theorem nodup_ids_of_held {node : String} {es : List (Exchange Query)}
    (h : (ongoing node).run.Held es (.answer (.ok ps))) : (ps.map (·.id)).Nodup := by
  obtain ⟨feeds, -, es₂, -, -, h⟩ | ⟨_, -, he⟩ | ⟨-, he⟩ := Held.run_bind_inv h
  · cases h.2
    exact nodup_ids_reconcile feeds node
  · cases he
  · cases he

theorem settles_ongoing {node : String} : (ongoing node).run.Settles Sane := by
  refine Settles.run_bind ?_ fun _ => trivial
  refine Settles.run_bind (settles_call id) fun window => ?_
  refine Settles.run_bind (settles_call id) fun since => ?_
  refine Settles.run_bind (settles_call id) fun opened => ?_
  refine Settles.run_bind (settles_call id) fun resolved => ?_
  exact Settles.run_bind (settles_call id) fun timedOut => trivial

theorem settles_attempts : (attempts r mode ps).Settles Sane := by
  induction ps with
  | nil => trivial
  | cons p rest ih =>
    refine Settles.bind settles_attempt fun outcome => ?_
    split
    · trivial
    · exact Settles.bind ih fun _ => trivial

/-- A batch fails with a fault of the ledger's feeds or makes its report, if its exchanges are
sane. -/
theorem settles_batch : (batch r mode).run.Settles Sane := by
  refine Settles.run_bind settles_ongoing fun opened => ?_
  rw [lift_bind_run]
  refine Settles.bind settles_attempts fun outcomes => ?_
  rw [lift_bind_run]
  exact Settles.bind (settles_call id) fun _ => trivial

/-! ## The law of batches -/

section Law

variable {others : Surroundings Query σ} {clock : σ → Instant} {before : σ × Backoff}
  {opening : Run Query (σ × Backoff) (Except Fault (List Proposition))}
  {whole : Run Query (σ × Backoff) (Except Fault BatchReport)}

/-- The open propositions were not found out. The batch ended as the search for them did, it asked
for the feeds only, and it left the memory as it was. -/
structure Unopened (before : σ × Backoff)
    (opening : Run Query (σ × Backoff) (Except Fault (List Proposition)))
    (whole : Run Query (σ × Backoff) (Except Fault BatchReport)) : Prop where
  ending : (∃ fault, opening.ending = .answer (.error fault) ∧
      whole.ending = .answer (.error fault)) ∨
    (opening.ending = .panic ∧ whole.ending = .panic)
  exchanges : whole.exchanges = opening.exchanges
  feeds : ∀ e ∈ whole.exchanges, e.question.IsFeed
  memory : whole.state.2 = before.2

/-- The attempts of a batch had outcomes. The batch swept the memory after them and reported. -/
structure Reported (clock : σ → Instant) (mode : Mode) (ps : List Proposition)
    (opening : Run Query (σ × Backoff) (Except Fault (List Proposition)))
    (as : List (Attempted (σ × Backoff)))
    (whole : Run Query (σ × Backoff) (Except Fault BatchReport)) (outcomes : List Outcome)
    (report : BatchReport) : Prop where
  endings : as.map (·.run.ending) = outcomes.map .answer
  all : mode = .all → as.map (·.proposition) = ps
  first : mode = .one → (∀ outcome ∈ outcomes.dropLast, outcome ≠ .resolved) ∧
    (as.map (·.proposition) = ps ∨ outcomes.getLast? = some .resolved)
  exchanges : ∃ closing, whole.exchanges =
    opening.exchanges ++ as.flatMap (·.run.exchanges) ++ [⟨.sweep, closing⟩]
  ending : whole.ending = .answer (.ok report)
  counts : report.Counts ps.length outcomes
  one : mode = .one → report.resolved ≤ 1
  swept : ∀ w ∈ whole.state.2.windows, clock (left opening.state as).1 < w.2

/-- The last attempt of a batch panicked, and the batch with it. -/
structure Broken (opening : Run Query (σ × Backoff) (Except Fault (List Proposition)))
    (as : List (Attempted (σ × Backoff)))
    (whole : Run Query (σ × Backoff) (Except Fault BatchReport)) : Prop where
  last : ∃ a, as.getLast? = some a ∧ a.run.ending = .panic
  exchanges : whole.exchanges = opening.exchanges ++ as.flatMap (·.run.exchanges)
  ending : whole.ending = .panic

/-- The open propositions were found out, and these were the attempts at them. -/
structure Opened (others : Surroundings Query σ) (clock : σ → Instant) (r : Resolver) (mode : Mode)
    (ps : List Proposition) (opening : Run Query (σ × Backoff) (Except Fault (List Proposition)))
    (as : List (Attempted (σ × Backoff)))
    (whole : Run Query (σ × Backoff) (Except Fault BatchReport)) : Prop
    extends Attempts mode ps as where
  leads : Leads (remembering others clock) r opening.state as
  ended : (∃ outcomes report, Reported clock mode ps opening as whole outcomes report) ∨
    Broken opening as whole

/-- A question for the feeds leaves the memory as it is. -/
theorem remembering_feed {q : Query} (hq : q.IsFeed) :
    (remembering others clock q before).2.2 = before.2 := by
  cases q with
  | duration | earliestBlock | openedEvents | resolvedEvents | timedOutEvents => rfl
  | _ => exact hq.elim

theorem unopened_batch (mode : Mode)
    (hopening : ∀ ps, (run (remembering others clock) (ongoing r.node).run before).ending ≠
      .answer (.ok ps)) :
    Unopened before (run (remembering others clock) (ongoing r.node).run before)
      (run (remembering others clock) (batch r mode).run before) := by
  have hfeeds : ∀ e ∈ (run (remembering others clock) (ongoing r.node).run before).exchanges,
      e.question.IsFeed := asks_ongoing_feed.held (run_held _ _ _)
  have hmemory : (run (remembering others clock) (ongoing r.node).run before).state.2 = before.2 :=
    asks_ongoing_feed.run_state (p := fun s : σ × Backoff => s.2 = before.2)
      (fun _ _ hq h => (remembering_feed hq).trans h) rfl
  cases hending : (run (remembering others clock) (ongoing r.node).run before).ending with
  | panic =>
    have hrun : run (remembering others clock) (batch r mode).run before = _ :=
      run_bind_of_panic hending
    rw [hrun]
    exact ⟨.inr ⟨hending, rfl⟩, rfl, hfeeds, hmemory⟩
  | answer opened =>
    cases opened with
    | ok ps => exact absurd hending (hopening ps)
    | error fault =>
      have hrun : run (remembering others clock) (batch r mode).run before = _ :=
        run_bind_of_error hending
      rw [hrun]
      exact ⟨.inl ⟨fault, hending, rfl⟩, rfl, hfeeds, hmemory⟩

theorem opened_batch (mode : Mode)
    (hopening : (run (remembering others clock) (ongoing r.node).run before).ending =
      .answer (.ok ps)) :
    Opened others clock r mode ps (run (remembering others clock) (ongoing r.node).run before)
      (attempted (remembering others clock) r mode ps
        (run (remembering others clock) (ongoing r.node).run before).state)
      (run (remembering others clock) (batch r mode).run before) := by
  generalize hfirst : run (remembering others clock) (ongoing r.node).run before = first at *
  have hattempts := attempts_attempted (remembering others clock) r mode ps first.state
  refine ⟨hattempts, leads_attempted ps first.state, ?_⟩
  generalize has : attempted (remembering others clock) r mode ps first.state = as at *
  have hrun : run (remembering others clock) (attempts r mode ps) first.state =
      ⟨as.flatMap (·.run.exchanges), gathered as, left first.state as⟩ := has ▸ run_attempts ps _
  rw [batch, run_bind_of_ok (hfirst ▸ hopening), hfirst, lift_bind_run]
  cases hgathered : gathered as with
  | panic =>
    rw [hgathered] at hrun
    rw [run_bind_of_panic (congrArg (·.ending) hrun), hrun]
    obtain ⟨a, ha, hpanic⟩ := gathered_panic hgathered
    exact .inr ⟨⟨a, hattempts.getLast?_eq ha (.inl hpanic), hpanic⟩, rfl, rfl⟩
  | answer outcomes =>
    rw [hgathered] at hrun
    rw [run_bind_of_answer (congrArg (·.ending) hrun), hrun]
    have houtcomes := gathered_answer hgathered
    have hcounts := BatchReport.counts_ofOutcomes ps.length outcomes
    refine .inl ⟨outcomes, _, houtcomes, ?_, ?_, ⟨_, (List.append_assoc _ _ _).symm⟩, rfl, hcounts,
      ?_, ?_⟩
    · rintro rfl
      refine hattempts.all fun a ha hpanic => ?_
      have hmem := List.mem_map_of_mem (f := fun a => a.run.ending) ha
      rw [houtcomes, hpanic] at hmem
      simp at hmem
    · rintro rfl
      exact hattempts.first houtcomes
    · rintro rfl
      rw [hcounts.resolved]
      exact countP_isResolved_le_one (hattempts.first houtcomes).1
    · intro w hw
      exact of_decide_eq_true (List.mem_filter.mp hw).2

theorem Opened.outward_eq {as : List (Attempted (σ × Backoff))}
    (h : Opened others clock r mode ps opening as whole) :
    outward whole.exchanges = outward (opening.exchanges ++ as.flatMap (·.run.exchanges)) := by
  obtain ⟨outcomes, report, h⟩ | h := h.ended
  · obtain ⟨closing, hexchanges⟩ := h.exchanges
    rw [hexchanges]
    exact (List.filter_append _ _).trans (List.append_nil _)
  · rw [h.exchanges]

/-- Batches of both modes go alike if the attempts of both are the same. -/
theorem run_batch_congr {mode' : Mode}
    (hopening : (run world (ongoing r.node).run s).ending = .answer (.ok ps))
    (h : attempted world r mode ps (run world (ongoing r.node).run s).state =
      attempted world r mode' ps (run world (ongoing r.node).run s).state) :
    run world (batch r mode).run s = run world (batch r mode').run s := by
  rw [batch, batch, run_bind_of_ok hopening, run_bind_of_ok hopening, lift_bind_run, lift_bind_run,
    run_bind, run_bind, run_attempts, run_attempts, h]

/-- Batches of both modes, from one state. They panic only if somebody does or a pick is out of
range. If the open propositions are not found out, nothing else is done. If they are, they are
attempted in order and reported on, and the batch that is to resolve one goes as the other as far as
it goes, which is all the way if nothing is resolved before the last attempt. -/
theorem batch_lawful (others : Surroundings Query σ) (clock : σ → Instant) (r : Resolver)
    (before : σ × Backoff) :
    let opening := run (remembering others clock) (ongoing r.node).run before
    let whole (mode : Mode) := run (remembering others clock) (batch r mode).run before
    (∀ mode, (∀ e ∈ (whole mode).exchanges, Sane e) → (whole mode).ending ≠ .panic) ∧
    ((∀ mode, Unopened before opening (whole mode)) ∨
      ∃ ps as as', opening.ending = .answer (.ok ps) ∧ (ps.map (·.id)).Nodup ∧
        Opened others clock r .one ps opening as (whole .one) ∧
        Opened others clock r .all ps opening as' (whole .all) ∧
        as <+: as' ∧ outward (whole .one).exchanges <+: outward (whole .all).exchanges ∧
        ((∀ a ∈ as'.dropLast, a.run.ending ≠ .answer .resolved) →
          as = as' ∧ whole .one = whole .all)) := by
  intro opening whole
  refine ⟨fun mode hsane hpanic => ?_, ?_⟩
  · obtain ⟨reply, hreply⟩ := settles_batch.held (run_held _ (batch r mode).run before) hsane
    exact nomatch hreply.symm.trans hpanic
  by_cases hopening : ∃ ps, opening.ending = .answer (.ok ps)
  · obtain ⟨ps, hps⟩ := hopening
    have hone := opened_batch (r := r) .one hps
    have hall := opened_batch (r := r) .all hps
    have halong := attempted_prefix (remembering others clock) r ps opening.state
    have hids := nodup_ids_of_held (hps ▸ run_held (remembering others clock) _ before)
    refine .inr ⟨ps, _, _, hps, hids, hone, hall, halong, ?_, fun hlast => ?_⟩
    · obtain ⟨more, hmore⟩ := halong
      rw [hone.outward_eq, hall.outward_eq, ← hmore, List.flatMap_append, ← List.append_assoc]
      exact (List.prefix_append _ _).filter _
    · have heq := attempted_eq ps opening.state hlast
      exact ⟨heq, run_batch_congr hps heq⟩
  · exact .inl fun mode => unopened_batch mode fun ps hps => hopening ⟨ps, hps⟩

end Law

end Resolver

end Sheltering
