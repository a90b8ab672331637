import Mathlib.Data.List.Nodup
import Sheltering.Proofs.Backoff
import Sheltering.Proofs.Reconcile
import Sheltering.Proofs.Resolver.Donors
import Sheltering.Proofs.Resolver.Scope

/-!
# Propositions of one batch

* `Resolver.standing`: surroundings whose answers depend on the question alone, with a memory of
  failures at a clock that stands still.
* `Resolver.alike_attempt`, `Resolver.get?_attempt_of_ne`: an attempt depends on the window of its
  own id only, and changes no other.
* `Resolver.Turn`: an attempt among others. `Resolver.IsBatch`: a batch, turn by turn.
* `Resolver.exists_turns`: among others every proposition has the turn that it has alone.
* `Resolver.same_turn`: whatever else is open or remembered, a proposition has the same turn.
-/

namespace Sheltering

open Dialogue (Alike Asks Exchange Held Run Surroundings run run_bind_of_answer run_bind_of_ok
  run_held run_lift_bind_of_answer)

namespace Resolver

open Query (IsFeed IsOf Sane)

/-- Everybody's answers depend on the question alone, and the memory of failures is at a clock that
stands still. -/
def standing (answer : (q : Query) → Answer q) (now : Instant) : Surroundings Query Backoff :=
  fun q b =>
    match b.reply now q with
    | some (a, b) => (.answer a, b)
    | none => (.answer (answer q), b)

variable {r : Resolver} {p : Proposition} {q : Query} {answer answer' : (q : Query) → Answer q}
  {now : Instant} {b b' : Backoff} {id : String}

/-! ## One attempt -/

/-- A question of an attempt changes no window but that of the proposition. -/
theorem get?_standing_of_ne (hq : q.IsOf p) (hid : id ≠ p.id) :
    (standing answer now q b).2.get? id = b.get? id := by
  cases q with
  | isSuppressed id' =>
    obtain rfl : id' = p.id := hq
    exact Backoff.get?_lookup.trans (if_neg hid)
  | remember id' ttl =>
    obtain rfl : id' = p.id := hq
    exact Backoff.get?_insert.trans (if_neg hid)
  | sweep => exact hq.elim
  | _ => rfl

/-- The answer to a question of an attempt depends on the window of the proposition alone, and so
does what becomes of that. -/
theorem standing_congr (hanswer : ∀ q, ¬ q.IsFeed → answer q = answer' q) (hq : q.IsOf p)
    (h : b.get? p.id = b'.get? p.id) :
    (standing answer now q b).1 = (standing answer' now q b').1 ∧
      (standing answer now q b).2.get? p.id = (standing answer' now q b').2.get? p.id := by
  cases q with
  | isSuppressed id' =>
    obtain rfl : id' = p.id := hq
    have hopen : b.Open p.id now ↔ b'.Open p.id now := by rw [Backoff.Open, h, Backoff.Open]
    constructor
    · show Reply.answer (b.lookup p.id now).1 = Reply.answer (b'.lookup p.id now).1
      rw [Backoff.lookup_eq, Backoff.lookup_eq, decide_eq_decide.mpr hopen]
    · show (b.lookup p.id now).2.get? p.id = (b'.lookup p.id now).2.get? p.id
      rw [Backoff.get?_lookup, Backoff.get?_lookup, h]
  | remember id' ttl =>
    obtain rfl : id' = p.id := hq
    refine ⟨rfl, ?_⟩
    show (b.insert p.id _).get? p.id = (b'.insert p.id _).get? p.id
    rw [Backoff.get?_insert, Backoff.get?_insert, if_pos rfl, if_pos rfl]
  | duration | earliestBlock | openedEvents | resolvedEvents | timedOutEvents | sweep =>
    exact hq.elim
  | _ => exact ⟨congrArg Reply.answer (hanswer _ id), h⟩

/-- Attempts at a proposition go alike if its windows are the same. -/
theorem alike_attempt (hanswer : ∀ q, ¬ q.IsFeed → answer q = answer' q)
    (h : b.get? p.id = b'.get? p.id) (r : Resolver) (now : Instant) :
    Alike (fun b b' => b.get? p.id = b'.get? p.id) (run (standing answer now) (attempt r p) b)
      (run (standing answer' now) (attempt r p) b') :=
  asks_attempt.alike (fun _ _ _ hq h => standing_congr hanswer hq h) h

/-- An attempt changes no window but that of its proposition. -/
theorem get?_attempt_of_ne (hid : id ≠ p.id) :
    (run (standing answer now) (attempt r p) b).state.get? id = b.get? id :=
  asks_attempt.run_state (p := fun b' : Backoff => b'.get? id = b.get? id)
    (fun _ _ hq h => (get?_standing_of_ne hq hid).trans h) rfl

theorem get?_attempts_of_ne {mode : Mode} {ps : List Proposition} (hid : ∀ p ∈ ps, id ≠ p.id) :
    (run (standing answer now) (attempts r mode ps) b).state.get? id = b.get? id :=
  asks_attempts.run_state (p := fun b' : Backoff => b'.get? id = b.get? id)
    (fun _ _ ⟨p, hp, hq⟩ h => (get?_standing_of_ne hq (hid p hp)).trans h) rfl

/-- What is picked is in range. -/
def PicksInRange (answer : (q : Query) → Answer q) : Prop :=
  ∀ n, 0 < n → Nat.lt (answer (.pick n)) n

theorem asks_attempt_possible : (attempt r p).Asks IsPossible := by
  have possible : ∀ q : Query, (∀ n, q ≠ .pick n) → IsPossible q := by
    intro q hq
    cases q with
    | pick n => exact absurd rfl (hq n)
    | _ => trivial
  exact asks_attempt_of (asks_resolve_of asks_fetchBundle_possible fun q _ hq => possible q hq)
    fun q _ hq => possible q hq

/-- Every attempt has an outcome. -/
theorem ending_attempt (hpick : PicksInRange answer) (r : Resolver) (p : Proposition)
    (now : Instant) (b : Backoff) :
    ∃ outcome, (run (standing answer now) (attempt r p) b).ending = .answer outcome := by
  refine settles_attempt.held (run_held _ _ _) ?_
  refine asks_attempt_possible.run_exchanges fun q b hq => ?_
  cases q with
  | pick n => exact hpick n hq
  | _ => trivial

/-! ## Turns -/

/-- An attempt of a batch. -/
@[ext]
structure Turn where
  proposition : Proposition
  exchanges : List (Exchange Query)
  outcome : Outcome

/-- These are turns of some propositions, one of each, in order. -/
structure Turns (r : Resolver) (ps : List Proposition) (turns : List Turn) : Prop where
  propositions : turns.map (·.proposition) = ps
  held : ∀ t ∈ turns, (attempt r t.proposition).Held t.exchanges (.answer t.outcome)

/-- The attempts at some propositions were these turns. -/
structure IsSeries (r : Resolver) (ps : List Proposition) (turns : List Turn)
    (whole : Run Query Backoff (List Outcome)) : Prop extends Turns r ps turns where
  exchanges : whole.exchanges = turns.flatMap (·.exchanges)
  ending : whole.ending = .answer (turns.map (·.outcome))

/-- The turn is what an attempt at its proposition alone is. -/
structure Turn.Alone (t : Turn) (alone : Run Query Backoff Outcome) : Prop where
  exchanges : t.exchanges = alone.exchanges
  outcome : .answer t.outcome = alone.ending

theorem attempts_all_cons (ps : List Proposition) : attempts r .all (p :: ps) =
    (attempt r p).bind fun outcome =>
      (attempts r .all ps).bind fun more => .done (outcome :: more) := by
  rw [attempts]
  refine congrArg _ (funext fun outcome => ?_)
  exact if_neg fun h => nomatch h.1

/-- Among others every proposition has the turn that it has alone, and the same window after it. -/
theorem exists_turns (hpick : PicksInRange answer) (r : Resolver) (now : Instant)
    {ps : List Proposition} (hids : (ps.map (·.id)).Nodup) (b : Backoff) :
    ∃ turns, IsSeries r ps turns (run (standing answer now) (attempts r .all ps) b) ∧
      ∀ t ∈ turns, t.Alone (run (standing answer now) (attempt r t.proposition) b) ∧
        (run (standing answer now) (attempts r .all ps) b).state.get? t.proposition.id =
          (run (standing answer now) (attempt r t.proposition) b).state.get? t.proposition.id := by
  induction ps generalizing b with
  | nil => exact ⟨[], ⟨⟨rfl, fun t ht => nomatch ht⟩, rfl, rfl⟩, fun t ht => nomatch ht⟩
  | cons p ps ih =>
    obtain ⟨hne, hids⟩ := List.nodup_cons.mp hids
    have hne : ∀ q ∈ ps, p.id ≠ q.id := fun q hq he => hne (List.mem_map.mpr ⟨q, hq, he.symm⟩)
    obtain ⟨outcome, hending⟩ := ending_attempt hpick r p now b
    let first := run (standing answer now) (attempt r p) b
    obtain ⟨turns, hturns, halone⟩ := ih hids first.state
    have hmember : ∀ t ∈ turns, t.proposition ∈ ps := fun t ht =>
      hturns.propositions ▸ List.mem_map_of_mem ht
    rw [attempts_all_cons, run_bind_of_answer hending, run_bind_of_answer hturns.ending]
    refine ⟨⟨p, first.exchanges, outcome⟩ :: turns, ⟨⟨?_, ?_⟩, ?_, rfl⟩, ?_⟩
    · exact congrArg (p :: ·) hturns.propositions
    · refine List.forall_mem_cons.mpr ⟨?_, hturns.held⟩
      exact hending ▸ run_held (standing answer now) (attempt r p) b
    · show first.exchanges ++ (_ ++ []) = _
      rw [List.append_nil, hturns.exchanges, List.flatMap_cons]
    · refine List.forall_mem_cons.mpr ⟨?_, fun t ht => ?_⟩
      · exact ⟨⟨rfl, hending.symm⟩, get?_attempts_of_ne hne⟩
      obtain ⟨⟨hexchanges, houtcome⟩, hwindow⟩ := halone t ht
      -- The attempt at `p` has left the window of `t` alone, so `t` is as it would be without it.
      have hsame : first.state.get? t.proposition.id = b.get? t.proposition.id :=
        get?_attempt_of_ne fun he => hne _ (hmember t ht) he.symm
      have hanswer : ∀ q, ¬ q.IsFeed → answer q = answer q := fun _ _ => rfl
      have halike := alike_attempt hanswer hsame r now
      exact ⟨⟨hexchanges.trans halike.exchanges, houtcome.trans halike.ending⟩,
        hwindow.trans halike.state⟩

/-! ## Batches -/

/-- The ledger has the feeds, for the time and the blocks that matter. -/
def Tells (answer : (q : Query) → Answer q) (feeds : Feeds) : Prop :=
  ∃ (window : Span) (since : UInt64),
    (answer .duration : Except Fault Span) = .ok window ∧
    (answer (.earliestBlock window) : Except Fault UInt64) = .ok since ∧
    (answer (.openedEvents since) : Except Fault (List Proposition)) = .ok feeds.opened ∧
    (answer (.resolvedEvents since) : Except Fault (List ResolvedEvent)) = .ok feeds.resolved ∧
    (answer (.timedOutEvents since) : Except Fault (List TimedOutEvent)) = .ok feeds.timedOut

/-- The batch was made of these turns, after the questions for the feeds and before a sweep. -/
structure IsBatch (r : Resolver) (ps : List Proposition) (turns : List Turn)
    (whole : Run Query Backoff (Except Fault BatchReport)) : Prop extends Turns r ps turns where
  exchanges : ∃ opening closing, (∀ e ∈ opening, e.question.IsFeed) ∧
    whole.exchanges = opening ++ (turns.flatMap (·.exchanges) ++ [⟨.sweep, closing⟩])
  ending : whole.ending = .answer (.ok (.ofOutcomes ps.length (turns.map (·.outcome))))

/-- What asks and leaves the memory as it is may be left out, once its answer is known. -/
theorem ending_bind_of_ok {α β : Type} {x : Ask Fault α} {f : α → Ask Fault β} {a : α}
    (hx : (run (standing answer now) x.run b).ending = .answer (.ok a))
    (hb : (run (standing answer now) x.run b).state = b) :
    (run (standing answer now) (x >>= f).run b).ending =
      (run (standing answer now) (f a).run b).ending := by
  rw [run_bind_of_ok hx, hb]

/-- The feeds are what the ledger tells. -/
theorem ending_feeds {feeds : Feeds} (h : Tells answer feeds) :
    (run (standing answer now) Resolver.feeds.run b).ending = .answer (.ok feeds) := by
  obtain ⟨window, since, hwindow, hsince, hopened, hresolved, htimedOut⟩ := h
  have h₁ : (run (standing answer now) Ask.duration.run b).ending = .answer (.ok window) :=
    congrArg Reply.answer hwindow
  have h₂ : (run (standing answer now) (Ask.earliestBlock window).run b).ending =
    .answer (.ok since) := congrArg Reply.answer hsince
  have h₃ : (run (standing answer now) (Ask.openedEvents since).run b).ending =
    .answer (.ok feeds.opened) := congrArg Reply.answer hopened
  have h₄ : (run (standing answer now) (Ask.resolvedEvents since).run b).ending =
    .answer (.ok feeds.resolved) := congrArg Reply.answer hresolved
  have h₅ : (run (standing answer now) (Ask.timedOutEvents since).run b).ending =
    .answer (.ok feeds.timedOut) := congrArg Reply.answer htimedOut
  rw [Resolver.feeds, ending_bind_of_ok h₁ rfl, ending_bind_of_ok h₂ rfl,
    ending_bind_of_ok h₃ rfl, ending_bind_of_ok h₄ rfl, ending_bind_of_ok h₅ rfl]
  rfl

/-- The propositions that are open are those of the feeds. -/
theorem ending_ongoing {feeds : Feeds} {node : String} (h : Tells answer feeds) :
    (run (standing answer now) (ongoing node).run b).ending =
      .answer (.ok (reconcile feeds node)) := by
  rw [ongoing, run_bind_of_ok (ending_feeds h)]
  rfl

/-- Questions for the feeds leave the memory as it is. -/
theorem state_ongoing {node : String} :
    (run (standing answer now) (ongoing node).run b).state = b :=
  asks_ongoing_feed.run_state (p := fun b' => b' = b) (fun q b' hq h => by
    cases q with
    | duration | earliestBlock | openedEvents | resolvedEvents | timedOutEvents => exact h
    | _ => exact hq.elim) rfl

/-- A batch attempts the propositions that are open, each as if it were alone, and then sweeps. -/
theorem exists_batch (hpick : PicksInRange answer) {feeds : Feeds} (h : Tells answer feeds)
    (r : Resolver) (now : Instant) (b : Backoff) : ∃ turns, IsBatch r (reconcile feeds r.node) turns
      (run (standing answer now) (batch r .all).run b) ∧
    ∀ t ∈ turns, t.Alone (run (standing answer now) (attempt r t.proposition) b) ∧
      (run (standing answer now) (batch r .all).run b).state.get? t.proposition.id =
        ((run (standing answer now) (attempt r t.proposition) b).state.get?
          t.proposition.id).filter (now < ·) := by
  have hids := nodup_ids_reconcile feeds r.node
  obtain ⟨turns, hturns, halone⟩ := exists_turns hpick r now hids b
  rw [batch, run_bind_of_ok (ending_ongoing h), state_ongoing,
    run_lift_bind_of_answer hturns.ending]
  refine ⟨turns, ⟨hturns.toTurns, ?_, rfl⟩, fun t ht => ?_⟩
  · let after := (run (standing answer now) (attempts r .all (reconcile feeds r.node)) b).state
    refine ⟨(run (standing answer now) (ongoing r.node).run b).exchanges,
      (standing answer now .sweep after).1, asks_ongoing_feed.held (run_held _ _ _), ?_⟩
    rw [← hturns.exchanges]
    rfl
  · obtain ⟨hturn, hwindow⟩ := halone t ht
    refine ⟨hturn, ?_⟩
    rw [← hwindow]
    exact Backoff.get?_sweep

/-- The turn is the only one of its id. -/
def Turn.IsOnly (t : Turn) (turns : List Turn) : Prop :=
  t ∈ turns ∧ ∀ u ∈ turns, u.proposition.id = t.proposition.id → u = t

theorem IsBatch.exists_isOnly {ps : List Proposition} {turns : List Turn}
    {whole : Run Query Backoff (Except Fault BatchReport)} (h : IsBatch r ps turns whole)
    (hids : (ps.map (·.id)).Nodup) (hp : p ∈ ps) :
    ∃ t : Turn, t.proposition = p ∧ t.IsOnly turns := by
  rw [← h.propositions] at hids hp
  obtain ⟨t, ht, rfl⟩ := List.mem_map.mp hp
  rw [List.map_map] at hids
  exact ⟨t, rfl, ht, fun u hu hid => List.inj_on_of_nodup_map hids hu ht hid⟩

/-- Whatever else is open or remembered, a proposition has the same turn, and the same window after
it. -/
theorem same_turn {feeds feeds' : Feeds} (hpick : PicksInRange answer)
    (hanswer : ∀ q, ¬ q.IsFeed → answer q = answer' q) (hfeeds : Tells answer feeds)
    (hfeeds' : Tells answer' feeds') (hp : p ∈ reconcile feeds r.node)
    (hp' : p ∈ reconcile feeds' r.node) (h : b.get? p.id = b'.get? p.id) :
    let whole := run (standing answer now) (batch r .all).run b
    let whole' := run (standing answer' now) (batch r .all).run b'
    ∃ (turns turns' : List Turn) (own : Turn), IsBatch r (reconcile feeds r.node) turns whole ∧
      IsBatch r (reconcile feeds' r.node) turns' whole' ∧
      own.proposition = p ∧ own.IsOnly turns ∧ own.IsOnly turns' ∧
      whole.state.get? p.id = whole'.state.get? p.id := by
  have hpick' : PicksInRange answer' := fun n hn => hanswer (.pick n) id ▸ hpick n hn
  obtain ⟨turns, hbatch, halone⟩ := exists_batch hpick hfeeds r now b
  obtain ⟨turns', hbatch', halone'⟩ := exists_batch hpick' hfeeds' r now b'
  obtain ⟨t, ht, honly⟩ := hbatch.exists_isOnly (nodup_ids_reconcile _ _) hp
  obtain ⟨t', ht', honly'⟩ := hbatch'.exists_isOnly (nodup_ids_reconcile _ _) hp'
  obtain ⟨hturn, hwindow⟩ := halone t honly.1
  obtain ⟨hturn', hwindow'⟩ := halone' t' honly'.1
  rw [ht] at hturn hwindow
  rw [ht'] at hturn' hwindow'
  -- Either turn is what an attempt alone is, and such attempts go alike in both surroundings.
  have halike := alike_attempt hanswer h r now
  have hsame : t = t' := by
    refine Turn.ext (ht.trans ht'.symm) ?_ (Reply.answer.inj ?_)
    · rw [hturn.exchanges, hturn'.exchanges, halike.exchanges]
    · rw [hturn.outcome, hturn'.outcome, halike.ending]
  subst hsame
  refine ⟨turns, turns', t, hbatch, hbatch', ht, honly, honly', ?_⟩
  rw [hwindow, hwindow', halike.state]

namespace Neighbours

/-- The ledger cannot say whether the first transfer is open, and no node serves a bundle. -/
def answers (feeds : Feeds) : (q : Query) → Answer q
  | .duration => .ok (.ofSeconds 86400)
  | .earliestBlock _ => .ok (0 : UInt64)
  | .openedEvents _ => .ok feeds.opened
  | .resolvedEvents _ => .ok feeds.resolved
  | .timedOutEvents _ => .ok feeds.timedOut
  | .canResolve id => if id = "t1" then .error (.ledger "down") else .ok true
  | .designated _ => .ok "0xME"
  | .submit _ => .ok ⟨"tx", 7⟩
  | .holders _ => .ok []
  | .uploader _ => .ok "0xUP"
  | .download _ _ _ => .error (.status 404)
  | .mark _ => .ok ()
  | .shouldFetch _ => .ok true
  | .shouldResolve _ => .ok true
  | .afterResolution _ => .ok ()
  | .retryTimeout => Span.ofSeconds 60
  | .pick _ => Nat.zero
  | .isSuppressed _ => false
  | .remember _ _ => ()
  | .sweep => Nat.zero

def resolver : Resolver := ⟨.transfer, "0xME", 10000⟩

def first : Proposition := ⟨"t1", "0xS", "b1", 1, ⟨1, 0⟩⟩

def second : Proposition := ⟨"t2", "0xS", "b2", 1, ⟨2, 0⟩⟩

/-- Both transfers are open, and one attempt at the first fails. -/
def crowded : Feeds := ⟨[first, second], [], []⟩

/-- Only the second is open. -/
def lonely : Feeds := ⟨[second], [⟨"t1", "0xME", 3⟩], []⟩

theorem picksInRange (feeds : Feeds) : PicksInRange (answers feeds) := fun _ hn => hn

theorem tells (feeds : Feeds) : Tells (answers feeds) feeds :=
  ⟨.ofSeconds 86400, 0, rfl, rfl, rfl, rfl, rfl⟩

theorem answers_eq (feeds feeds' : Feeds) (q : Query) (hq : ¬ q.IsFeed) :
    answers feeds q = answers feeds' q := by
  cases q with
  | openedEvents | resolvedEvents | timedOutEvents => exact absurd trivial hq
  | _ => rfl

/-- The second transfer has the same turn beside the first, whose attempt fails, and alone, when a
window of the first is open. -/
theorem same_second :
    let whole := run (standing (answers crowded) ⟨0, 0⟩) (batch resolver .all).run .empty
    let whole' := run (standing (answers lonely) ⟨0, 0⟩) (batch resolver .all).run
      (Backoff.empty.insert "t1" .last)
    ∃ (turns turns' : List Turn) (own : Turn), IsBatch resolver [first, second] turns whole ∧
      IsBatch resolver [second] turns' whole' ∧
      own.proposition = second ∧ own.IsOnly turns ∧ own.IsOnly turns' ∧
      whole.state.get? "t2" = whole'.state.get? "t2" := by
  have hcrowded : reconcile crowded resolver.node = [first, second] := by
    rw [reconcile_of_pairwise (by decide)]
    decide +kernel
  have hlonely : reconcile lonely resolver.node = [second] := by
    rw [reconcile_of_pairwise (by decide)]
    decide +kernel
  have hmem : second ∈ reconcile crowded resolver.node := hcrowded ▸ by decide
  have hmem' : second ∈ reconcile lonely resolver.node := hlonely ▸ by decide
  rw [← hcrowded, ← hlonely]
  exact same_turn (p := second) (picksInRange crowded) (answers_eq crowded lonely) (tells crowded)
    (tells lonely) hmem hmem' rfl

end Neighbours

end Resolver

end Sheltering
